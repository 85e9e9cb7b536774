import VantGrowth.Db.LearningProposals

namespace VantGrowth.Db.PostgresLearningProposalRepository
open Lib Lib.Text LearningProposalStore

/-- `or(isNull(token), lte(expires_at, now))`; a comparison with null is not
true. -/
def claimable (record : LearningProposalRecord π) (now : Instant) : Bool :=
  record.promotionClaimToken.isNone || record.promotionClaimExpiresAt.any (· ≤ now)

/-- `UPDATE … WHERE tenant_id AND id AND guard RETURNING *`, one atomic
conditional update. -/
def updateWhere (tenantId id : String) (guard : LearningProposalRecord π → Bool)
    (set : LearningProposalRecord π → LearningProposalRecord π) :
    ProposalStore π (Option (LearningProposalRecord π)) := do
  match ← Store.read fun s => (s.findScopedRecord tenantId id).filter guard with
  | none => return none
  | some row =>
    save id (set row)
    return some (set row)

section
variable (uuid : Supply)

/-- `INSERT … ON CONFLICT (tenant_id, proposal_key) DO NOTHING`, then the row
of that key. -/
def create (now : Instant) (tenantId : String) (params : CreateLearningProposalParams π) :
    ProposalStore π (LearningProposalRecord π) := do
  let parsedTenantId ← parse (uuidText tenantId)
  let parsed ← parse params.parse
  let key := key parsedTenantId parsed.proposalKey
  match ← Store.read (·.recordIdByKey.get key) with
  | none =>
    let id ← randomUUID uuid
    let record := newRecord parsed id parsedTenantId now
    save record.id record
    Store.modify fun s => { s with recordIdByKey := s.recordIdByKey.set key record.id }
    return record
  | some id =>
    match ← Store.read (·.recordsById.get id) with
    | some existing => return existing
    | none => Store.throw (.error "Learning proposal create returned no row.")

def claimPromotion (now : Instant) (tenantId id : String) (options : PromotionClaimOptions) :
    ProposalStore π (Option (PromotionClaim π)) := do
  let parsedTenantId ← parse (uuidText tenantId)
  let parsedId ← parse (uuidText id)
  Store.require (options.valid = true) .zod
  let now := options.now.getD now
  let token ← randomUUID uuid
  match (JsDate.valid now).plus options.leaseMs with
  | .invalid => Store.throw .range
  | .valid expiresAt =>
    let updated ← updateWhere parsedTenantId parsedId
      (fun row => row.status == .approved && claimable row now)
      (claimedWith token expiresAt now)
    return updated.map fun proposal => ⟨proposal, token, expiresAt⟩

end

def getById (tenantId id : String) : ProposalStore π (Option (LearningProposalRecord π)) := do
  let parsedTenantId ← parse (uuidText tenantId)
  let parsedId ← parse (uuidText id)
  Store.read (·.findScopedRecord parsedTenantId parsedId)

/-- The row of the unique index on tenant and key. -/
def getByProposalKey (tenantId proposalKey : String) :
    ProposalStore π (Option (LearningProposalRecord π)) := do
  let parsedTenantId ← parse (uuidText tenantId)
  let parsedKey ← parse (nonEmptyText proposalKey)
  Store.read fun s => (s.recordIdByKey.get (key parsedTenantId parsedKey)).bind
    (s.findScopedRecord parsedTenantId)

/-- The row is selected and checked first; the update repeats the check on the
status it saw. -/
def recordEvaluation (now : Instant) (tenantId id : String)
    (params : RecordLearningProposalEvaluationParams) :
    ProposalStore π (Option (LearningProposalRecord π)) := do
  let parsedTenantId ← parse (uuidText tenantId)
  let parsedId ← parse (uuidText id)
  let parsed ← parse params.parse
  match ← Store.read (·.findScopedRecord parsedTenantId parsedId) with
  | none => return none
  | some current =>
    if current.status.evaluable = false ∨ hasActivePromotionClaim current now = true then
      return none
    updateWhere parsedTenantId parsedId
      (fun row => row.status == current.status && claimable row now)
      (evaluated parsed now)

/-- One transaction: the conditional update, the outbox row unless its key is
taken, and the outbox row of that key. -/
def approveAndEnqueue (now : Instant) (tenantId id approver : String) :
    ProposalStore π (Option (LearningProposalRecord π × StoredOutboxEvent)) := do
  let parsedTenantId ← parse (uuidText tenantId)
  let parsedId ← parse (uuidText id)
  let parsedApprovedBy ← parse (nonEmptyText approver)
  Store.transaction do
    match ← updateWhere parsedTenantId parsedId (·.status == .requires_approval)
      (approvedBy parsedApprovedBy now) with
    | none => return none
    | some proposal =>
      let outboxEvent ← enqueue now (learningProposalApprovalOutboxCommand proposal)
      return some (proposal, outboxEvent)

def approve (now : Instant) (tenantId id approver : String) :
    ProposalStore π (Option (LearningProposalRecord π)) := do
  let result ← approveAndEnqueue now tenantId id approver
  return result.map Prod.fst

def markPromoted (now : Instant) (tenantId id promotedVersionRef promotionClaimToken : String) :
    ProposalStore π (Option (LearningProposalRecord π)) := do
  let parsedTenantId ← parse (uuidText tenantId)
  let parsedId ← parse (uuidText id)
  let versionRef ← parse (nonEmptyText promotedVersionRef)
  let claimToken ← parse (uuidText promotionClaimToken)
  updateWhere parsedTenantId parsedId
    (fun row => row.status == .approved && row.promotionClaimToken == some claimToken &&
      row.promotionClaimExpiresAt.any (now < ·))
    (promotedTo versionRef now)

def markRolledBack (now : Instant) (tenantId id rollbackVersionRef : String) :
    ProposalStore π (Option (LearningProposalRecord π)) := do
  let parsedTenantId ← parse (uuidText tenantId)
  let parsedId ← parse (uuidText id)
  let versionRef ← parse (nonEmptyText rollbackVersionRef)
  updateWhere parsedTenantId parsedId (·.status == .promoted) (rolledBackTo versionRef now)

end VantGrowth.Db.PostgresLearningProposalRepository
