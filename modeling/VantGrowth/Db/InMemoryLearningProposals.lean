import VantGrowth.Db.LearningProposals

namespace VantGrowth.Db.InMemoryLearningProposalRepository
open Lib Lib.Text LearningProposalStore

section
variable (uuid : Supply)

/-- `now` is what `new Date()` reads during the call. -/
def create (now : Instant) (tenantId : String) (params : CreateLearningProposalParams π) :
    ProposalStore π (LearningProposalRecord π) := do
  let parsedTenantId ← parse (uuidText tenantId)
  let parsed ← parse params.parse
  let key := key parsedTenantId parsed.proposalKey
  match ← Store.read fun s => (s.recordIdByKey.get key).bind s.recordsById.get with
  | some existing => return existing
  | none =>
    let id ← randomUUID uuid
    let record := newRecord parsed id parsedTenantId now
    save record.id record
    Store.modify fun s => { s with recordIdByKey := s.recordIdByKey.set key record.id }
    return record

def claimPromotion (now : Instant) (tenantId id : String) (options : PromotionClaimOptions) :
    ProposalStore π (Option (PromotionClaim π)) := do
  let parsedTenantId ← parse (uuidText tenantId)
  Store.require (options.valid = true) .zod
  let now := options.now.getD now
  match ← Store.read (·.findScopedRecord parsedTenantId id) with
  | none => return none
  | some existing =>
    if existing.status ≠ .approved ∨ hasActivePromotionClaim existing now = true then
      return none
    let token ← randomUUID uuid
    match (JsDate.valid now).plus options.leaseMs with
    | .invalid => Store.throw .zod
    | .valid expiresAt =>
      let proposal := claimedWith token expiresAt now existing
      save id proposal
      return some ⟨proposal, token, expiresAt⟩

end

def getById (tenantId id : String) : ProposalStore π (Option (LearningProposalRecord π)) := do
  let parsedTenantId ← parse (uuidText tenantId)
  Store.read (·.findScopedRecord parsedTenantId id)

def getByProposalKey (tenantId proposalKey : String) :
    ProposalStore π (Option (LearningProposalRecord π)) := do
  let parsedTenantId ← parse (uuidText tenantId)
  match ← Store.read (·.recordIdByKey.get (key parsedTenantId proposalKey)) with
  | none => return none
  | some id => getById parsedTenantId id

def recordEvaluation (now : Instant) (tenantId id : String)
    (params : RecordLearningProposalEvaluationParams) :
    ProposalStore π (Option (LearningProposalRecord π)) := do
  let parsedTenantId ← parse (uuidText tenantId)
  let parsed ← parse params.parse
  match ← Store.read (·.findScopedRecord parsedTenantId id) with
  | none => return none
  | some existing =>
    if existing.status.evaluable = false ∨ hasActivePromotionClaim existing now = true then
      return none
    let updated := evaluated parsed now existing
    save id updated
    return some updated

/-- The proposal is restored when the outbox rejects its write. -/
def approveAndEnqueue (now : Instant) (tenantId id approver : String) :
    ProposalStore π (Option (LearningProposalRecord π × StoredOutboxEvent)) := do
  let parsedTenantId ← parse (uuidText tenantId)
  let parsedApprovedBy ← parse (nonEmptyText approver)
  match ← Store.read (·.findScopedRecord parsedTenantId id) with
  | none => return none
  | some existing =>
    if existing.status ≠ .requires_approval then return none
    let updated := approvedBy parsedApprovedBy now existing
    save id updated
    Store.tryCatch
      (do
        let outboxEvent ← enqueue now (learningProposalApprovalOutboxCommand updated)
        return some (updated, outboxEvent))
      fun error => do
        save id existing
        Store.throw error

def approve (now : Instant) (tenantId id approver : String) :
    ProposalStore π (Option (LearningProposalRecord π)) := do
  let result ← approveAndEnqueue now tenantId id approver
  return result.map Prod.fst

def markPromoted (now : Instant) (tenantId id promotedVersionRef promotionClaimToken : String) :
    ProposalStore π (Option (LearningProposalRecord π)) := do
  let parsedTenantId ← parse (uuidText tenantId)
  let versionRef ← parse (nonEmptyText promotedVersionRef)
  let claimToken ← parse (uuidText promotionClaimToken)
  match ← Store.read (·.findScopedRecord parsedTenantId id) with
  | none => return none
  | some existing =>
    if existing.status ≠ .approved ∨ existing.promotionClaimToken ≠ some claimToken ∨
        hasActivePromotionClaim existing now = false then
      return none
    let updated := promotedTo versionRef now existing
    save id updated
    return some updated

def markRolledBack (now : Instant) (tenantId id rollbackVersionRef : String) :
    ProposalStore π (Option (LearningProposalRecord π)) := do
  let parsedTenantId ← parse (uuidText tenantId)
  let versionRef ← parse (nonEmptyText rollbackVersionRef)
  match ← Store.read (·.findScopedRecord parsedTenantId id) with
  | none => return none
  | some existing =>
    if existing.status ≠ .promoted then return none
    let updated := rolledBackTo versionRef now existing
    save id updated
    return some updated

end VantGrowth.Db.InMemoryLearningProposalRepository
