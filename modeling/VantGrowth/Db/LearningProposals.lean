import VantGrowth.Core.LearningGate
import VantGrowth.Db.Outbox
import VantGrowth.Lib.JsString

namespace VantGrowth.Db
open Core Lib Lib.Text

inductive LearningProposalStatus where
  | awaiting_evidence | evaluating | requires_approval | approved | rejected | promoted
  | rolled_back
deriving DecidableEq

/-- Generic in the payload `π` a producer proposes. -/
structure LearningProposalRecord (π : Type) where
  id : String
  tenantId : String
  proposalKey : String
  experimentId : Option String
  targetType : String
  targetId : String
  risk : ChangeRisk
  status : LearningProposalStatus
  proposalPayload : π
  evidenceSnapshot : Payload
  evaluationSnapshot : Payload
  decision : Option LearningDecision
  decisionReasons : List String
  baseVersionRef : Option String
  candidateVersionRef : Option String
  promotedVersionRef : Option String
  rollbackVersionRef : Option String
  humanApprovedBy : Option String
  humanApprovedAt : Option Instant
  promotionClaimToken : Option String
  promotionClaimExpiresAt : Option Instant
  createdBy : String
  evaluatedAt : Option Instant
  promotedAt : Option Instant
  rolledBackAt : Option Instant
  createdAt : Instant
  updatedAt : Instant

/-- `z.string().trim().min(1)` -/
def nonEmptyText (s : String) : Option String :=
  if jsTrim s = "" then none else some (jsTrim s)

/-- An absent field passes, a present one must parse. -/
def optionalField (parse : String → Option String) : Option String → Option (Option String)
  | none => some none
  | some s => (parse s).map some

def uuidText (s : String) : Option String := if isUuid s = true then some s else none

structure CreateLearningProposalParams (π : Type) where
  proposalKey : String
  experimentId : Option String := none
  targetType : String
  targetId : String
  risk : ChangeRisk
  proposalPayload : π
  baseVersionRef : Option String := none
  candidateVersionRef : Option String := none
  createdBy : String

/-- `createLearningProposalParamsSchema.parse` -/
def CreateLearningProposalParams.parse (params : CreateLearningProposalParams π) :
    Option (CreateLearningProposalParams π) := do
  let proposalKey ← nonEmptyText params.proposalKey
  let experimentId ← optionalField uuidText params.experimentId
  let targetType ← nonEmptyText params.targetType
  let targetId ← nonEmptyText params.targetId
  let baseVersionRef ← optionalField nonEmptyText params.baseVersionRef
  let candidateVersionRef ← optionalField nonEmptyText params.candidateVersionRef
  let createdBy ← nonEmptyText params.createdBy
  return { params with
    proposalKey, experimentId, targetType, targetId, baseVersionRef, candidateVersionRef,
    createdBy }

structure RecordLearningProposalEvaluationParams where
  decision : LearningDecision
  evidenceSnapshot : Payload
  evaluationSnapshot : Payload
  decisionReasons : List String

/-- `recordLearningProposalEvaluationParamsSchema.parse` -/
def RecordLearningProposalEvaluationParams.parse
    (params : RecordLearningProposalEvaluationParams) :
    Option RecordLearningProposalEvaluationParams := do
  let decisionReasons ← params.decisionReasons.mapM nonEmptyText
  if decisionReasons = [] then none
  return { params with decisionReasons }

def MIN_PROMOTION_CLAIM_LEASE_MS : ℚ := 1000
def MAX_PROMOTION_CLAIM_LEASE_MS : ℚ := 15 * 60000
def DEFAULT_PROMOTION_CLAIM_LEASE_MS : JsNumber := .finite 60000

structure PromotionClaimOptions where
  leaseMs : JsNumber := DEFAULT_PROMOTION_CLAIM_LEASE_MS
  now : Option Instant := none

/-- `promotionClaimOptionsSchema`: a whole number of milliseconds in range. -/
def PromotionClaimOptions.valid (options : PromotionClaimOptions) : Bool :=
  match options.leaseMs with
  | .finite ms => ms.den == 1 && MIN_PROMOTION_CLAIM_LEASE_MS ≤ ms &&
      ms ≤ MAX_PROMOTION_CLAIM_LEASE_MS
  | _ => false

structure PromotionClaim (π : Type) where
  proposal : LearningProposalRecord π
  token : String
  expiresAt : Instant

def hasActivePromotionClaim (proposal : LearningProposalRecord π) (now : Instant) : Bool :=
  proposal.promotionClaimToken.isSome && proposal.promotionClaimExpiresAt.any (now < ·)

def learningProposalApprovedEventType : String := "learning.proposal.approved.v1"

def learningProposalApprovalOutboxCommand (proposal : LearningProposalRecord π) :
    EnqueueOutboxEvent :=
  { tenantId := proposal.tenantId, eventType := learningProposalApprovedEventType,
    idempotencyKey := join "learning-proposal-approved" proposal.id,
    payload := [("proposal_id", .str proposal.id), ("proposal_key", .str proposal.proposalKey),
      ("approved_by", .str (proposal.humanApprovedBy.getD "")),
      ("approved_at", Json.ofText (proposal.humanApprovedAt.map Instant.toISOString))] }

/-- A successful evidence gate only makes a proposal eligible. -/
def proposalStatusForDecision : LearningDecision → LearningProposalStatus
  | .continue_experiment => .awaiting_evidence
  | .reject => .rejected
  | .requires_approval => .requires_approval
  | .promote => .approved

/-- The statuses in which evidence is evaluated; an approval is no waiver for
a later guardrail breach. -/
def LearningProposalStatus.evaluable : LearningProposalStatus → Bool
  | .awaiting_evidence | .evaluating | .requires_approval | .approved => true
  | .rejected | .promoted | .rolled_back => false

/-- The rows and the unique index of tenant and key, with the outbox the
approval writes to and the number of uuids drawn. -/
structure LearningProposalStore (π : Type) where
  recordsById : InsertionMap String (LearningProposalRecord π)
  recordIdByKey : InsertionMap String String
  outboxRepository : InMemoryOutboxRepository
  drawn : Nat

abbrev ProposalStore (π : Type) := Store DbError (LearningProposalStore π)

namespace LearningProposalStore

def empty : LearningProposalStore π := ⟨.empty, .empty, .empty, 0⟩

def key (tenantId proposalKey : String) : String := join tenantId proposalKey

/-- `schema.parse(value)` -/
def parse (value : Option α) : ProposalStore π α :=
  match value with
  | some a => pure a
  | none => Store.throw .zod

def randomUUID (uuid : Supply) : ProposalStore π String := do
  Store.modify fun s => { s with drawn := s.drawn + 1 }
  Store.read fun s => uuid.text s.drawn

def save (id : String) (record : LearningProposalRecord π) : ProposalStore π Unit :=
  Store.modify fun s => { s with recordsById := s.recordsById.set id record }

def enqueue (now : Instant) (command : EnqueueOutboxEvent) : ProposalStore π StoredOutboxEvent :=
  Store.zoom (·.outboxRepository) (fun s o => { s with outboxRepository := o })
    (InMemoryOutboxRepository.enqueue now command)

def findScopedRecord (s : LearningProposalStore π) (tenantId id : String) :
    Option (LearningProposalRecord π) :=
  (s.recordsById.get id).filter (·.tenantId == tenantId)

def newRecord (params : CreateLearningProposalParams π) (id tenantId : String) (now : Instant) :
    LearningProposalRecord π :=
  { id, tenantId, proposalKey := params.proposalKey, experimentId := params.experimentId,
    targetType := params.targetType, targetId := params.targetId, risk := params.risk,
    status := .awaiting_evidence, proposalPayload := params.proposalPayload,
    evidenceSnapshot := [], evaluationSnapshot := [], decision := none, decisionReasons := [],
    baseVersionRef := params.baseVersionRef, candidateVersionRef := params.candidateVersionRef,
    promotedVersionRef := none, rollbackVersionRef := none, humanApprovedBy := none,
    humanApprovedAt := none, promotionClaimToken := none, promotionClaimExpiresAt := none,
    createdBy := params.createdBy, evaluatedAt := none, promotedAt := none, rolledBackAt := none,
    createdAt := now, updatedAt := now }

def evaluated (params : RecordLearningProposalEvaluationParams) (now : Instant)
    (record : LearningProposalRecord π) : LearningProposalRecord π :=
  { record with
    status := proposalStatusForDecision params.decision, decision := some params.decision,
    evidenceSnapshot := params.evidenceSnapshot, evaluationSnapshot := params.evaluationSnapshot,
    decisionReasons := params.decisionReasons, promotionClaimToken := none,
    promotionClaimExpiresAt := none, evaluatedAt := some now, updatedAt := now }

def approvedBy (approver : String) (now : Instant) (record : LearningProposalRecord π) :
    LearningProposalRecord π :=
  { record with
    status := .approved, humanApprovedBy := some approver, humanApprovedAt := some now,
    promotionClaimToken := none, promotionClaimExpiresAt := none, updatedAt := now }

def claimedWith (token : String) (expiresAt now : Instant) (record : LearningProposalRecord π) :
    LearningProposalRecord π :=
  { record with
    promotionClaimToken := some token, promotionClaimExpiresAt := some expiresAt,
    updatedAt := now }

def promotedTo (versionRef : String) (now : Instant) (record : LearningProposalRecord π) :
    LearningProposalRecord π :=
  { record with
    status := .promoted, promotedVersionRef := some versionRef, promotionClaimToken := none,
    promotionClaimExpiresAt := none, promotedAt := some now, updatedAt := now }

def rolledBackTo (versionRef : String) (now : Instant) (record : LearningProposalRecord π) :
    LearningProposalRecord π :=
  { record with
    status := .rolled_back, rollbackVersionRef := some versionRef, rolledBackAt := some now,
    updatedAt := now }

end LearningProposalStore

end VantGrowth.Db
