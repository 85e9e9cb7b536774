import VantGrowth.Learning.System

namespace VantGrowth.Learning
open Core Db Lib Lib.Text Prog

abbrev Worker := Prog Res DbError

/-- Every call of a repository, a publisher or the clock. -/
def await (op : Op) : Worker (Res op) := Prog.perform op

/-- `schema.parse(value)` -/
def parse (value : Option α) : Worker α :=
  match value with
  | some a => pure a
  | none => throw .zod

/-- What the provider makes of the persisted proposal and the evidence. -/
def evaluationOf (proposalKey : String) (persisted : Proposal) (experiment : ExperimentRecord)
    (evidence : ExperimentEvidenceSummary) : LearningProposalEvaluation where
  proposalId := proposalKey
  risk := persisted.risk
  evidenceCount := evidence.evidenceCount
  uniqueEntities := evidence.uniqueEntities
  confidence := evidence.meanAttributionConfidence
  metricDirection := experiment.metricDirection
  baselineMetric := evidence.baselineMetric
  candidateMetric := evidence.candidateMetric
  worstGuardrailRegression := evidence.worstGuardrailRegression
  humanApproved := persisted.humanApprovedAt.isSome

/-- `PostgresPromotionEvidenceProvider.getEvaluation` -/
def getEvaluation (d : Deployment) (proposal : PlaybookChangeProposal) :
    Worker (Option LearningProposalEvaluation) := do
  let tenantId ← parse (uuidText proposal.tenantId)
  let proposalKey ← parse (nonEmptyText proposal.proposalId)
  match ← await (.getByProposalKey tenantId proposalKey) with
  | none => return none
  | some persisted =>
    match persisted.experimentId with
    | none => return none
    | some experimentId =>
      match ← await (.getExperiment tenantId experimentId) with
      | none => return none
      | some experiment =>
        match ← await (.summarizeEvidence tenantId experiment.id experiment.metricName
          d.guardrailMetricName) with
        | none => return none
        | some evidence => return some (evaluationOf proposalKey persisted experiment evidence)

def createdByOf (critique : CritiqueCompletedPayload) : String :=
  join "critique" critique.critique_id

def proposalOf (tenantId : String) (critique : CritiqueCompletedPayload)
    (playbookType : PlaybookType) : PlaybookChangeProposal where
  tenantId := tenantId
  proposalId := join "critique" critique.critique_id
  artifactKind := critique.artifact_kind
  artifactId := critique.artifact_id
  playbookType := playbookType
  verdict := critique.verdict

/-- The learner may not infer a lower risk than its default. -/
def riskOf (critique : CritiqueCompletedPayload) : ChangeRisk := critique.change_risk.getD .high

def proposedPayload (tenantId : String) (critique : CritiqueCompletedPayload)
    (playbookType : PlaybookType) (proposedAt : Instant) : CritiqueProposalPayload where
  tenant_id := tenantId
  proposal_id := join "critique" critique.critique_id
  experiment_id := critique.experiment_id
  change_risk := riskOf critique
  playbook_type := playbookType
  artifact_kind := critique.artifact_kind
  artifact_id := critique.artifact_id
  critique_id := critique.critique_id
  source := critique.source
  prompt_version := critique.prompt_version
  verdict := critique.verdict
  confidence_score := critique.confidence_score
  failure_reasons := critique.reasons
  critiqued_at := critique.critiqued_at
  status := "awaiting_evidence"
  proposed_at := proposedAt

/-- What `persistProposal` asks the repository to create. -/
def persistParams (tenantId : String) (critique : CritiqueCompletedPayload)
    (playbookType : PlaybookType) (proposedAt : Instant) :
    CreateLearningProposalParams CritiqueProposalPayload where
  proposalKey := join "critique" critique.critique_id
  experimentId := critique.experiment_id
  targetType := playbookType.text
  targetId := critique.artifact_id
  risk := riskOf critique
  proposalPayload := proposedPayload tenantId critique playbookType proposedAt
  createdBy := createdByOf critique

def changeProposedCommand (tenantId : String) (payload : CritiqueProposalPayload)
    (persisted : Proposal) : EnqueueOutboxEvent where
  tenantId := tenantId
  eventType := "learning.playbook.change.proposed.v1"
  idempotencyKey := join "playbook-proposal" payload.critique_id
  payload := payload.toJson ++ [("learning_proposal_id", .str persisted.id)]

def evidenceSnapshot (evaluation : LearningProposalEvaluation) : Payload :=
  [("evidence_count", .num (.finite evaluation.evidenceCount)),
    ("unique_entities", .num (.finite evaluation.uniqueEntities)),
    ("confidence", .num (.finite evaluation.confidence)),
    ("baseline_metric", .num (.finite evaluation.baselineMetric)),
    ("candidate_metric", .num (.finite evaluation.candidateMetric)),
    ("worst_guardrail_regression", .num (.finite evaluation.worstGuardrailRegression))]

def evaluationParams (evaluation : LearningProposalEvaluation) (promotion : GateDecision) :
    RecordLearningProposalEvaluationParams where
  decision := promotion.decision
  evidenceSnapshot := evidenceSnapshot evaluation
  evaluationSnapshot :=
    [("proposal_id", .str evaluation.proposalId), ("risk", .str (riskText evaluation.risk)),
      ("evidence_count", .num (.finite evaluation.evidenceCount)),
      ("unique_entities", .num (.finite evaluation.uniqueEntities)),
      ("confidence", .num (.finite evaluation.confidence)),
      ("metric_direction", .str (directionText evaluation.metricDirection)),
      ("baseline_metric", .num (.finite evaluation.baselineMetric)),
      ("candidate_metric", .num (.finite evaluation.candidateMetric)),
      ("worst_guardrail_regression", .num (.finite evaluation.worstGuardrailRegression)),
      ("human_approved", .bool evaluation.humanApproved),
      ("relative_lift", .num (.finite promotion.relativeLift))]
  decisionReasons := promotion.reasons

/-- Another delivery may have decided already: only a proposal recorded as
approved is eligible. -/
def recordPromotionDecision (tenantId : String) (persisted : Proposal)
    (evaluation : LearningProposalEvaluation) (promotion : GateDecision) : Worker Bool := do
  match ← await
    (.recordEvaluation tenantId persisted.id (evaluationParams evaluation promotion)) with
  | none => return false
  | some recorded => return recorded.status == .approved

def enqueuePlaybookUpdated (tenantId : String) (proposal : PlaybookChangeProposal)
    (critique : CritiqueCompletedPayload) (playbookType : PlaybookType) (persisted : Proposal)
    (playbookVersionId : String) (criteriaAdded : Nat) (relativeLift : ℚ) : Worker Unit := do
  let updatedAt ← await .now
  let _ ← await (.enqueue
    { tenantId, eventType := "learning.playbook.updated.v1",
      idempotencyKey := join "playbook-update" critique.critique_id,
      payload := [("tenant_id", .str tenantId), ("playbook_version_id", .str playbookVersionId),
        ("playbook_type", .str playbookType.text), ("artifact_kind", .str critique.artifact_kind),
        ("artifact_id", .str critique.artifact_id), ("critique_id", .str critique.critique_id),
        ("verdict", .str critique.verdict.text),
        ("criteria_added", .num (.finite criteriaAdded)),
        ("proposal_id", .str proposal.proposalId), ("learning_proposal_id", .str persisted.id),
        ("relative_lift", .num (.finite relativeLift)),
        ("updated_at", .str (Instant.toISOString updatedAt))] })

/-- A duplicate message may find the proposal promoted already, to the same
version only. -/
def markProposalPromoted (tenantId : String) (proposal : Proposal) (versionId : String)
    (promotionClaimToken : String) : Worker Unit := do
  match ← await (.markPromoted tenantId proposal.id versionId promotionClaimToken) with
  | some _ => return ()
  | none =>
    let unable := DbError.error
      ("Unable to mark learning proposal " ++ proposal.id ++ " as promoted.")
    match ← await (.getProposal tenantId proposal.id) with
    | none => throw unable
    | some current =>
      require (current.status = .promoted ∧ current.promotedVersionRef = some versionId) unable

def versionName (playbookType : PlaybookType) (critique : CritiqueCompletedPayload) : JsString :=
  JsString.ofString (playbookType.text ++ " rubric — critique ") ++
    (JsString.ofString critique.critique_id).take 8

def versionDescription (critique : CritiqueCompletedPayload) (added : Nat) : JsString :=
  JsString.ofString ("Auto-updated from critique verdict \"" ++ critique.verdict.text ++
    "\". Added " ++ decimal added ++ " criterion(s) from " ++ decimal critique.reasons.length ++
    " failure reason(s).")

/-- The version a promotion creates over the one it read as active. -/
def versionParams (playbookType : PlaybookType) (critique : CritiqueCompletedPayload)
    (existing : Option PlaybookVersionRecord) (criteriaTimestamp effectiveAt : Instant) :
    CreatePlaybookVersionParams :=
  let updated :=
    buildUpdatedRubricContent (existing.map (·.content)) critique.reasons criteriaTimestamp
  { playbookType, name := versionName playbookType critique,
    description := some (versionDescription critique updated.addedCriteria.length),
    content := .rubric updated.content, createdBy := createdByOf critique,
    effectiveAt := some effectiveAt }

/-- The claim comes before the lookup of an earlier version, so that a worker
that recovers after a crash finds what the crashed one created. -/
def promotePlaybookChange (tenantId : String) (proposal : PlaybookChangeProposal)
    (critique : CritiqueCompletedPayload) (playbookType : PlaybookType) (persisted : Proposal)
    (relativeLift : ℚ) : Worker (Option PlaybookVersionRecord) := do
  match ← await (.claimPromotion tenantId persisted.id) with
  | none => return none
  | some promotionClaim =>
    let priorVersions : List PlaybookVersionRecord ← await (.listVersions tenantId playbookType)
    match priorVersions.find? (·.createdBy == createdByOf critique) with
    | some existingPromotion =>
      enqueuePlaybookUpdated tenantId proposal critique playbookType persisted
        existingPromotion.id 0 relativeLift
      markProposalPromoted tenantId persisted existingPromotion.id promotionClaim.token
      return some existingPromotion
    | none =>
      let existing : Option PlaybookVersionRecord ←
        await (.getActiveVersion tenantId playbookType)
      let criteriaTimestamp : Instant ← await .now
      let effectiveAt : Instant ← await .now
      let newVersion : PlaybookVersionRecord ← await (.createVersion tenantId
        (versionParams playbookType critique existing criteriaTimestamp effectiveAt))
      let addedCriteria := (buildUpdatedRubricContent (existing.map (·.content)) critique.reasons
        criteriaTimestamp).addedCriteria
      enqueuePlaybookUpdated tenantId proposal critique playbookType persisted newVersion.id
        addedCriteria.length relativeLift
      markProposalPromoted tenantId persisted newVersion.id promotionClaim.token
      return some newVersion

/-- From the evidence to the promotion, the part both entries share. -/
def evaluateAndPromote (d : Deployment) (tenantId : String) (proposal : PlaybookChangeProposal)
    (critique : CritiqueCompletedPayload) (playbookType : PlaybookType) (persisted : Proposal) :
    Worker (Option PlaybookVersionRecord) := do
  match ← getEvaluation d proposal with
  | none => return none
  | some evaluation =>
    let promotion ← parse (evaluateLearningProposal evaluation d.learningPolicy)
    let isPromotionEligible ← recordPromotionDecision tenantId persisted evaluation promotion
    if isPromotionEligible = false ∨ promotion.decision ≠ .promote then
      return none
    promotePlaybookChange tenantId proposal critique playbookType persisted promotion.relativeLift

def processFromCritique (d : Deployment) (tenantId : String)
    (critique : CritiqueCompletedPayload) : Worker (Option PlaybookVersionRecord) := do
  require (critique.valid = true) .zod
  if critique.verdict = .approve then
    return none
  match resolvePlaybookType critique.artifact_kind with
  | .unknown => return none
  | .inheritedMember => throw .zod
  | .known playbookType =>
    let proposedAt : Instant ← await .now
    let persisted : Proposal ← await
      (.createProposal tenantId (persistParams tenantId critique playbookType proposedAt))
    let _ ← await (.enqueue (changeProposedCommand tenantId
      (proposedPayload tenantId critique playbookType proposedAt) persisted))
    evaluateAndPromote d tenantId (proposalOf tenantId critique playbookType) critique playbookType
      persisted

/-- The critique an approved proposal was made from, as far as it is stored. -/
def storedCritique (stored : CritiqueProposalPayload) : CritiqueCompletedPayload where
  critique_id := stored.critique_id
  source := stored.source
  artifact_kind := stored.artifact_kind
  artifact_id := stored.artifact_id
  experiment_id := stored.experiment_id
  change_risk := some stored.change_risk
  prompt_version := stored.prompt_version
  verdict := stored.verdict
  confidence_score := stored.confidence_score
  reasons := stored.failure_reasons
  critiqued_at := stored.critiqued_at

def storedProposal (tenantId : String) (stored : CritiqueProposalPayload) :
    PlaybookChangeProposal where
  tenantId := tenantId
  proposalId := stored.proposal_id
  artifactKind := stored.artifact_kind
  artifactId := stored.artifact_id
  playbookType := stored.playbook_type
  verdict := stored.verdict

/-- Evidence is read again: an earlier approval does not license a promotion
if attribution or guardrails have moved since. -/
def processApprovedProposal (d : Deployment) (tenantId proposalId : String) :
    Worker (Option PlaybookVersionRecord) := do
  match ← await (.getProposal tenantId proposalId) with
  | none => return none
  | some persisted =>
    if persisted.status ≠ .approved then
      return none
    let stored := persisted.proposalPayload
    require (stored.valid = true) .zod
    let critique := storedCritique stored
    require (critique.valid = true) .zod
    evaluateAndPromote d tenantId (storedProposal tenantId stored) critique stored.playbook_type
      persisted

def N8N_DISPATCH_EVENT_TYPE : String := "n8n.dispatch.requested.v1"

/-- `OutboxPublisher.publishPendingForTenant`. A row is marked consumed only
after it was published; dispatch rows, which go another way, are deferred. -/
def publishPendingForTenant (tenantId : String) (limit : Nat) : Worker Unit := do
  let pending : List StoredOutboxEvent ← await (.listUnconsumed tenantId limit)
  pending.forM fun event => do
    if event.eventType = N8N_DISPATCH_EVENT_TYPE then
      return ()
    let _ ← await (.publish event)
    let _ ← await (.markConsumed event.tenantId event.id)

/-- What launches a handler: a delivered critique, a delivered approval with
the message it came in, or the outbox publisher's turn for a tenant. -/
inductive Start where
  | critique (tenantId : String) (payload : CritiqueCompletedPayload)
  | approved (eventId : Nat) (tenantId proposalId : String)
  | drain (tenantId : String) (limit : Nat)

/-- The message on the approval subject of a tenant that names a proposal. -/
def isApproval (event : StoredOutboxEvent) (eventId : Nat) (tenantId proposalId : String) : Bool :=
  event.id == eventId && event.tenantId == tenantId &&
    event.eventType == learningProposalApprovedEventType &&
    event.payload.text "proposal_id" == some proposalId

def handlerOf (d : Deployment) : Start → Worker Unit
  | .critique tenantId payload => do
    let _ ← processFromCritique d tenantId payload
  | .approved _ tenantId proposalId => do
    let parsedId ← parse (uuidText proposalId)
    let _ ← processApprovedProposal d tenantId parsedId
  | .drain tenantId limit => publishPendingForTenant tenantId limit

/-- Workers, publishers and founders over one world, interleaved at every
await. A message is acknowledged after its handler returned. -/
def machine (d : Deployment) : Machine Res DbError World Start Unit where
  exec := exec d
  program w s :=
    match s with
    | .approved eventId tenantId proposalId =>
      if w.stream.any (isApproval · eventId tenantId proposalId) = true then
        some (handlerOf d s)
      else none
    | _ => some (handlerOf d s)
  acknowledge
    | .approved eventId _ _ => some (.acknowledge eventId)
    | _ => none
  outside
    | .approveAndEnqueue _ _ _ | .markRolledBack _ _ _ | .tick _ | .replaceExperiments _ => true
    | _ => false

end VantGrowth.Learning
