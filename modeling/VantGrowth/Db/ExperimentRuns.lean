import VantGrowth.Db.Experiments
import VantGrowth.Lib.Store
import VantGrowth.Lib.JsString

namespace VantGrowth.Db
open Core Lib Lib.Text

inductive ExperimentStatus where
  | draft | running | paused | concluded | abandoned | promoted | rolled_back
deriving DecidableEq

def ExperimentStatus.text : ExperimentStatus → String
  | .draft => "draft"
  | .running => "running"
  | .paused => "paused"
  | .concluded => "concluded"
  | .abandoned => "abandoned"
  | .promoted => "promoted"
  | .rolled_back => "rolled_back"

inductive ExperimentWinner where
  | a | b | inconclusive
deriving DecidableEq

/-- A whole row of `experiments`. -/
structure ExperimentRow extends ExperimentRecord where
  experimentKey : String
  motion : String
  experimentType : String
  unitType : String
  hypothesis : String
  variantA : Payload
  variantB : Payload
  minSampleSize : ℚ
  status : ExperimentStatus
  winner : Option ExperimentWinner
  confidence : Option ℚ
  inputSnapshot : Payload
  modelVersion : Option String
  promptVersion : Option String
  playbookVersion : Option String
  policyVersion : Option String
  createdBy : String
  startedAt : Option Instant
  endedAt : Option Instant
  createdAt : Instant
  updatedAt : Instant

structure ExperimentAssignmentRecord where
  id : String
  tenantId : String
  experimentId : String
  entityType : String
  entityId : String
  variant : ExperimentVariant
  assignmentContext : Payload
  assignedAt : Instant
  exposedAt : Option Instant
  createdAt : Instant

/-- A whole row of `experiment_observations`. -/
structure ExperimentObservationRow extends ExperimentObservationRecord where
  id : String
  assignmentId : Option String
  idempotencyKey : String
  attributionModel : String
  source : String
  costAmount : Option ℚ
  costCurrency : Option String
  observedOutcome : Payload
  evidence : Payload
  observedAt : Instant
  createdAt : Instant

/-- `z.enum(["draft", "running"])` -/
inductive InitialStatus where
  | draft | running

def InitialStatus.status : InitialStatus → ExperimentStatus
  | .draft => .draft
  | .running => .running

structure CreateExperimentParams where
  experimentKey : String
  motion : String
  experimentType : String
  unitType : String
  hypothesis : String
  variantA : Payload
  variantB : Payload
  metricName : String
  metricDirection : MetricDirection := .increase
  minSampleSize : ℚ
  initialStatus : InitialStatus := .draft
  inputSnapshot : Payload := []
  modelVersion : Option String := none
  promptVersion : Option String := none
  playbookVersion : Option String := none
  policyVersion : Option String := none
  createdBy : String
  startedAt : Option Instant := none

/-- The value where it passes a check. -/
def checkedValue (value : α) (passes : Bool) : Option α := if passes then some value else none

/-- `createExperimentParamsSchema.parse` -/
def CreateExperimentParams.parse (params : CreateExperimentParams) :
    Option CreateExperimentParams := do
  let experimentKey ← nonEmptyText params.experimentKey
  let motion ← nonEmptyText params.motion
  let experimentType ← nonEmptyText params.experimentType
  let unitType ← nonEmptyText params.unitType
  let hypothesis ← nonEmptyText params.hypothesis
  let metricName ← nonEmptyText params.metricName
  let minSampleSize ←
    checkedValue params.minSampleSize (params.minSampleSize.den == 1 && 0 < params.minSampleSize)
  let modelVersion ← optionalField nonEmptyText params.modelVersion
  let promptVersion ← optionalField nonEmptyText params.promptVersion
  let playbookVersion ← optionalField nonEmptyText params.playbookVersion
  let policyVersion ← optionalField nonEmptyText params.policyVersion
  let createdBy ← nonEmptyText params.createdBy
  return { params with
    experimentKey, motion, experimentType, unitType, hypothesis, metricName, minSampleSize,
    modelVersion, promptVersion, playbookVersion, policyVersion, createdBy }

structure TransitionExperimentParams where
  winner : Option ExperimentWinner := none
  confidence : Option ℚ := none
  endedAt : Option Instant := none

/-- `transitionExperimentParamsSchema.parse` -/
def TransitionExperimentParams.parse (params : TransitionExperimentParams) :
    Option TransitionExperimentParams :=
  checkedValue params (params.confidence.all fun value => 0 ≤ value && value ≤ 1)

structure AssignExperimentParams where
  experimentId : String
  entityType : String
  entityId : String
  variant : ExperimentVariant
  assignmentContext : Payload := []
  exposedAt : Option Instant := none

/-- `assignExperimentParamsSchema.parse` -/
def AssignExperimentParams.parse (params : AssignExperimentParams) :
    Option AssignExperimentParams := do
  let experimentId ← uuidText params.experimentId
  let entityType ← nonEmptyText params.entityType
  let entityId ← nonEmptyText params.entityId
  return { params with experimentId, entityType, entityId }

structure AssignExperimentResult where
  assignment : ExperimentAssignmentRecord
  isExisting : Bool

structure RecordExperimentObservationParams where
  experimentId : String
  assignmentId : Option String := none
  idempotencyKey : String
  entityType : String
  entityId : String
  variant : ExperimentVariant
  metricName : String
  metricValue : ℚ
  isGuardrail : Bool := false
  attributionConfidence : ℚ
  attributionModel : String
  source : String
  costAmount : Option ℚ := none
  costCurrency : Option String := none
  observedOutcome : Payload := []
  evidence : Payload := []
  observedAt : Option Instant := none

/-- What the schema makes of an observation: its confidence is known to be one. -/
structure ParsedObservation extends RecordExperimentObservationParams where
  confidence : Confidence

def parseConfidence (value : ℚ) : Option Confidence :=
  if h : 0 ≤ value ∧ value ≤ 1 then some ⟨value, h⟩ else none

section
variable (toUpperCase : String → String)

/-- `isoCurrencySchema` -/
def isoCurrency (s : String) : Option String :=
  checkedValue (toUpperCase (jsTrim s)) (jsLength (jsTrim s) == 3)

/-- `recordExperimentObservationParamsSchema.parse` -/
def RecordExperimentObservationParams.parse (params : RecordExperimentObservationParams) :
    Option ParsedObservation := do
  let experimentId ← uuidText params.experimentId
  let assignmentId ← optionalField uuidText params.assignmentId
  let idempotencyKey ← nonEmptyText params.idempotencyKey
  let entityType ← nonEmptyText params.entityType
  let entityId ← nonEmptyText params.entityId
  let metricName ← nonEmptyText params.metricName
  let confidence ← parseConfidence params.attributionConfidence
  let attributionModel ← nonEmptyText params.attributionModel
  let source ← nonEmptyText params.source
  let _ ← checkedValue () (params.costAmount.all (0 ≤ ·))
  let costCurrency ← optionalField (isoCurrency toUpperCase) params.costCurrency
  return { params with
    experimentId, assignmentId, idempotencyKey, entityType, entityId, metricName,
    attributionModel, source, costCurrency, confidence }

end

/-- `experimentTransitions` -/
def experimentTransitions : ExperimentStatus → List ExperimentStatus
  | .draft => [.running, .abandoned]
  | .running => [.paused, .concluded, .abandoned]
  | .paused => [.running, .abandoned]
  | .concluded => [.promoted, .abandoned]
  | .abandoned => []
  | .promoted => [.rolled_back]
  | .rolled_back => []

/-- `schema.parse(value)` -/
def parseSchema (value : Option α) : Store DbError σ α :=
  match value with
  | some a => pure a
  | none => Store.throw .zod

def assertExperimentTransition (from_ to_ : ExperimentStatus) : Store DbError σ Unit :=
  Store.require (to_ ∈ experimentTransitions from_)
    (.error ("Illegal experiment transition: " ++ from_.text ++ " -> " ++ to_.text))

def newExperiment (id tenantId : String) (now : Instant) (params : CreateExperimentParams) :
    ExperimentRow :=
  { id, tenantId, experimentKey := params.experimentKey, motion := params.motion,
    experimentType := params.experimentType, unitType := params.unitType,
    hypothesis := params.hypothesis, variantA := params.variantA, variantB := params.variantB,
    metricName := params.metricName, metricDirection := params.metricDirection,
    minSampleSize := params.minSampleSize, status := params.initialStatus.status, winner := none,
    confidence := none, inputSnapshot := params.inputSnapshot, modelVersion := params.modelVersion,
    promptVersion := params.promptVersion, playbookVersion := params.playbookVersion,
    policyVersion := params.policyVersion, createdBy := params.createdBy,
    startedAt := params.startedAt.orElse fun _ =>
      match params.initialStatus with
      | .running => some now
      | .draft => none,
    endedAt := none, createdAt := now, updatedAt := now }

def transitioned (now : Instant) (toStatus : ExperimentStatus) (params : TransitionExperimentParams)
    (existing : ExperimentRow) : ExperimentRow :=
  { existing with
    status := toStatus, winner := params.winner.or existing.winner,
    confidence := params.confidence.or existing.confidence,
    startedAt :=
      if toStatus = .running then some (existing.startedAt.getD now) else existing.startedAt,
    endedAt :=
      if toStatus = .concluded ∨ toStatus = .abandoned then
        some ((params.endedAt.or existing.endedAt).getD now)
      else existing.endedAt,
    updatedAt := now }

def assignable : ExperimentStatus → Bool
  | .draft | .running => true
  | .paused | .concluded | .abandoned | .promoted | .rolled_back => false

def observable : ExperimentStatus → Bool
  | .running | .concluded | .promoted | .rolled_back => true
  | .draft | .paused | .abandoned => false

/-- The experiment a call names, in a status that the call allows. -/
def requireExperiment (found : Option ExperimentRow) (allowed : ExperimentStatus → Bool)
    (refused : String) : Store DbError σ Unit := do
  match found with
  | none => Store.throw (.error "Experiment does not exist for this tenant.")
  | some experiment => Store.require (allowed experiment.status = true) (.error refused)

def notAssignable : String := "Assignments are only allowed for draft or running experiments."

def notObservable : String := "Observations require a running or completed experiment."

def newAssignment (id tenantId : String) (now : Instant) (params : AssignExperimentParams) :
    ExperimentAssignmentRecord :=
  { id, tenantId, experimentId := params.experimentId, entityType := params.entityType,
    entityId := params.entityId, variant := params.variant,
    assignmentContext := params.assignmentContext, assignedAt := now,
    exposedAt := params.exposedAt, createdAt := now }

def newObservation (id tenantId : String) (now : Instant) (params : ParsedObservation) :
    ExperimentObservationRow :=
  { id, tenantId, experimentId := params.experimentId, assignmentId := params.assignmentId,
    idempotencyKey := params.idempotencyKey, entityType := params.entityType,
    entityId := params.entityId, variant := params.variant, metricName := params.metricName,
    metricValue := params.metricValue, isGuardrail := params.isGuardrail,
    attributionConfidence := params.confidence, attributionModel := params.attributionModel,
    source := params.source, costAmount := params.costAmount, costCurrency := params.costCurrency,
    observedOutcome := params.observedOutcome, evidence := params.evidence,
    observedAt := params.observedAt.getD now, createdAt := now }

/-- The assignment an observation names is the one of its unit. -/
def fits (tenantId : String) (params : ParsedObservation) (assignment : ExperimentAssignmentRecord) :
    Bool :=
  assignment.tenantId == tenantId && assignment.experimentId == params.experimentId &&
    assignment.entityType == params.entityType && assignment.entityId == params.entityId &&
    assignment.variant == params.variant

def requireAssignment (assignments : σ → InsertionMap String ExperimentAssignmentRecord)
    (tenantId : String) (params : ParsedObservation) : Store DbError σ Unit :=
  match params.assignmentId with
  | none => pure ()
  | some assignmentId => do
    let assignment ← Store.read fun s => (assignments s).get assignmentId
    Store.require (assignment.any (fits tenantId params) = true)
      (.error "Observation assignment does not match the experiment unit.")

/-- The check of the record schema that its fields have not passed before: upper
case may have changed the length of a currency. -/
def requireCurrency (record : ExperimentObservationRow) : Store DbError σ Unit :=
  Store.require (record.costCurrency.all (jsLength · == 3) = true) .zod

structure InMemoryExperimentRepository where
  experimentsById : InsertionMap String ExperimentRow
  experimentIdByKey : InsertionMap String String
  assignmentsById : InsertionMap String ExperimentAssignmentRecord
  assignmentIdByEntity : InsertionMap String String
  observationsById : InsertionMap String ExperimentObservationRow
  observationIdByKey : InsertionMap String String

namespace InMemoryExperimentRepository

def empty : InMemoryExperimentRepository := ⟨.empty, .empty, .empty, .empty, .empty, .empty⟩

def experimentKey (tenantId experimentKey : String) : String := join tenantId experimentKey

def assignmentKey (tenantId experimentId entityType entityId : String) : String :=
  join tenantId (join experimentId (join entityType entityId))

def observationKey (tenantId experimentId idempotencyKey : String) : String :=
  join tenantId (join experimentId idempotencyKey)

def find (r : InMemoryExperimentRepository) (tenantId id : String) : Option ExperimentRow :=
  (r.experimentsById.get id).filter (·.tenantId == tenantId)

/-- `uuid` is what `crypto.randomUUID()` gives during the call. -/
def create (uuid : String) (now : Instant) (tenantId : String) (params : CreateExperimentParams) :
    Store DbError InMemoryExperimentRepository ExperimentRow := do
  let parsedTenantId ← parseSchema (uuidText tenantId)
  let parsed ← parseSchema params.parse
  let key := experimentKey parsedTenantId parsed.experimentKey
  match ← Store.read fun r => (r.experimentIdByKey.get key).bind r.experimentsById.get with
  | some existing => return existing
  | none =>
    let record := newExperiment uuid parsedTenantId now parsed
    Store.modify fun r => { r with
      experimentsById := r.experimentsById.set record.id record
      experimentIdByKey := r.experimentIdByKey.set key record.id }
    return record

def transition (now : Instant) (tenantId id : String) (fromStatus toStatus : ExperimentStatus)
    (params : TransitionExperimentParams) :
    Store DbError InMemoryExperimentRepository (Option ExperimentRow) := do
  let parsedTenantId ← parseSchema (uuidText tenantId)
  let parsedParams ← parseSchema params.parse
  assertExperimentTransition fromStatus toStatus
  match (← Store.read (·.find parsedTenantId id)).filter (·.status == fromStatus) with
  | none => return none
  | some existing =>
    let updated := transitioned now toStatus parsedParams existing
    Store.modify fun r => { r with experimentsById := r.experimentsById.set id updated }
    return some updated

def assign (uuid : String) (now : Instant) (tenantId : String) (params : AssignExperimentParams) :
    Store DbError InMemoryExperimentRepository AssignExperimentResult := do
  let parsedTenantId ← parseSchema (uuidText tenantId)
  let parsed ← parseSchema params.parse
  let experiment ← Store.read (·.find parsedTenantId parsed.experimentId)
  requireExperiment experiment assignable notAssignable
  let key := assignmentKey parsedTenantId parsed.experimentId parsed.entityType parsed.entityId
  match ← Store.read fun r => (r.assignmentIdByEntity.get key).bind r.assignmentsById.get with
  | some existing => return ⟨existing, true⟩
  | none =>
    let assignment := newAssignment uuid parsedTenantId now parsed
    Store.modify fun r => { r with
      assignmentsById := r.assignmentsById.set assignment.id assignment
      assignmentIdByEntity := r.assignmentIdByEntity.set key assignment.id }
    return ⟨assignment, false⟩

def recordObservation (toUpperCase : String → String) (uuid : String) (now : Instant)
    (tenantId : String) (params : RecordExperimentObservationParams) :
    Store DbError InMemoryExperimentRepository ExperimentObservationRow := do
  let parsedTenantId ← parseSchema (uuidText tenantId)
  let parsed ← parseSchema (params.parse toUpperCase)
  let experiment ← Store.read (·.find parsedTenantId parsed.experimentId)
  requireExperiment experiment observable notObservable
  requireAssignment (·.assignmentsById) parsedTenantId parsed
  let key := observationKey parsedTenantId parsed.experimentId parsed.idempotencyKey
  match ← Store.read fun r => (r.observationIdByKey.get key).bind r.observationsById.get with
  | some existing => return existing
  | none =>
    let record := newObservation uuid parsedTenantId now parsed
    requireCurrency record
    Store.modify fun r => { r with
      observationsById := r.observationsById.set record.id record
      observationIdByKey := r.observationIdByKey.set key record.id }
    return record

/-- What `summarizeEvidence` reads. -/
def evidence (r : InMemoryExperimentRepository) : ExperimentStore :=
  ⟨r.experimentsById.map (·.toExperimentRecord),
    r.observationsById.map (·.toExperimentObservationRecord)⟩

end InMemoryExperimentRepository

/-- The tables by primary key. Their columns hold what they are given: neither
the ranges of numbers nor the characters of texts are bounded here. -/
structure ExperimentTables where
  experiments : InsertionMap String ExperimentRow
  experimentAssignments : InsertionMap String ExperimentAssignmentRecord
  experimentObservations : InsertionMap String ExperimentObservationRow

namespace PostgresExperimentRepository

def empty : ExperimentTables := ⟨.empty, .empty, .empty⟩

/-- `select … where tenant_id = … and id = …` -/
def find (t : ExperimentTables) (tenantId id : String) : Option ExperimentRow :=
  (t.experiments.get id).filter (·.tenantId == tenantId)

/-- The columns of `experiments_tenant_experiment_key_unique`. -/
def sameExperiment (tenantId experimentKey : String) (row : ExperimentRow) : Bool :=
  row.tenantId == tenantId && row.experimentKey == experimentKey

/-- The columns of `experiment_assignments_tenant_experiment_entity_unique`. -/
def sameUnit (tenantId experimentId entityType entityId : String)
    (row : ExperimentAssignmentRecord) : Bool :=
  row.tenantId == tenantId && row.experimentId == experimentId && row.entityType == entityType &&
    row.entityId == entityId

/-- The columns of `experiment_observations_tenant_experiment_idempotency_unique`. -/
def sameObservation (tenantId experimentId idempotencyKey : String)
    (row : ExperimentObservationRow) : Bool :=
  row.tenantId == tenantId && row.experimentId == experimentId &&
    row.idempotencyKey == idempotencyKey

/-- The row of a select that must find one. -/
def loaded (row : Option α) (missing : String) : Store DbError σ α :=
  match row with
  | some row => pure row
  | none => Store.throw (.error missing)

/-- `insert … on conflict do nothing returning`, which gives no row where one
with the same unique columns is there. -/
def insert (get : ExperimentTables → InsertionMap String ν)
    (put : ExperimentTables → InsertionMap String ν → ExperimentTables) (conflict : ν → Bool)
    (id : String) (row : ν) : Store DbError ExperimentTables (Option ν) := do
  if ← Store.read fun t => (get t).values.any conflict then return none
  Store.modify fun t => put t ((get t).set id row)
  return some row

/-- `uuid` is what the default of the id column gives during the call. -/
def create (uuid : String) (now : Instant) (tenantId : String) (params : CreateExperimentParams) :
    Store DbError ExperimentTables ExperimentRow := do
  let parsedTenantId ← parseSchema (uuidText tenantId)
  let parsed ← parseSchema params.parse
  Store.transaction do
    let tenant := uuidColumn parsedTenantId
    let same := sameExperiment tenant parsed.experimentKey
    match ← insert (·.experiments) (fun t rows => { t with experiments := rows }) same uuid
      (newExperiment uuid tenant now parsed) with
    | some row => return row
    | none =>
      loaded (← Store.read fun t => t.experiments.values.find? same)
        "Experiment create returned no row."

def transition (now : Instant) (tenantId id : String) (fromStatus toStatus : ExperimentStatus)
    (params : TransitionExperimentParams) :
    Store DbError ExperimentTables (Option ExperimentRow) := do
  let parsedTenantId ← parseSchema (uuidText tenantId)
  let parsedId ← parseSchema (uuidText id)
  let parsedParams ← parseSchema params.parse
  assertExperimentTransition fromStatus toStatus
  Store.transaction do
    let row := uuidColumn parsedId
    let named ← Store.read (find · (uuidColumn parsedTenantId) row)
    match named.filter (·.status == fromStatus) with
    | none => return none
    | some current =>
      let updated := transitioned now toStatus parsedParams current
      Store.modify fun t => { t with experiments := t.experiments.set row updated }
      return some updated

def assign (uuid : String) (now : Instant) (tenantId : String) (params : AssignExperimentParams) :
    Store DbError ExperimentTables AssignExperimentResult := do
  let parsedTenantId ← parseSchema (uuidText tenantId)
  let parsed ← parseSchema params.parse
  Store.transaction do
    let tenant := uuidColumn parsedTenantId
    let stored := { parsed with experimentId := uuidColumn parsed.experimentId }
    requireExperiment (← Store.read (find · tenant stored.experimentId)) assignable notAssignable
    let same := sameUnit tenant stored.experimentId stored.entityType stored.entityId
    match ← insert (·.experimentAssignments) (fun t rows => { t with experimentAssignments := rows })
      same uuid (newAssignment uuid tenant now stored) with
    | some row => return ⟨row, false⟩
    | none =>
      let existing ← loaded (← Store.read fun t => t.experimentAssignments.values.find? same)
        "Experiment assignment returned no row."
      return ⟨existing, true⟩

def recordObservation (toUpperCase : String → String) (uuid : String) (now : Instant)
    (tenantId : String) (params : RecordExperimentObservationParams) :
    Store DbError ExperimentTables ExperimentObservationRow := do
  let parsedTenantId ← parseSchema (uuidText tenantId)
  let parsed ← parseSchema (params.parse toUpperCase)
  Store.transaction do
    let tenant := uuidColumn parsedTenantId
    let stored := { parsed with
      experimentId := uuidColumn parsed.experimentId
      assignmentId := parsed.assignmentId.map uuidColumn }
    requireExperiment (← Store.read (find · tenant stored.experimentId)) observable notObservable
    requireAssignment (·.experimentAssignments) tenant stored
    let same := sameObservation tenant stored.experimentId stored.idempotencyKey
    match ← insert (·.experimentObservations)
      (fun t rows => { t with experimentObservations := rows }) same uuid
      (newObservation uuid tenant now stored) with
    | some row =>
      requireCurrency row
      return row
    | none =>
      loaded (← Store.read fun t => t.experimentObservations.values.find? same)
        "Experiment observation returned no row."

def evidence (t : ExperimentTables) : ExperimentStore :=
  ⟨t.experiments.map (·.toExperimentRecord),
    t.experimentObservations.map (·.toExperimentObservationRecord)⟩

/-- `summarizeEvidence`, with its uuids compared as their columns keep them. -/
def summarize (t : ExperimentTables) (tenantId experimentId metricName : String)
    (guardrailMetricName : Option String) : Except DbError (Option ExperimentEvidenceSummary) := do
  let parsedTenantId ← parsed (uuidText tenantId)
  let parsedExperimentId ← parsed (uuidText experimentId)
  let summary ← summarizeEvidence (evidence t) (uuidColumn parsedTenantId)
    (uuidColumn parsedExperimentId) metricName guardrailMetricName
  return summary.map fun found => { found with experimentId := parsedExperimentId }

end PostgresExperimentRepository

inductive ExperimentCall where
  | create (tenantId : String) (params : CreateExperimentParams)
  | transition (tenantId id : String) (fromStatus toStatus : ExperimentStatus)
      (params : TransitionExperimentParams)
  | assign (tenantId : String) (params : AssignExperimentParams)
  | recordObservation (tenantId : String) (params : RecordExperimentObservationParams)
  | summarizeEvidence (tenantId experimentId metricName : String)
      (guardrailMetricName : Option String)

inductive ExperimentAnswer where
  | experiment (row : ExperimentRow)
  | transitioned (row : Option ExperimentRow)
  | assigned (result : AssignExperimentResult)
  | observation (row : ExperimentObservationRow)
  | evidence (summary : Option ExperimentEvidenceSummary)

/-- The answer of a computation under the name of its call. -/
def answered (name : α → ExperimentAnswer) (outcome : Except DbError α × σ) :
    Except DbError ExperimentAnswer × σ :=
  (outcome.1.map name, outcome.2)

def InMemoryExperimentRepository.perform (toUpperCase : String → String) (uuid : String)
    (now : Instant) (r : InMemoryExperimentRepository) :
    ExperimentCall → Except DbError ExperimentAnswer × InMemoryExperimentRepository
  | .create tenantId params => answered .experiment ((create uuid now tenantId params).run r)
  | .transition tenantId id fromStatus toStatus params =>
    answered .transitioned ((transition now tenantId id fromStatus toStatus params).run r)
  | .assign tenantId params => answered .assigned ((assign uuid now tenantId params).run r)
  | .recordObservation tenantId params =>
    answered .observation ((recordObservation toUpperCase uuid now tenantId params).run r)
  | .summarizeEvidence tenantId experimentId metricName guardrailMetricName =>
    answered .evidence
      (summarizeEvidence r.evidence tenantId experimentId metricName guardrailMetricName, r)

def PostgresExperimentRepository.perform (toUpperCase : String → String) (uuid : String)
    (now : Instant) (t : ExperimentTables) :
    ExperimentCall → Except DbError ExperimentAnswer × ExperimentTables
  | .create tenantId params => answered .experiment ((create uuid now tenantId params).run t)
  | .transition tenantId id fromStatus toStatus params =>
    answered .transitioned ((transition now tenantId id fromStatus toStatus params).run t)
  | .assign tenantId params => answered .assigned ((assign uuid now tenantId params).run t)
  | .recordObservation tenantId params =>
    answered .observation ((recordObservation toUpperCase uuid now tenantId params).run t)
  | .summarizeEvidence tenantId experimentId metricName guardrailMetricName =>
    answered .evidence (summarize t tenantId experimentId metricName guardrailMetricName, t)

/-- A repository after some calls. -/
structure ExperimentRun (σ : Type) where
  repository : σ
  calls : Nat

namespace ExperimentRun
variable (perform : String → Instant → σ → ExperimentCall → Except DbError ExperimentAnswer × σ)
  (uuid : Supply)

/-- A call made at its time. The uuids of a run are drawn one a call. -/
def outcome (run : ExperimentRun σ) (call : Instant × ExperimentCall) :
    Except DbError ExperimentAnswer × σ :=
  perform (uuid.text run.calls) call.1 run.repository call.2

def step (run : ExperimentRun σ) (call : Instant × ExperimentCall) : ExperimentRun σ :=
  ⟨(run.outcome perform uuid call).2, run.calls + 1⟩

end ExperimentRun

end VantGrowth.Db
