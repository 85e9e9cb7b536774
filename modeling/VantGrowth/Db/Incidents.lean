import VantGrowth.Db.ExternalActions
import VantGrowth.Db.LearningProposals

namespace VantGrowth.Db
open Lib Lib.Text

inductive IncidentSeverity where
  | low | medium | high | critical
deriving DecidableEq

inductive IncidentStatus where
  | open_ | acknowledged | mitigated | resolved
deriving DecidableEq

inductive HealingAction where
  | none_ | resume | retry_with_backoff | use_fallback | rollback | quarantine_and_escalate
deriving DecidableEq

inductive RuntimeHealthState where
  | healthy | degraded | recovering | quarantined
deriving DecidableEq

/-- `String.trim`, unit by unit. -/
def trimUnits (s : JsString) : JsString :=
  ((s.dropWhile JsString.isSpace).reverse.dropWhile JsString.isSpace).reverse

/-- `nonEmptyText`, of a text that may hold unpaired units. -/
def nonEmptyUnits (s : JsString) : Option JsString :=
  if trimUnits s = [] then none else some (trimUnits s)

structure CreateIncidentParams where
  incidentKey : String
  componentId : String
  severity : IncidentSeverity
  title : String
  summary : JsString
  action : Option HealingAction := none
  rollbackVersionRef : Option String := none
  diagnosticMetadata : Payload := []
  openedAt : Option Instant := none

/-- `createIncidentParamsSchema` -/
def CreateIncidentParams.parse (p : CreateIncidentParams) : Option CreateIncidentParams := do
  let incidentKey ← nonEmptyText p.incidentKey
  let componentId ← nonEmptyText p.componentId
  let title ← nonEmptyText p.title
  let summary ← nonEmptyUnits p.summary
  let rollbackVersionRef ← optionalField nonEmptyText p.rollbackVersionRef
  return { p with incidentKey, componentId, title, summary, rollbackVersionRef }

structure IncidentRecord where
  id : String
  tenantId : String
  incidentKey : String
  componentId : String
  severity : IncidentSeverity
  status : IncidentStatus
  title : String
  summary : JsString
  action : Option HealingAction
  rollbackVersionRef : Option String
  diagnosticMetadata : Payload
  openedAt : Instant
  acknowledgedAt : Option Instant
  resolvedAt : Option Instant
  createdAt : Instant
  updatedAt : Instant

/-- The incidents, also found by tenant and key, and the number of uuids
drawn. -/
structure IncidentStore where
  recordsById : InsertionMap String IncidentRecord
  recordIdByKey : InsertionMap String String
  drawn : Nat

namespace IncidentStore

def empty : IncidentStore := ⟨.empty, .empty, 0⟩

def key (tenantId incidentKey : String) : String := join tenantId incidentKey

def find (s : IncidentStore) (tenantId incidentKey : String) : Option IncidentRecord :=
  (s.recordIdByKey.get (key tenantId incidentKey)).bind s.recordsById.get

/-- The records of a tenant under a key. -/
def matching (s : IncidentStore) (tenantId incidentKey : String) : List IncidentRecord :=
  s.recordsById.values.filter fun r => r.tenantId == tenantId && r.incidentKey == incidentKey

def insert (s : IncidentStore) (record : IncidentRecord) : IncidentStore :=
  { s with
    recordsById := s.recordsById.set record.id record
    recordIdByKey := s.recordIdByKey.set (key record.tenantId record.incidentKey) record.id }

def openedRecord (id tenantId : String) (p : CreateIncidentParams) (now : Instant) :
    IncidentRecord :=
  { id, tenantId, incidentKey := p.incidentKey, componentId := p.componentId,
    severity := p.severity, status := .open_, title := p.title, summary := p.summary,
    action := p.action, rollbackVersionRef := p.rollbackVersionRef,
    diagnosticMetadata := p.diagnosticMetadata, openedAt := p.openedAt.getD now,
    acknowledgedAt := none, resolvedAt := none, createdAt := now, updatedAt := now }

/-- `IncidentRepository.create`: the lookup of the in-memory repository and the
insert that gives way to a conflict keep the record that is there. -/
def create (uuid : Supply) (now : Instant) (tenantId : String) (params : CreateIncidentParams) :
    Store DbError IncidentStore IncidentRecord := do
  Store.require (isUuid tenantId = true) .zod
  match params.parse with
  | none => Store.throw .zod
  | some parsed =>
    match ← Store.read (·.find tenantId parsed.incidentKey) with
    | some existing => return existing
    | none =>
      Store.modify fun s => { s with drawn := s.drawn + 1 }
      let id ← Store.read fun s => uuid.text s.drawn
      let record := openedRecord id tenantId parsed now
      Store.modify (·.insert record)
      return record

def failureTitle (action : ExternalActionRecord) : String :=
  "External action " ++ action.actionId ++ " failed"

def failureSummary (action : ExternalActionRecord) (phase : FailurePhase) : JsString :=
  .ofString ("n8n " ++ phase.text ++ " failed for " ++ action.actionType ++
    "; founder review is required before retrying or replacing the action.")

def failureMetadata (action : ExternalActionRecord) (phase : FailurePhase) : Payload :=
  [("external_action_id", .str action.id), ("action_id", .str action.actionId),
    ("action_type", .str action.actionType), ("phase", .str phase.text),
    ("dispatch_attempts", count action.dispatchAttempts),
    ("error_code", Json.ofText action.lastErrorCode)]

def failureKey (action : ExternalActionRecord) : String :=
  "external-action:" ++ action.id ++ ":failed"

/-- The insert of `emitFailureIncidentOutbox`, which updates the row of the key
where there is one. -/
def upsertFailure (uuid : Supply) (now : Instant) (phase : FailurePhase)
    (action : ExternalActionRecord) : Store DbError IncidentStore Unit := do
  match ← Store.read (·.find action.tenantId (failureKey action)) with
  | some row =>
    Store.modify fun s => s.insert { row with
      severity := .high
      status := .open_
      title := failureTitle action
      summary := failureSummary action phase
      action := some .quarantine_and_escalate
      diagnosticMetadata := failureMetadata action phase
      updatedAt := now }
  | none =>
    Store.modify fun s => { s with drawn := s.drawn + 1 }
    let id ← Store.read fun s => uuid.text s.drawn
    Store.modify fun s => s.insert
      { id, tenantId := action.tenantId, incidentKey := failureKey action,
        componentId := "n8n-dispatch", severity := .high, status := .open_,
        title := failureTitle action, summary := failureSummary action phase,
        action := some .quarantine_and_escalate, rollbackVersionRef := none,
        diagnosticMetadata := failureMetadata action phase, openedAt := now,
        acknowledgedAt := none, resolvedAt := none, createdAt := now, updatedAt := now }

end IncidentStore

structure RecordComponentHealthParams where
  componentId : String
  idempotencyKey : String
  state : RuntimeHealthState
  errorRate : ℚ
  consecutiveFailures : Nat
  p95LatencyMs : Nat
  stalenessSeconds : Nat
  dependencyAvailable : Bool
  fallbackAvailable : Bool
  lastKnownGoodAvailable : Bool
  lastKnownGoodVersionRef : Option String := none
  recoveryAttempts : Nat
  guardrailBreached : Bool
  action : HealingAction
  allowExternalActions : Bool
  retryAfterSeconds : Option Nat := none
  reasons : List JsString
  observedAt : Option Instant := none

/-- `recordComponentHealthParamsSchema` -/
def RecordComponentHealthParams.parse (p : RecordComponentHealthParams) :
    Option RecordComponentHealthParams := do
  let componentId ← nonEmptyText p.componentId
  let idempotencyKey ← nonEmptyText p.idempotencyKey
  guard (0 ≤ p.errorRate ∧ p.errorRate ≤ 1)
  let lastKnownGoodVersionRef ← optionalField nonEmptyText p.lastKnownGoodVersionRef
  guard (p.retryAfterSeconds.all (0 < ·) = true)
  let reasons ← p.reasons.mapM nonEmptyUnits
  return { p with componentId, idempotencyKey, lastKnownGoodVersionRef, reasons }

structure ComponentHealthRecord extends RecordComponentHealthParams where
  id : String
  tenantId : String
  createdAt : Instant

/-- The records by tenant, component and idempotency key. -/
structure ComponentHealthStore where
  records : InsertionMap String ComponentHealthRecord
  drawn : Nat

namespace ComponentHealthStore

def empty : ComponentHealthStore := ⟨.empty, 0⟩

def key (tenantId componentId idempotencyKey : String) : String :=
  join tenantId (join componentId idempotencyKey)

/-- What the `integer` columns of Postgres hold. -/
def fitsColumns (p : RecordComponentHealthParams) : Bool :=
  [p.consecutiveFailures, p.p95LatencyMs, p.stalenessSeconds, p.recoveryAttempts,
    p.retryAfterSeconds.getD 0].all (· ≤ 2147483647)

/-- `ComponentHealthRepository.record`, in either implementation. -/
def record (backend : Backend) (uuid : Supply) (now : Instant) (tenantId : String)
    (params : RecordComponentHealthParams) :
    Store DbError ComponentHealthStore ComponentHealthRecord := do
  Store.require (isUuid tenantId = true) .zod
  match params.parse with
  | none => Store.throw .zod
  | some parsed =>
    Store.require (backend = .postgres → fitsColumns parsed = true)
      (.error "value is out of range for type integer")
    let key := key tenantId parsed.componentId parsed.idempotencyKey
    match ← Store.read (·.records.get key) with
    | some existing => return existing
    | none =>
      Store.modify fun s => { s with drawn := s.drawn + 1 }
      let id ← Store.read fun s => uuid.text s.drawn
      let health := { parsed with
        observedAt := some (parsed.observedAt.getD now)
        id := id
        tenantId := tenantId
        createdAt := now }
      Store.modify fun s => { s with records := s.records.set key health }
      return health

end ComponentHealthStore

end VantGrowth.Db
