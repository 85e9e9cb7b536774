import VantGrowth.Db.Outbox

namespace VantGrowth.Db
open Lib Lib.Text

inductive ExternalActionState where
  | requested | dispatching | retry_scheduled | dispatched | completed | failed
deriving DecidableEq

def ExternalActionState.text : ExternalActionState → String
  | .requested => "requested"
  | .dispatching => "dispatching"
  | .retry_scheduled => "retry_scheduled"
  | .dispatched => "dispatched"
  | .completed => "completed"
  | .failed => "failed"

def actionIdSchema (s : String) : Bool := 1 ≤ jsLength s && jsLength s ≤ 255

def idempotencyKeySchema (s : String) : Bool := 1 ≤ jsLength s && jsLength s ≤ 255

def actionTypeSchema (s : String) : Bool :=
  1 ≤ jsLength s && jsLength s ≤ 100 &&
    match s.toList with
    | [] => false
    | c :: cs => c.isLower &&
        cs.all fun d => d.isLower || d.isDigit || d == '.' || d == '_' || d == '-'

structure ExternalActionRequest where
  tenantId : String
  actionId : String
  actionType : String
  approvedBy : String
  idempotencyKey : String
  requestPayload : Payload

def externalActionRequestSchema (r : ExternalActionRequest) : Bool :=
  isUuid r.tenantId && actionIdSchema r.actionId && actionTypeSchema r.actionType &&
    (1 ≤ jsLength r.approvedBy && jsLength r.approvedBy ≤ 255) &&
    idempotencyKeySchema r.idempotencyKey

structure ExternalActionRecord where
  id : String
  tenantId : String
  actionId : String
  idempotencyKey : String
  requestDigest : String
  actionType : String
  approvedBy : String
  requestPayload : Payload
  state : ExternalActionState
  dispatchAttempts : Nat
  dispatchLeaseOwner : Option String
  dispatchLeaseExpiresAt : Option JsDate
  lastDispatchAt : Option JsDate
  nextRetryAt : Option JsDate
  lastErrorCode : Option String
  lastErrorMessage : Option JsString
  dispatchReceipt : Payload
  outcome : Payload
  workflowId : Option String
  executionId : Option String
  providerReference : Option String
  outcomeReceivedAt : Option JsDate
  createdAt : JsDate
  updatedAt : JsDate

/-- The ids of records and events are `newId` texts, whose twelve digits hold
more of them than a heap does; they are taken to pass the uuid check. -/
def externalActionRecordSchema (r : ExternalActionRecord) : Bool :=
  isUuid r.tenantId && actionIdSchema r.actionId && idempotencyKeySchema r.idempotencyKey &&
    jsLength r.requestDigest == 64 && actionTypeSchema r.actionType &&
    (1 ≤ jsLength r.approvedBy && jsLength r.approvedBy ≤ 255)

structure ExternalActionEventRecord where
  id : String
  tenantId : String
  externalActionId : String
  eventKey : String
  eventType : String
  payload : Payload
  createdAt : Instant

def externalActionEventRecordSchema (e : ExternalActionEventRecord) : Bool :=
  isUuid e.tenantId && e.eventKey != "" && e.eventType != ""

inductive ExternalActionOutcomeStatus where
  | completed | failed
deriving DecidableEq

def ExternalActionOutcomeStatus.state : ExternalActionOutcomeStatus → ExternalActionState
  | .completed => .completed
  | .failed => .failed

structure RecordExternalActionOutcome where
  tenantId : String
  actionId : String
  idempotencyKey : String
  callbackId : String
  status : ExternalActionOutcomeStatus
  workflowId : Option String := none
  executionId : Option String := none
  providerReference : Option String := none
  outcome : Payload := []
  errorCode : Option String := none
  errorMessage : Option JsString := none
  occurredAt : Option Instant := none

def optionalName (s : Option String) : Bool := s.all fun t => 1 ≤ jsLength t && jsLength t ≤ 255

def recordExternalActionOutcomeSchema (r : RecordExternalActionOutcome) : Bool :=
  isUuid r.tenantId && actionIdSchema r.actionId && idempotencyKeySchema r.idempotencyKey &&
    (1 ≤ jsLength r.callbackId && jsLength r.callbackId ≤ 255) && optionalName r.workflowId &&
    optionalName r.executionId && optionalName r.providerReference && optionalName r.errorCode &&
    r.errorMessage.all fun m => 1 ≤ m.length && m.length ≤ 2000

structure DispatchReceipt where
  httpStatus : JsNumber
  body : Json
  workflowId : Option String := none
  executionId : Option String := none
  providerReference : Option String := none

/-- The fields by which every dispatch operation names its action. -/
structure DispatchIdentity where
  tenantId : String
  actionId : String
  idempotencyKey : String

structure ClaimExternalActionDispatch extends DispatchIdentity where
  leaseOwner : String
  leaseDurationMs : JsNumber
  now : Option JsDate := none

inductive ExternalActionDispatchClaim where
  | claimed (action : ExternalActionRecord)
  | deferred (action : ExternalActionRecord)
  | in_flight (action : ExternalActionRecord)
  | settled (action : ExternalActionRecord)

structure RecordDispatchAcceptedInput extends DispatchIdentity where
  leaseOwner : String
  receipt : DispatchReceipt
  now : Option JsDate := none

structure ScheduleDispatchRetryInput extends DispatchIdentity where
  leaseOwner : String
  retryAfterMs : JsNumber
  errorCode : Option String := none
  errorMessage : JsString
  now : Option JsDate := none

structure FailExternalActionDispatchInput extends DispatchIdentity where
  leaseOwner : String
  errorCode : Option String := none
  errorMessage : JsString
  now : Option JsDate := none

structure EnqueueExternalActionResult where
  action : ExternalActionRecord
  event : StoredOutboxEvent
  isDuplicate : Bool

structure RecordExternalActionOutcomeResult where
  action : ExternalActionRecord
  isDuplicate : Bool

def externalActionOutboxEventType : String := "n8n.dispatch.requested.v1"

/-- `terminalStates.has(state)`: settled for dispatch, not yet for callbacks. -/
def isSettled : ExternalActionState → Bool
  | .dispatched | .completed | .failed => true
  | .requested | .dispatching | .retry_scheduled => false

/-- The run of units outside `[\s,;]` at the front is the credential. -/
def isCredentialUnit (u : UInt16) : Bool := !(JsString.isSpace u || u == 0x2C || u == 0x3B)

/-- `/(bearer\s+)[^\s,;]+/gi`, replaced by `$1[redacted]`. -/
def bearerHit (s : JsString) : Option (JsString × JsString) := do
  let afterWord ← JsString.dropWord (.ofString "bearer") s
  let spaces := afterWord.takeWhile JsString.isSpace
  let afterSpaces := afterWord.dropWhile JsString.isSpace
  guard (spaces ≠ [] ∧ afterSpaces.takeWhile isCredentialUnit ≠ [])
  return (s.take (6 + spaces.length) ++ .ofString "[redacted]",
    afterSpaces.dropWhile isCredentialUnit)

/-- `/(api[_-]?key|token|secret)=[^\s,;]+/gi`, replaced by `$1=[redacted]`. -/
def assignmentHit (s : JsString) : Option (JsString × JsString) := do
  let word ← ["api_key", "api-key", "apikey", "token", "secret"].find? fun w =>
    (JsString.dropWord (.ofString (w ++ "=")) s).isSome
  let value ← JsString.dropWord (.ofString (word ++ "=")) s
  guard (value.takeWhile isCredentialUnit ≠ [])
  return (s.take (jsLength word) ++ .ofString "=[redacted]", value.dropWhile isCredentialUnit)

def sanitizeErrorMessage (value : JsString) : JsString :=
  (JsString.replaceAll assignmentHit (JsString.replaceAll bearerHit value)).take 2000

/-- A text is spread into the payload when it is set and not empty. -/
def truthyField (field : String) (value : Option String) : Payload :=
  match value with
  | some s => if s = "" then [] else [(field, .str s)]
  | none => []

def count (n : Nat) : Json := .num (.finite n)

def lifecyclePayload (action : ExternalActionRecord) (extra : Payload) : Payload :=
  [("external_action_id", .str action.id), ("action_id", .str action.actionId),
    ("action_type", .str action.actionType), ("state", .str action.state.text),
    ("dispatch_attempts", count action.dispatchAttempts)] ++
    truthyField "workflow_id" action.workflowId ++
    truthyField "execution_id" action.executionId ++
    truthyField "provider_reference" action.providerReference ++ extra

inductive FailurePhase where
  | dispatch | outcome

def FailurePhase.text : FailurePhase → String
  | .dispatch => "dispatch"
  | .outcome => "outcome"

def failureIncidentPayload (action : ExternalActionRecord) (phase : FailurePhase) : Payload :=
  [("incident_key", .str ("external-action:" ++ action.id ++ ":failed")),
    ("component_id", .str "n8n-dispatch"), ("severity", .str "high"),
    ("title", .str ("External action " ++ action.actionId ++ " failed")),
    ("summary", .str ("n8n " ++ phase.text ++ " failed for " ++ action.actionType ++
      "; founder review is required before retrying or replacing the action.")),
    ("diagnostic_metadata", .obj [("external_action_id", .str action.id),
      ("action_id", .str action.actionId), ("action_type", .str action.actionType),
      ("phase", .str phase.text), ("dispatch_attempts", count action.dispatchAttempts),
      ("error_code", Json.ofText action.lastErrorCode)])]

def transitionEventPayload (action : ExternalActionRecord) (eventType : String)
    (details : Payload) : Payload :=
  [("state", .str action.state.text), ("action_id", .str action.actionId),
    ("action_type", .str action.actionType), ("dispatch_attempts", count action.dispatchAttempts),
    ("event_type", .str eventType)] ++ details

end VantGrowth.Db
