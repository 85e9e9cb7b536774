import VantGrowth.Workflow.System

namespace VantGrowth.Workflow
open Core Db Lib Lib.Text Prog

/-- A POST as the server receives it: the body and the signature header. -/
structure SignedRequest where
  rawPayload : String
  signature : Option String
deriving DecidableEq

/-- A signature of another length is refused before the comparison, and
buffers the comparison finds unequal are refused by it. -/
def isRuntimeCallbackSignatureValid (d : Deployment) (secret payload : String)
    (providedSignature : Option String) : Bool :=
  providedSignature.any fun provided => provided != "" && jsTrim provided == d.hmac secret payload

/-- An empty secret configures no check. -/
def signatureAccepted (d : Deployment) (request : SignedRequest) : Bool :=
  match d.runtimeCallbackSecret with
  | some secret =>
    secret == "" ||
      isRuntimeCallbackSignatureValid d secret request.rawPayload request.signature
  | none => true

/-- The checks of a callback route before its first await. -/
def readBody (d : Deployment) (request : SignedRequest) : Except WorkflowError Json :=
  if d.outboxRepository = false then
    .error (.serviceUnavailable "Outbox repository is not configured. Set DATABASE_URL.")
  else if signatureAccepted d request = false then
    .error (.unauthorized "Invalid runtime callback signature")
  else
    match d.jsonParse request.rawPayload with
    | some body => .ok body
    | none => .error .syntaxError

def readCallback (d : Deployment) (request : SignedRequest) :
    Except WorkflowError TenantProvisioningRuntimeCallback :=
  match readBody d request with
  | .error e => .error e
  | .ok body =>
    match TenantProvisioningRuntimeCallback.parse body with
    | some payload => .ok payload
    | none => .error (.repository .zod)

/-- `{ ...body, callbackType: "progress" }` -/
def asProgress : Json → Json
  | .obj fields => .obj (("callbackType", .str "progress") :: fields)
  | _ => .obj [("callbackType", .str "progress")]

def readProgress (d : Deployment) (request : SignedRequest) :
    Except WorkflowError TenantProvisioningRuntimeCallback :=
  match readBody d request with
  | .error e => .error e
  | .ok body =>
    match TenantProvisioningRuntimeCallback.parse (asProgress body) with
    | some payload => .ok payload
    | none => .error (.repository .zod)

def ofExcept (value : Except WorkflowError α) : Handler α :=
  match value with
  | .ok a => pure a
  | .error e => Prog.throw e

/-- The 202 answer of a callback route. -/
structure CallbackAccepted where
  workflowId : String
  callbackId : String
  callbackType : CallbackType
  targetState : WorkflowRunState
  trackingId : String
  eventId : Nat
  eventType : String
  enqueuedAt : Instant
deriving DecidableEq

def accepted (payload : TenantProvisioningRuntimeCallback) (targetState : WorkflowRunState)
    (event : StoredOutboxEvent) : CallbackAccepted where
  workflowId := payload.workflowId
  callbackId := payload.callbackId
  callbackType := payload.callbackType
  targetState := targetState
  trackingId := join event.tenantId event.idempotencyKey
  eventId := event.id
  eventType := event.eventType
  enqueuedAt := event.createdAt

def illegalTransition (payload : TenantProvisioningRuntimeCallback) (e : WorkflowTransitionError) :
    WorkflowError :=
  .conflict e.reason [("priorState", e.fromState.text), ("callbackType", payload.callbackType.text),
    ("targetState", e.toState.text)]

def concurrentTransition (payload : TenantProvisioningRuntimeCallback)
    (priorState targetState : WorkflowRunState) : WorkflowError :=
  .conflict ("Concurrent state transition detected for workflow '" ++ payload.workflowId ++
      "'. Retry with latest state.")
    [("priorState", priorState.text), ("targetState", targetState.text)]

/-- The check of the callback against the prior state and the compare-and-swap
out of it. -/
def moveRun (payload : TenantProvisioningRuntimeCallback) (priorState : WorkflowRunState) :
    Handler Unit :=
  let targetState := callbackTypeToState payload.callbackType
  match validateWorkflowTransition priorState targetState with
  | .error e => throw (illegalTransition payload e)
  | .ok _ => do
    let updated ← await (.transitionState payload.tenantId payload.workflowId priorState targetState
      payload.failureCode)
    require (updated.isSome = true ∨ priorState = targetState)
      (concurrentTransition payload priorState targetState)

/-- A run that is not stored counts as requested. -/
def recordTransition (payload : TenantProvisioningRuntimeCallback) : Handler Unit := do
  let run ← await (.getByWorkflowId payload.tenantId payload.workflowId)
  moveRun payload ((run.map (·.state)).getD .requested)

/-- Without a state store any callback is checked against a run in progress. -/
def checkTransition (payload : TenantProvisioningRuntimeCallback) : Handler Unit :=
  match validateWorkflowTransition .in_progress (callbackTypeToState payload.callbackType) with
  | .error e => throw (.conflict e.reason [("callbackType", payload.callbackType.text),
      ("targetState", e.toState.text)])
  | .ok _ => pure ()

/-- Every callback that does not report a failure ends as completed. -/
def terminalCommand (now : Instant) (payload : TenantProvisioningRuntimeCallback) :
    Except DbError EnqueueOutboxEvent :=
  if payload.callbackType = .failed then createTenantProvisioningFailedOutboxCommand now payload
  else createTenantProvisioningCompletedOutboxCommand now payload

/-- A progress event for every callback, and the terminal event after it. -/
def emitEvents (payload : TenantProvisioningRuntimeCallback) : Handler StoredOutboxEvent := do
  let _ ← emit fun now => createTenantProvisioningProgressOutboxCommand now payload
  emit fun now => terminalCommand now payload

/-- `POST /runtime-callbacks/tenant-provisioning` -/
def runtimeCallback (d : Deployment) (request : SignedRequest) : Handler CallbackAccepted := do
  let payload ← ofExcept (readCallback d request)
  if d.workflowRunRepository = true then recordTransition payload else checkTransition payload
  let event ← emitEvents payload
  return accepted payload (callbackTypeToState payload.callbackType) event

/-- `POST /runtime-callbacks/tenant-provisioning/progress` -/
def progressCallback (d : Deployment) (request : SignedRequest) : Handler CallbackAccepted := do
  let payload ← ofExcept (readProgress d request)
  let event ← emit fun now => createTenantProvisioningProgressOutboxCommand now payload
  return accepted payload .in_progress event

/-- `POST /tenant-provisioning`, its body already parsed. -/
def requestProvisioning (d : Deployment) (input : TenantProvisioningWorkflowInput) :
    Handler StoredOutboxEvent := do
  require (d.outboxRepository = true)
    (.serviceUnavailable "Outbox repository is not configured. Set DATABASE_URL.")
  require (input.valid = true) (.repository .zod)
  if d.workflowRunRepository = true then
    let _ ← await (.upsertRequested input.tenantId input.workflowId input.dedupeKey)
  emit fun now => createTenantProvisioningWorkflowOutboxCommand now input

end VantGrowth.Workflow
