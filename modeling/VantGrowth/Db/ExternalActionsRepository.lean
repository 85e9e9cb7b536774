import VantGrowth.Db.ExternalActions
import VantGrowth.Lib.Runs

namespace VantGrowth.Db
open Lib Lib.Text

structure InMemoryExternalActionsRepository where
  actionsById : InsertionMap String ExternalActionRecord
  actionIndex : InsertionMap String String
  idempotencyIndex : InsertionMap String String
  eventsByActionId : InsertionMap String (List ExternalActionEventRecord)
  sequence : Nat
  outboxRepository : InMemoryOutboxRepository

/-- The readings `new Date()` gives one after another during a call. -/
abbrev Clock := Nat → Instant

abbrev ActionStore := Store DbError InMemoryExternalActionsRepository

namespace InMemoryExternalActionsRepository

def empty : InMemoryExternalActionsRepository :=
  ⟨.empty, .empty, .empty, .empty, 0, .empty⟩

def key (tenantId value : String) : String := join tenantId value

def idPrefix : String := "00000000-0000-4000-8000-"

def idText (sequence : Nat) : String := idPrefix ++ padStart 12 sequence

def newId : ActionStore String := do
  Store.modify fun r => { r with sequence := r.sequence + 1 }
  Store.read fun r => idText r.sequence

def save (action : ExternalActionRecord) : ActionStore ExternalActionRecord := do
  Store.modify fun r => { r with actionsById := r.actionsById.set action.id action }
  return action

def ledger (r : InMemoryExternalActionsRepository) (id : String) :
    List ExternalActionEventRecord :=
  (r.eventsByActionId.get id).getD []

def lookup (r : InMemoryExternalActionsRepository) (tenantId actionId : String) :
    Option ExternalActionRecord :=
  (r.actionIndex.get (key tenantId actionId)).bind r.actionsById.get

def find (identity : DispatchIdentity) : ActionStore ExternalActionRecord := do
  match ← Store.read (·.lookup identity.tenantId identity.actionId) with
  | none => Store.throw (.notFound identity.actionId)
  | some action =>
    Store.require (action.idempotencyKey = identity.idempotencyKey) (.notFound identity.actionId)
    return action

def eventRecord (id : String) (createdAt : Instant) (action : ExternalActionRecord)
    (eventKey eventType : String) (payload : Payload) : ExternalActionEventRecord :=
  { id, tenantId := action.tenantId, externalActionId := action.id, eventKey, eventType,
    payload, createdAt }

def appendEvent (createdAt : Instant) (action : ExternalActionRecord)
    (eventKey eventType : String) (payload : Payload) : ActionStore Unit := do
  let events ← Store.read (·.ledger action.id)
  if events.any (·.eventKey == eventKey) then return ()
  let id ← newId
  let event := eventRecord id createdAt action eventKey eventType payload
  Store.require (externalActionEventRecordSchema event = true) .zod
  Store.modify fun r =>
    { r with eventsByActionId := r.eventsByActionId.set action.id (events ++ [event]) }

def enqueue (clock : Instant) (command : EnqueueOutboxEvent) : ActionStore StoredOutboxEvent :=
  Store.zoom (·.outboxRepository) (fun r o => { r with outboxRepository := o })
    (InMemoryOutboxRepository.enqueue clock command)

def lifecycleCommand (action : ExternalActionRecord) (eventType idempotencyKey : String)
    (extra : Payload) : EnqueueOutboxEvent :=
  { tenantId := action.tenantId, eventType, idempotencyKey,
    payload := lifecyclePayload action extra }

def emitLifecycle (clock : Instant) (action : ExternalActionRecord)
    (eventType idempotencyKey : String) (extra : Payload) : ActionStore Unit := do
  let _ ← enqueue clock (lifecycleCommand action eventType idempotencyKey extra)

def incidentCommand (action : ExternalActionRecord) (phase : FailurePhase) : EnqueueOutboxEvent :=
  { tenantId := action.tenantId, eventType := "incident.opened.v1",
    idempotencyKey := join "external-action-failure" action.id,
    payload := failureIncidentPayload action phase }

def emitFailureIncident (clock : Instant) (action : ExternalActionRecord)
    (phase : FailurePhase) : ActionStore Unit := do
  let _ ← enqueue clock (incidentCommand action phase)

/-- The dispatch request as the outbox carries it. -/
def dispatchCommand (request : ExternalActionRequest) : EnqueueOutboxEvent :=
  { tenantId := request.tenantId, eventType := externalActionOutboxEventType,
    idempotencyKey := request.idempotencyKey,
    payload := [("tenantId", .str request.tenantId), ("actionId", .str request.actionId),
      ("actionType", .str request.actionType), ("approvedBy", .str request.approvedBy),
      ("idempotencyKey", .str request.idempotencyKey), ("payload", .obj request.requestPayload)] }

def requestedAction (request : ExternalActionRequest) (id digest : String) (now : Instant) :
    ExternalActionRecord :=
  { id, tenantId := request.tenantId, actionId := request.actionId,
    idempotencyKey := request.idempotencyKey, requestDigest := digest,
    actionType := request.actionType, approvedBy := request.approvedBy,
    requestPayload := request.requestPayload, state := .requested, dispatchAttempts := 0,
    dispatchLeaseOwner := none, dispatchLeaseExpiresAt := none, lastDispatchAt := none,
    nextRetryAt := none, lastErrorCode := none, lastErrorMessage := none, dispatchReceipt := [],
    outcome := [], workflowId := none, executionId := none, providerReference := none,
    outcomeReceivedAt := none, createdAt := .valid now, updatedAt := .valid now }

section
variable (digest : ExternalActionRequest → String)

def enqueueRequested (clock : Clock) (request : ExternalActionRequest) :
    ActionStore EnqueueExternalActionResult := do
  Store.require (externalActionRequestSchema request = true) .zod
  let byAction ← Store.read (·.actionIndex.get (key request.tenantId request.actionId))
  let byIdempotency ← Store.read (·.idempotencyIndex.get (key request.tenantId request.idempotencyKey))
  match byAction.orElse fun _ => byIdempotency with
  | some existingId =>
    match ← Store.read (·.actionsById.get existingId) with
    | none => Store.throw (.error "External action idempotency index is corrupt")
    | some existing =>
      Store.require (existing.actionId = request.actionId ∧
          existing.idempotencyKey = request.idempotencyKey ∧
          existing.requestDigest = digest request)
        (.conflict
          "actionId or idempotencyKey was reused with a different external action request")
      let event ← enqueue (clock 0) (dispatchCommand request)
      return ⟨existing, event, true⟩
  | none =>
    let id ← newId
    let action := requestedAction request id (digest request) (clock 0)
    Store.require (externalActionRecordSchema action = true) .zod
    let _ ← save action
    Store.modify fun r => { r with
      actionIndex := r.actionIndex.set (key request.tenantId request.actionId) action.id
      idempotencyIndex :=
        r.idempotencyIndex.set (key request.tenantId request.idempotencyKey) action.id }
    appendEvent (clock 1) action (join "requested" request.idempotencyKey) "requested"
      (transitionEventPayload action "requested" [])
    let event ← enqueue (clock 2) (dispatchCommand request)
    return ⟨action, event, false⟩

end

/-- `validateDispatchIdentity` -/
def validateDispatchIdentity (identity : DispatchIdentity) : ActionStore Unit :=
  Store.require (isUuid identity.tenantId = true ∧ actionIdSchema identity.actionId = true ∧
    idempotencyKeySchema identity.idempotencyKey = true) .zod

def claimedAction (input : ClaimExternalActionDispatch) (now : JsDate)
    (action : ExternalActionRecord) : ExternalActionRecord :=
  { action with
    state := .dispatching, dispatchAttempts := action.dispatchAttempts + 1,
    dispatchLeaseOwner := some input.leaseOwner,
    dispatchLeaseExpiresAt := some (now.plus input.leaseDurationMs), lastDispatchAt := some now,
    nextRetryAt := none, lastErrorCode := none, lastErrorMessage := none, updatedAt := now }

def claimDispatch (clock : Clock) (input : ClaimExternalActionDispatch) :
    ActionStore ExternalActionDispatchClaim := do
  validateDispatchIdentity input.toDispatchIdentity
  Store.require (input.leaseOwner ≠ "" ∧ input.leaseDurationMs.atMostZero = false)
    (.state "A positive dispatch lease is required")
  let action ← find input.toDispatchIdentity
  let now := input.now.getD (.valid (clock 0))
  if isSettled action.state then return .settled action
  if action.state = .retry_scheduled ∧ action.nextRetryAt.any (·.after now) then
    return .deferred action
  if action.state = .dispatching ∧ action.dispatchLeaseExpiresAt.any (·.after now) then
    return .in_flight action
  let claimed ← save (claimedAction input now action)
  appendEvent (clock 1) claimed (join "dispatch_started" (decimal claimed.dispatchAttempts))
    "dispatch_started" (transitionEventPayload claimed "dispatch_started" [])
  return .claimed claimed

/-- The guard of the operations that settle a dispatch: only the owner of the
lease of a dispatching action passes. -/
def requireLease (action : ExternalActionRecord) (leaseOwner verb : String) : ActionStore Unit :=
  Store.require (action.state = .dispatching ∧ action.dispatchLeaseOwner = some leaseOwner)
    (.state ("Cannot " ++ verb ++ " while external action is " ++ action.state.text))

def acceptedAction (receipt : DispatchReceipt) (now : JsDate) (action : ExternalActionRecord) :
    ExternalActionRecord :=
  { action with
    state := .dispatched, dispatchLeaseOwner := none, dispatchLeaseExpiresAt := none,
    nextRetryAt := none, lastErrorCode := none, lastErrorMessage := none,
    dispatchReceipt := [("http_status", .num receipt.httpStatus), ("body", receipt.body)],
    workflowId := receipt.workflowId.or action.workflowId,
    executionId := receipt.executionId.or action.executionId,
    providerReference := receipt.providerReference.or action.providerReference,
    updatedAt := now }

def recordDispatchAccepted (clock : Clock) (input : RecordDispatchAcceptedInput) :
    ActionStore ExternalActionRecord := do
  validateDispatchIdentity input.toDispatchIdentity
  let action ← find input.toDispatchIdentity
  if isSettled action.state then return action
  requireLease action input.leaseOwner "record dispatch receipt"
  let accepted ← save (acceptedAction input.receipt (input.now.getD (.valid (clock 0))) action)
  appendEvent (clock 1) accepted (join "dispatch_accepted" (decimal accepted.dispatchAttempts))
    "dispatch_accepted" (transitionEventPayload accepted "dispatch_accepted"
      [("http_status", .num input.receipt.httpStatus)])
  emitLifecycle (clock 2) accepted "external_action.dispatched.v1"
    (join "external-action" (join accepted.id (join "dispatched"
      (decimal accepted.dispatchAttempts))))
    [("dispatch_receipt", .obj accepted.dispatchReceipt)]
  return accepted

def retryAction (input : ScheduleDispatchRetryInput) (now : JsDate)
    (action : ExternalActionRecord) : ExternalActionRecord :=
  { action with
    state := .retry_scheduled, dispatchLeaseOwner := none, dispatchLeaseExpiresAt := none,
    nextRetryAt := some (now.plus input.retryAfterMs),
    lastErrorCode := input.errorCode.getD "N8N_RETRYABLE_DISPATCH_FAILURE",
    lastErrorMessage := sanitizeErrorMessage input.errorMessage, updatedAt := now }

/-- `date.toISOString()`, which throws on an invalid date. -/
def isoText : JsDate → ActionStore String
  | .valid t => pure t.toISOString
  | .invalid => Store.throw .range

def scheduleDispatchRetry (clock : Clock) (input : ScheduleDispatchRetryInput) :
    ActionStore ExternalActionRecord := do
  validateDispatchIdentity input.toDispatchIdentity
  Store.require (input.retryAfterMs.atMostZero = false) (.state "retryAfterMs must be positive")
  let action ← find input.toDispatchIdentity
  if isSettled action.state then return action
  requireLease action input.leaseOwner "schedule retry"
  let now := input.now.getD (.valid (clock 0))
  let retry ← save (retryAction input now action)
  let retryAt ← isoText (now.plus input.retryAfterMs)
  appendEvent (clock 1) retry (join "dispatch_retry_scheduled" (decimal retry.dispatchAttempts))
    "dispatch_retry_scheduled" (transitionEventPayload retry "dispatch_retry_scheduled"
      [("retry_after", .str retryAt), ("error_code", Json.ofText retry.lastErrorCode)])
  emitLifecycle (clock 2) retry "external_action.retry_scheduled.v1"
    (join "external-action" (join retry.id (join "retry" (decimal retry.dispatchAttempts))))
    [("retry_at", .str retryAt), ("error_code", Json.ofText retry.lastErrorCode)]
  return retry

def failedAction (input : FailExternalActionDispatchInput) (now : JsDate)
    (action : ExternalActionRecord) : ExternalActionRecord :=
  { action with
    state := .failed, dispatchLeaseOwner := none, dispatchLeaseExpiresAt := none,
    nextRetryAt := none,
    lastErrorCode := input.errorCode.getD "N8N_PERMANENT_DISPATCH_FAILURE",
    lastErrorMessage := sanitizeErrorMessage input.errorMessage, updatedAt := now }

def failDispatch (clock : Clock) (input : FailExternalActionDispatchInput) :
    ActionStore ExternalActionRecord := do
  validateDispatchIdentity input.toDispatchIdentity
  let action ← find input.toDispatchIdentity
  if isSettled action.state then return action
  requireLease action input.leaseOwner "fail dispatch"
  let failed ← save (failedAction input (input.now.getD (.valid (clock 0))) action)
  appendEvent (clock 1) failed (join "dispatch_failed" (decimal failed.dispatchAttempts))
    "dispatch_failed" (transitionEventPayload failed "dispatch_failed"
      [("error_code", Json.ofText failed.lastErrorCode)])
  emitLifecycle (clock 2) failed "external_action.failed.v1"
    (join "external-action" (join failed.id "failed"))
    [("phase", .str "dispatch"), ("error_code", Json.ofText failed.lastErrorCode)]
  emitFailureIncident (clock 3) failed .dispatch
  return failed

def settledAction (input : RecordExternalActionOutcome) (now : Instant)
    (action : ExternalActionRecord) : ExternalActionRecord :=
  let completed := input.status = .completed
  { action with
    state := input.status.state, dispatchLeaseOwner := none, dispatchLeaseExpiresAt := none,
    nextRetryAt := none, workflowId := input.workflowId.or action.workflowId,
    executionId := input.executionId.or action.executionId,
    providerReference := input.providerReference.or action.providerReference,
    outcome := input.outcome, outcomeReceivedAt := some (.valid now),
    lastErrorCode :=
      if completed then none else some (input.errorCode.getD "N8N_EXECUTION_FAILED"),
    lastErrorMessage :=
      if completed then none
      else some (sanitizeErrorMessage (input.errorMessage.getD
        (.ofString "n8n reported a failed action outcome"))),
    updatedAt := .valid now }

def recordOutcome (clock : Clock) (input : RecordExternalActionOutcome) :
    ActionStore RecordExternalActionOutcomeResult := do
  Store.require (recordExternalActionOutcomeSchema input = true) .zod
  let action ← find ⟨input.tenantId, input.actionId, input.idempotencyKey⟩
  let eventKey := join "callback" input.callbackId
  let events ← Store.read (·.ledger action.id)
  if events.any (·.eventKey == eventKey) then return ⟨action, true⟩
  Store.require (¬ (action.state = .completed ∨ action.state = .failed))
    (.state ("Cannot apply a new callback to terminal external action " ++ action.actionId))
  let name := input.status.state.text
  let transitioned ← save (settledAction input (input.occurredAt.getD (clock 0)) action)
  appendEvent (clock 1) transitioned eventKey ("outcome_" ++ name)
    (transitionEventPayload transitioned ("outcome_" ++ name)
      [("callback_id", .str input.callbackId),
        ("error_code", Json.ofText transitioned.lastErrorCode)])
  emitLifecycle (clock 2) transitioned ("external_action." ++ name ++ ".v1")
    (join "external-action" (join transitioned.id (join name input.callbackId)))
    ([("phase", .str "outcome"), ("callback_id", .str input.callbackId),
      ("outcome", .obj transitioned.outcome)] ++ truthyField "error_code" transitioned.lastErrorCode)
  if input.status ≠ .completed then emitFailureIncident (clock 3) transitioned .outcome
  return ⟨transitioned, false⟩

end InMemoryExternalActionsRepository

end VantGrowth.Db
