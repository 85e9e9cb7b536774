import VantGrowth.Db.ExternalActionsRepository

/-! The statements a Postgres call sends one after another. The tables are kept
as the in-memory repository keeps them: actions by id and by tenant and action
id, their ledgers and the outbox. -/

namespace VantGrowth.Db.PostgresExternalActionsRepository
open Lib Lib.Text InMemoryExternalActionsRepository

/-- `callbackEligibleStates` -/
def callbackEligible : ExternalActionState → Bool
  | .requested | .dispatching | .retry_scheduled | .dispatched => true
  | .completed | .failed => false

/-- The `WHERE` of the claim: a column that is not null is compared by `lte`. -/
def claimable (now : JsDate) (row : ExternalActionRecord) : Bool :=
  match row.state with
  | .requested | .retry_scheduled => !row.nextRetryAt.any (·.after now)
  | .dispatching => !row.dispatchLeaseExpiresAt.any (·.after now)
  | .dispatched | .completed | .failed => false

/-- The `WHERE` of the updates that settle a dispatch. -/
def leased (leaseOwner : String) (row : ExternalActionRecord) : Bool :=
  row.state == .dispatching && row.dispatchLeaseOwner == some leaseOwner

/-- A date without a time does not become a parameter of a statement. -/
def sendable (date : JsDate) : ActionStore Unit := Store.require (date ≠ .invalid) .range

/-- `requireAction` -/
def requireAction (identity : DispatchIdentity) : ActionStore ExternalActionRecord := find identity

def hasEvent (id eventKey : String) : ActionStore Bool :=
  Store.read fun r => (r.ledger id).any (·.eventKey == eventKey)

/-- `update … set … where … returning` on the one row of an action. -/
def updateRow (identity : DispatchIdentity) (guard : ExternalActionRecord → Bool)
    (set : ExternalActionRecord → ExternalActionRecord) :
    ActionStore (Option ExternalActionRecord) := do
  match ← Store.read (·.lookup identity.tenantId identity.actionId) with
  | none => return none
  | some row =>
    if row.idempotencyKey = identity.idempotencyKey ∧ guard row = true then
      let updated ← save (set row)
      return some updated
    else return none

/-- An update with what the same transaction writes after it where a row came
back. -/
def settleRow (identity : DispatchIdentity) (guard : ExternalActionRecord → Bool)
    (set : ExternalActionRecord → ExternalActionRecord)
    (log : ExternalActionRecord → ActionStore Unit) :
    ActionStore (Option ExternalActionRecord) := do
  match ← updateRow identity guard set with
  | none => return none
  | some updated =>
    log updated
    return some updated

/-- `clock` is the time of the server. -/
def claimRow (clock : Instant) (now : JsDate) (input : ClaimExternalActionDispatch) :
    ActionStore (Option ExternalActionRecord) := Store.transaction do
  sendable (now.plus input.leaseDurationMs)
  settleRow input.toDispatchIdentity (claimable now) (claimedAction input now) fun claimed =>
    appendEvent clock claimed (join "dispatch_started" (decimal claimed.dispatchAttempts))
      "dispatch_started" (transitionEventPayload claimed "dispatch_started" [])

/-- A text is written when it is set and not empty. -/
def truthy (value : Option String) : Option String := value.filter (· != "")

def acceptRow (clock : Instant) (now : JsDate) (input : RecordDispatchAcceptedInput) :
    ActionStore (Option ExternalActionRecord) := Store.transaction do
  sendable now
  let receipt := { input.receipt with
    workflowId := truthy input.receipt.workflowId
    executionId := truthy input.receipt.executionId
    providerReference := truthy input.receipt.providerReference }
  settleRow input.toDispatchIdentity (leased input.leaseOwner) (acceptedAction receipt now)
    fun accepted => do
      appendEvent clock accepted (join "dispatch_accepted" (decimal accepted.dispatchAttempts))
        "dispatch_accepted" (transitionEventPayload accepted "dispatch_accepted"
          [("http_status", .num input.receipt.httpStatus)])
      emitLifecycle clock accepted "external_action.dispatched.v1"
        (join "external-action" (join accepted.id (join "dispatched"
          (decimal accepted.dispatchAttempts))))
        [("dispatch_receipt", .obj accepted.dispatchReceipt)]

def retryRow (clock : Instant) (now : JsDate) (input : ScheduleDispatchRetryInput) :
    ActionStore (Option ExternalActionRecord) := Store.transaction do
  let retryAt ← isoText (now.plus input.retryAfterMs)
  settleRow input.toDispatchIdentity (leased input.leaseOwner) (retryAction input now) fun retry => do
    appendEvent clock retry (join "dispatch_retry_scheduled" (decimal retry.dispatchAttempts))
      "dispatch_retry_scheduled" (transitionEventPayload retry "dispatch_retry_scheduled"
        [("retry_after", .str retryAt), ("error_code", Json.ofText retry.lastErrorCode)])
    emitLifecycle clock retry "external_action.retry_scheduled.v1"
      (join "external-action" (join retry.id (join "retry" (decimal retry.dispatchAttempts))))
      [("retry_at", .str retryAt), ("error_code", Json.ofText retry.lastErrorCode)]

/-- The outbox half of `emitFailureIncidentOutbox`. -/
def failRow (clock : Instant) (now : JsDate) (input : FailExternalActionDispatchInput) :
    ActionStore (Option ExternalActionRecord) := Store.transaction do
  sendable now
  settleRow input.toDispatchIdentity (leased input.leaseOwner) (failedAction input now)
    fun failed => do
      appendEvent clock failed (join "dispatch_failed" (decimal failed.dispatchAttempts))
        "dispatch_failed" (transitionEventPayload failed "dispatch_failed"
          [("error_code", Json.ofText failed.lastErrorCode)])
      emitLifecycle clock failed "external_action.failed.v1"
        (join "external-action" (join failed.id "failed"))
        [("phase", .str "dispatch"), ("error_code", Json.ofText failed.lastErrorCode)]
      emitFailureIncident clock failed .dispatch

def outcomeRow (clock : Instant) (now : Instant) (input : RecordExternalActionOutcome) :
    ActionStore (Option ExternalActionRecord) := Store.transaction do
  let name := input.status.state.text
  settleRow ⟨input.tenantId, input.actionId, input.idempotencyKey⟩
    (fun row => callbackEligible row.state)
    (settledAction { input with
      workflowId := truthy input.workflowId
      executionId := truthy input.executionId
      providerReference := truthy input.providerReference } now)
    fun transitioned => do
      appendEvent clock transitioned (join "callback" input.callbackId) ("outcome_" ++ name)
        (transitionEventPayload transitioned ("outcome_" ++ name)
          [("callback_id", .str input.callbackId),
            ("error_code", Json.ofText transitioned.lastErrorCode)])
      emitLifecycle clock transitioned ("external_action." ++ name ++ ".v1")
        (join "external-action" (join transitioned.id (join name input.callbackId)))
        ([("phase", .str "outcome"), ("callback_id", .str input.callbackId),
          ("outcome", .obj transitioned.outcome)] ++
            truthyField "error_code" transitioned.lastErrorCode)
      if input.status ≠ .completed then emitFailureIncident clock transitioned .outcome

end VantGrowth.Db.PostgresExternalActionsRepository
