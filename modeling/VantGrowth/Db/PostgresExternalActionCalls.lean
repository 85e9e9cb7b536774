import VantGrowth.Db.PostgresExternalActionsRepository

/-! Every call of the Postgres repository as the one transaction it runs in.
Of a clock the first reading is the process's own and the second the server's,
whose `now()` stands still during a transaction; a request takes the server's
alone. -/

namespace VantGrowth.Db.PostgresExternalActionsRepository
open Lib Lib.Text InMemoryExternalActionsRepository

/-- The columns of `external_actions_tenant_action_id_unique`. -/
def sameAction (tenantId actionId : String) (row : ExternalActionRecord) : Bool :=
  row.tenantId == tenantId && row.actionId == actionId

/-- The columns of `external_actions_tenant_idempotency_key_unique`. -/
def sameKey (tenantId idempotencyKey : String) (row : ExternalActionRecord) : Bool :=
  row.tenantId == tenantId && row.idempotencyKey == idempotencyKey

def loadAction (tenantId actionId : String) : ActionStore (Option ExternalActionRecord) :=
  Store.read fun r => r.actionsById.values.find? (sameAction tenantId actionId)

def loadActionByIdempotency (tenantId idempotencyKey : String) :
    ActionStore (Option ExternalActionRecord) :=
  Store.read fun r => r.actionsById.values.find? (sameKey tenantId idempotencyKey)

/-- `insert … on conflict do nothing returning`, with the row as it is read back. -/
def insertAction (digest : String) (clock : Instant) (request : ExternalActionRequest) :
    ActionStore (Option ExternalActionRecord) := do
  let taken ← Store.read fun r => r.actionsById.values.any fun row =>
    sameAction request.tenantId request.actionId row || sameKey request.tenantId request.idempotencyKey row
  if taken then return none
  let id ← newId
  let action := requestedAction request id digest clock
  Store.require (externalActionRecordSchema action = true) .zod
  let _ ← save action
  Store.modify fun r => { r with
    actionIndex := r.actionIndex.set (key request.tenantId request.actionId) action.id
    idempotencyIndex :=
      r.idempotencyIndex.set (key request.tenantId request.idempotencyKey) action.id }
  return some action

def enqueueRequested (digest : ExternalActionRequest → String) (clock : Clock)
    (request : ExternalActionRequest) : ActionStore EnqueueExternalActionResult := do
  Store.require (externalActionRequestSchema request = true) .zod
  Store.transaction do
    let stored := { request with tenantId := uuidColumn request.tenantId }
    let inserted ← insertAction (digest request) (clock 0) stored
    let byAction ← loadAction stored.tenantId stored.actionId
    let byIdempotency ← loadActionByIdempotency stored.tenantId stored.idempotencyKey
    match byAction.or byIdempotency with
    | none => Store.throw (.error "Failed to create or load external action")
    | some action =>
      Store.require (action.actionId = request.actionId ∧
          action.idempotencyKey = request.idempotencyKey ∧ action.requestDigest = digest request)
        (.conflict
          "actionId or idempotencyKey was reused with a different external action request")
      if inserted.isSome then
        appendEvent (clock 0) action (join "requested" request.idempotencyKey) "requested"
          (transitionEventPayload action "requested" [])
      let event ← enqueue (clock 0)
        { dispatchCommand request with tenantId := uuidColumn request.tenantId }
      return ⟨action, event, inserted.isNone⟩

/-- The dispositions that grant nothing, in the order they are tried. -/
def refusal (action : ExternalActionRecord) (now : JsDate) : Option ExternalActionDispatchClaim :=
  if isSettled action.state = true then some (.settled action)
  else if action.state = .retry_scheduled ∧ action.nextRetryAt.any (·.after now) then
    some (.deferred action)
  else none

def claimDispatch (clock : Clock) (input : ClaimExternalActionDispatch) :
    ActionStore ExternalActionDispatchClaim := do
  validateDispatchIdentity input.toDispatchIdentity
  Store.require (input.leaseOwner ≠ "" ∧ input.leaseDurationMs.atMostZero = false)
    (.state "A positive dispatch lease is required")
  let now := input.now.getD (.valid (clock 0))
  Store.transaction do
    let stored := { input with tenantId := uuidColumn input.tenantId }
    let current ← requireAction stored.toDispatchIdentity
    match refusal current now with
    | some refused => return refused
    | none =>
      if current.state = .dispatching ∧ current.dispatchLeaseExpiresAt.any (·.after now) then
        return .in_flight current
      match ← claimRow (clock 1) now stored with
      | some claimed => return .claimed claimed
      | none =>
        let refreshed ← requireAction stored.toDispatchIdentity
        return (refusal refreshed now).getD (.in_flight refreshed)

/-- Where the update of a settlement found no row, an action that is settled
already is returned. -/
def settledRow (identity : DispatchIdentity) :
    Option ExternalActionRecord → ActionStore ExternalActionRecord
  | some updated => pure updated
  | none => do
    let current ← requireAction identity
    if isSettled current.state then return current
    Store.throw (.state ("Dispatch lease was lost for external action " ++ identity.actionId))

def recordDispatchAccepted (clock : Clock) (input : RecordDispatchAcceptedInput) :
    ActionStore ExternalActionRecord := do
  validateDispatchIdentity input.toDispatchIdentity
  let now := input.now.getD (.valid (clock 0))
  Store.transaction do
    let stored := { input with tenantId := uuidColumn input.tenantId }
    let updated ← acceptRow (clock 1) now stored
    settledRow stored.toDispatchIdentity updated

def scheduleDispatchRetry (clock : Clock) (input : ScheduleDispatchRetryInput) :
    ActionStore ExternalActionRecord := do
  validateDispatchIdentity input.toDispatchIdentity
  Store.require (input.retryAfterMs.atMostZero = false) (.state "retryAfterMs must be positive")
  let now := input.now.getD (.valid (clock 0))
  Store.transaction do
    let stored := { input with tenantId := uuidColumn input.tenantId }
    let updated ← retryRow (clock 1) now stored
    settledRow stored.toDispatchIdentity updated

def failDispatch (clock : Clock) (input : FailExternalActionDispatchInput) :
    ActionStore ExternalActionRecord := do
  validateDispatchIdentity input.toDispatchIdentity
  let now := input.now.getD (.valid (clock 0))
  Store.transaction do
    let stored := { input with tenantId := uuidColumn input.tenantId }
    let updated ← failRow (clock 1) now stored
    settledRow stored.toDispatchIdentity updated

def recordOutcome (clock : Clock) (input : RecordExternalActionOutcome) :
    ActionStore RecordExternalActionOutcomeResult := do
  Store.require (recordExternalActionOutcomeSchema input = true) .zod
  let now := input.occurredAt.getD (clock 0)
  Store.transaction do
    let stored := { input with tenantId := uuidColumn input.tenantId }
    let identity := ⟨stored.tenantId, stored.actionId, stored.idempotencyKey⟩
    let eventKey := join "callback" stored.callbackId
    let action ← requireAction identity
    if ← hasEvent action.id eventKey then return ⟨action, true⟩
    match ← outcomeRow (clock 1) now stored with
    | some transitioned => return ⟨transitioned, false⟩
    | none =>
      let current ← requireAction identity
      if ← hasEvent current.id eventKey then return ⟨current, true⟩
      Store.throw (.state ("Cannot apply a new callback to terminal external action " ++
        input.actionId))

end VantGrowth.Db.PostgresExternalActionsRepository
