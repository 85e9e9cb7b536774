import VantGrowth.Publisher.System

namespace VantGrowth.Publisher
open Db Lib Lib.Text Prog

/-- `schema.parse`, and the checks a call makes before its first await. -/
def checked (p : Prop) [Decidable p] (e : DbError) : Handler Unit := Prog.require p (.repository e)

/-- `validateDispatchIdentity` -/
def validateIdentity (identity : DispatchIdentity) : Handler Unit :=
  checked (isUuid identity.tenantId = true ∧ actionIdSchema identity.actionId = true ∧
    idempotencyKeySchema identity.idempotencyKey = true) .zod

/-- `input.now ?? new Date()` -/
def timeOr : Option JsDate → Handler JsDate
  | some now => pure now
  | none => do
    let now ← await .now
    return .valid now

namespace Postgres

/-- The dispositions that grant nothing. -/
def refusal (action : ExternalActionRecord) (now : JsDate) : Option ExternalActionDispatchClaim :=
  if isSettled action.state = true then some (.settled action)
  else if action.state = .retry_scheduled ∧ action.nextRetryAt.any (·.after now) then
    some (.deferred action)
  else none

def claimDispatch (input : ClaimExternalActionDispatch) :
    Handler ExternalActionDispatchClaim := do
  validateIdentity input.toDispatchIdentity
  checked (input.leaseOwner ≠ "" ∧ input.leaseDurationMs.atMostZero = false)
    (.state "A positive dispatch lease is required")
  let now ← timeOr input.now
  let current ← await (.requireAction input.toDispatchIdentity)
  match refusal current now with
  | some refused => return refused
  | none =>
    if current.state = .dispatching ∧ current.dispatchLeaseExpiresAt.any (·.after now) then
      return .in_flight current
    else
      match ← await (.claimRow now input) with
      | some claimed => return .claimed claimed
      | none =>
        let refreshed ← await (.requireAction input.toDispatchIdentity)
        return (refusal refreshed now).getD (.in_flight refreshed)

/-- Where the update of a settlement found no row, an action that is settled
already is returned. -/
def settledRow (identity : DispatchIdentity) : Option ExternalActionRecord →
    Handler ExternalActionRecord
  | some updated => pure updated
  | none => do
    let current ← await (.requireAction identity)
    if isSettled current.state = true then return current
    else Prog.throw (.repository
      (.state ("Dispatch lease was lost for external action " ++ identity.actionId)))

def recordDispatchAccepted (input : RecordDispatchAcceptedInput) :
    Handler ExternalActionRecord := do
  validateIdentity input.toDispatchIdentity
  let now ← timeOr input.now
  let updated ← await (.acceptRow now input)
  settledRow input.toDispatchIdentity updated

def scheduleDispatchRetry (input : ScheduleDispatchRetryInput) :
    Handler ExternalActionRecord := do
  validateIdentity input.toDispatchIdentity
  checked (input.retryAfterMs.atMostZero = false) (.state "retryAfterMs must be positive")
  let now ← timeOr input.now
  let updated ← await (.retryRow now input)
  settledRow input.toDispatchIdentity updated

def failDispatch (input : FailExternalActionDispatchInput) : Handler ExternalActionRecord := do
  validateIdentity input.toDispatchIdentity
  let now ← timeOr input.now
  let updated ← await (.failRow now input)
  settledRow input.toDispatchIdentity updated

def outcomeAt (input : RecordExternalActionOutcome) (now : Instant) :
    Handler RecordExternalActionOutcomeResult := do
  let identity := ⟨input.tenantId, input.actionId, input.idempotencyKey⟩
  let action ← await (.requireAction identity)
  if ← await (.hasEvent action.id (join "callback" input.callbackId)) then return ⟨action, true⟩
  else
    match ← await (.outcomeRow now input) with
    | some transitioned => return ⟨transitioned, false⟩
    | none =>
      let current ← await (.requireAction identity)
      if ← await (.hasEvent current.id (join "callback" input.callbackId)) then
        return ⟨current, true⟩
      else Prog.throw (.repository (.state
        ("Cannot apply a new callback to terminal external action " ++ input.actionId)))

def recordOutcome (input : RecordExternalActionOutcome) :
    Handler RecordExternalActionOutcomeResult := do
  checked (recordExternalActionOutcomeSchema input = true) .zod
  match input.occurredAt with
  | some now => outcomeAt input now
  | none =>
    let now ← await .now
    outcomeAt input now

end Postgres

section
variable (d : Deployment)

def claimDispatch (input : ClaimExternalActionDispatch) : Handler ExternalActionDispatchClaim :=
  d.choose (await (.claimDispatch input)) (Postgres.claimDispatch input)

def recordDispatchAccepted (input : RecordDispatchAcceptedInput) : Handler ExternalActionRecord :=
  d.choose (await (.recordDispatchAccepted input)) (Postgres.recordDispatchAccepted input)

def scheduleDispatchRetry (input : ScheduleDispatchRetryInput) : Handler ExternalActionRecord :=
  d.choose (await (.scheduleDispatchRetry input)) (Postgres.scheduleDispatchRetry input)

def failDispatch (input : FailExternalActionDispatchInput) : Handler ExternalActionRecord :=
  d.choose (await (.failDispatch input)) (Postgres.failDispatch input)

def recordOutcome (input : RecordExternalActionOutcome) :
    Handler RecordExternalActionOutcomeResult :=
  d.choose (await (.recordOutcome input)) (Postgres.recordOutcome input)

end

end VantGrowth.Publisher
