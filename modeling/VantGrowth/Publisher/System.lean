import VantGrowth.Db.Incidents
import VantGrowth.Db.PostgresExternalActionsRepository
import VantGrowth.Lib.Faults
import VantGrowth.Lib.Interleaving
import VantGrowth.N8n.ChannelContracts

namespace VantGrowth.Publisher
open Db Lib N8n

/-- What a publisher or a repository throws. -/
inductive PublisherError where
  | repository (e : DbError)
  | lost (message : String)
  | error (message : String)
deriving DecidableEq

/-- What publishers and the API share, what NATS has received and what n8n will
answer next. -/
structure World where
  clock : Instant
  actions : InMemoryExternalActionsRepository
  incidents : IncidentStore
  health : ComponentHealthStore
  published : List (String × Payload)
  n8n : List N8nDispatchResult

namespace World

def empty (clock : Instant) : World := ⟨clock, .empty, .empty, .empty, [], []⟩

def outbox (w : World) : InMemoryOutboxRepository := w.actions.outboxRepository

end World

structure Deployment where
  backend : Backend
  uuid : Supply
  formats : Formats
  /-- `externalActionRequestDigest` -/
  requestDigest : ExternalActionRequest → String
  /-- The hexadecimal SHA-256 of a payload's JSON text, where it has one. -/
  payloadDigest : Payload → Option String

/-- The operations at which a program gives up control: in memory a call of the
external actions is one of them, in Postgres every statement is. -/
inductive Op where
  | now
  | listUnconsumed (tenantId : String) (limit : Nat)
  | markConsumed (tenantId : String) (eventId : Nat)
  | createIncident (tenantId : String) (params : CreateIncidentParams)
  | recordHealth (tenantId : String) (params : RecordComponentHealthParams)
  | publish (subject : String) (payload : Payload)
  | dispatch (request : N8nDispatchRequest)
  | claimDispatch (input : ClaimExternalActionDispatch)
  | recordDispatchAccepted (input : RecordDispatchAcceptedInput)
  | scheduleDispatchRetry (input : ScheduleDispatchRetryInput)
  | failDispatch (input : FailExternalActionDispatchInput)
  | recordOutcome (input : RecordExternalActionOutcome)
  | requireAction (identity : DispatchIdentity)
  | hasEvent (id eventKey : String)
  | claimRow (now : JsDate) (input : ClaimExternalActionDispatch)
  | acceptRow (now : JsDate) (input : RecordDispatchAcceptedInput)
  | retryRow (now : JsDate) (input : ScheduleDispatchRetryInput)
  | failRow (now : JsDate) (input : FailExternalActionDispatchInput)
  | outcomeRow (now : Instant) (input : RecordExternalActionOutcome)
  | enqueueRequested (request : ExternalActionRequest)
  | enqueue (command : EnqueueOutboxEvent)
  | tick (ms : Nat)
  | disturb (faults : List (Option Fault))
  | prepare (n8n : List N8nDispatchResult)

abbrev Res : Op → Type
  | .now => Instant
  | .listUnconsumed _ _ => List StoredOutboxEvent
  | .markConsumed _ _ | .enqueue _ => StoredOutboxEvent
  | .createIncident _ _ => IncidentRecord
  | .recordHealth _ _ => ComponentHealthRecord
  | .dispatch _ => N8nDispatchResult
  | .claimDispatch _ => ExternalActionDispatchClaim
  | .recordDispatchAccepted _ | .scheduleDispatchRetry _ | .failDispatch _ | .requireAction _ =>
    ExternalActionRecord
  | .recordOutcome _ => RecordExternalActionOutcomeResult
  | .hasEvent _ _ => Bool
  | .claimRow _ _ | .acceptRow _ _ | .retryRow _ _ | .failRow _ _ | .outcomeRow _ _ =>
    Option ExternalActionRecord
  | .enqueueRequested _ => EnqueueExternalActionResult
  | .publish _ _ | .tick _ | .disturb _ | .prepare _ => Unit

/-- A call of the external actions at the time of the world. -/
def onActions (call : Instant → ActionStore α) : Store PublisherError World α := do
  let clock ← Store.read (·.clock)
  Store.zoom (·.actions) (fun w r => { w with actions := r }) ((call clock).mapError .repository)

def onOutbox (call : Instant → Store DbError InMemoryOutboxRepository α) :
    Store PublisherError World α :=
  onActions fun now =>
    Store.zoom (·.outboxRepository) (fun r o => { r with outboxRepository := o }) (call now)

def onIncidents (call : Instant → Store DbError IncidentStore α) : Store PublisherError World α := do
  let clock ← Store.read (·.clock)
  Store.zoom (·.incidents) (fun w s => { w with incidents := s }) ((call clock).mapError .repository)

def onHealth (call : Instant → Store DbError ComponentHealthStore α) :
    Store PublisherError World α := do
  let clock ← Store.read (·.clock)
  Store.zoom (·.health) (fun w s => { w with health := s }) ((call clock).mapError .repository)

/-- The two halves of `emitFailureIncidentOutbox` are one transaction. -/
def withIncident (uuid : Supply) (phase : FailurePhase)
    (settled : Store PublisherError World (Option ExternalActionRecord)) :
    Store PublisherError World (Option ExternalActionRecord) := do
  match ← settled with
  | none => return none
  | some action =>
    onIncidents fun now => IncidentStore.upsertFailure uuid now phase action
    return some action

/-- A call of a repository or a service, which the connection may lose. -/
def remote (m : Store PublisherError World α) : Store PublisherError (Faulty World) α :=
  m.faulty fun f => .lost f.message

/-- The next answer in store. -/
def answerDispatch : Store PublisherError World N8nDispatchResult := do
  let answer ← Store.read (·.n8n.head?)
  Store.modify fun w => { w with n8n := w.n8n.tail }
  match answer with
  | some result => return result
  | none => Store.throw (.error "fetch failed")

section
variable (d : Deployment)

def Deployment.choose (inMemory postgres : α) : α :=
  match d.backend with
  | .inMemory => inMemory
  | .postgres => postgres

/-- Listing in Postgres checks the tenant first. -/
def listUnconsumed (tenantId : String) (limit : Nat) :
    Store DbError InMemoryOutboxRepository (List StoredOutboxEvent) := do
  Store.require (d.backend = .postgres → isUuid tenantId = true) .zod
  Store.read (·.listUnconsumed tenantId limit)

open PostgresExternalActionsRepository

def exec : ∀ op, Store PublisherError (Faulty World) (Res op)
  | .now => (Store.read (·.clock)).sound
  | .listUnconsumed tenantId limit => remote <| onOutbox fun _ => listUnconsumed d tenantId limit
  | .markConsumed tenantId eventId => remote <| onOutbox fun now =>
      InMemoryOutboxRepository.markConsumed tenantId eventId now
  | .createIncident tenantId params => remote <| onIncidents fun now =>
      IncidentStore.create d.uuid now tenantId params
  | .recordHealth tenantId params => remote <| onHealth fun now =>
      ComponentHealthStore.record d.backend d.uuid now tenantId params
  | .publish subject payload =>
    remote <| Store.modify fun w => { w with published := w.published ++ [(subject, payload)] }
  | .dispatch _ => remote answerDispatch
  | .claimDispatch input => remote <| onActions fun now =>
      InMemoryExternalActionsRepository.claimDispatch (fun _ => now) input
  | .recordDispatchAccepted input => remote <| onActions fun now =>
      InMemoryExternalActionsRepository.recordDispatchAccepted (fun _ => now) input
  | .scheduleDispatchRetry input => remote <| onActions fun now =>
      InMemoryExternalActionsRepository.scheduleDispatchRetry (fun _ => now) input
  | .failDispatch input => remote <| onActions fun now =>
      InMemoryExternalActionsRepository.failDispatch (fun _ => now) input
  | .recordOutcome input => remote <| onActions fun now =>
      InMemoryExternalActionsRepository.recordOutcome (fun _ => now) input
  | .requireAction identity => remote <| onActions fun _ => requireAction identity
  | .hasEvent id eventKey => remote <| onActions fun _ => hasEvent id eventKey
  | .claimRow at_ input => remote <| onActions fun now => claimRow now at_ input
  | .acceptRow at_ input => remote <| onActions fun now => acceptRow now at_ input
  | .retryRow at_ input => remote <| onActions fun now => retryRow now at_ input
  | .failRow at_ input => remote <| withIncident d.uuid .dispatch <| onActions fun now =>
      failRow now at_ input
  | .outcomeRow at_ input =>
    let settled := onActions fun now => outcomeRow now at_ input
    remote (if input.status = .completed then settled else withIncident d.uuid .outcome settled)
  | .enqueueRequested request => remote <| onActions fun now =>
      InMemoryExternalActionsRepository.enqueueRequested d.requestDigest (fun _ => now) request
  | .enqueue command => remote <| onOutbox fun now => InMemoryOutboxRepository.enqueue now command
  | .tick ms => (Store.modify fun w => { w with clock := w.clock + ms }).sound
  | .disturb faults => Store.modify fun w => { w with faults }
  | .prepare n8n => (Store.modify fun w => { w with n8n }).sound

end

abbrev Handler := Prog Res PublisherError

/-- Every call of a repository, a service or the clock. -/
def await (op : Op) : Handler (Res op) := Prog.perform op

end VantGrowth.Publisher
