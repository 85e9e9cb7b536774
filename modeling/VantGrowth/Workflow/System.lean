import VantGrowth.Core.Workflows
import VantGrowth.Lib.Faults
import VantGrowth.Lib.Interleaving

namespace VantGrowth.Workflow
open Core Db Lib

/-- What a route or a worker throws. -/
inductive WorkflowError where
  | repository (e : DbError)
  | lost (message : String)
  | serviceUnavailable (message : String)
  | unauthorized (message : String)
  | conflict (message : String) (details : List (String × String))
  /-- The body is no JSON. -/
  | syntaxError
  | error (message : String)
deriving DecidableEq

structure TenantProvisioningRuntimeHistoryEvent where
  step : String
  message : String
  percent : Option ℚ
  occurredAt : String
deriving DecidableEq

structure TenantProvisioningRuntimeState where
  workflowId : String
  tenantId : String
  runtimeRunId : Option String := none
  state : WorkflowRunState
  history : List TenantProvisioningRuntimeHistoryEvent := []
  failureCode : Option String := none
  failureMessage : Option String := none
deriving DecidableEq

/-- The calls a provisioning makes of external systems. -/
inductive ProvisioningCall where
  | createOrg | createServiceAccount | provisionCompany | provisionWorkspaceRepo
  | provisionConsumerGroup | provisionBucket | createCustomer | assignPlan | createOrUpdateFile
  | provisionTenantSecrets
deriving DecidableEq

/-- What an external call comes to: whether the resource is new, or the message
of the error thrown, where what was thrown is an error. -/
abbrev ExternalAnswer := Except (Option String) Bool

/-- What the API and the callback workers share, and what external systems and
the runtime will answer next. -/
structure World where
  clock : Instant
  runs : WorkflowRunStore
  outbox : InMemoryOutboxRepository
  external : List ExternalAnswer
  runtime : List (Option TenantProvisioningRuntimeState)

structure Deployment where
  backend : Backend
  uuid : Supply
  outboxRepository : Bool := true
  workflowRunRepository : Bool := true
  runtimeCallbackSecret : Option String := none
  /-- The hexadecimal HMAC-SHA-256 of a payload under a secret. -/
  hmac : String → String → String
  jsonParse : String → Option Json
  /-- The message of a schema's error. -/
  zodMessage : String

/-- The operations at which a program gives up control. -/
inductive Op where
  | now
  | getByWorkflowId (tenantId workflowId : String)
  | upsertRequested (tenantId workflowId dedupeKey : String)
  | transitionState (tenantId workflowId : String) (fromState toState : WorkflowRunState)
      (failureCode : Option String)
  | enqueue (command : EnqueueOutboxEvent)
  /-- An enqueue inside a `try`. -/
  | report (command : EnqueueOutboxEvent)
  | external (call : ProvisioningCall) (tenantId : String)
  | getTenantProvisioningRuntimeState (tenantId workflowId : String)
  | tick (ms : Nat)
  | markConsumed (tenantId : String) (eventId : Nat)
  | disturb (faults : List (Option Fault))
  | prepare (external : List ExternalAnswer) (runtime : List (Option TenantProvisioningRuntimeState))

abbrev Res : Op → Type
  | .now => Instant
  | .getByWorkflowId _ _ | .transitionState _ _ _ _ _ => Option WorkflowRun
  | .upsertRequested _ _ _ => WorkflowRun
  | .enqueue _ | .markConsumed _ _ => StoredOutboxEvent
  | .report _ => Except WorkflowError StoredOutboxEvent
  | .external _ _ => ExternalAnswer
  | .getTenantProvisioningRuntimeState _ _ => TenantProvisioningRuntimeState
  | .tick _ | .disturb _ | .prepare _ _ => Unit

def onRuns (call : Instant → Store DbError WorkflowRunStore α) : Store WorkflowError World α := do
  let clock ← Store.read (·.clock)
  Store.zoom (·.runs) (fun w s => { w with runs := s }) ((call clock).mapError .repository)

def onOutbox (call : Instant → Store DbError InMemoryOutboxRepository α) :
    Store WorkflowError World α := do
  let clock ← Store.read (·.clock)
  Store.zoom (·.outbox) (fun w o => { w with outbox := o }) ((call clock).mapError .repository)

/-- A call of a repository or a service, which the connection may lose. -/
def remote (m : Store WorkflowError World α) : Store WorkflowError (Faulty World) α :=
  m.faulty fun f => .lost f.message

/-- The outcome of a computation as a value. -/
def attempt (m : Store ε σ α) : Store ε σ (Except ε α) :=
  ⟨fun s => (.ok (m.run s).1, (m.run s).2)⟩

section
variable (d : Deployment)

def Deployment.choose (inMemory postgres : α) : α :=
  match d.backend with
  | .inMemory => inMemory
  | .postgres => postgres

/-- The next answer in store; a system that was not prepared finds the
resource new. -/
def answerExternal : Store WorkflowError World ExternalAnswer := do
  let answer ← Store.read fun w => w.external.head?.getD (.ok true)
  Store.modify fun w => { w with external := w.external.tail }
  return answer

def answerRuntime : Store WorkflowError World TenantProvisioningRuntimeState := do
  let answer ← Store.read fun w => w.runtime.head?.join
  Store.modify fun w => { w with runtime := w.runtime.tail }
  match answer with
  | some state => return state
  | none => Store.throw (.error "Restate request failed")

def exec : ∀ op, Store WorkflowError (Faulty World) (Res op)
  | .now => (Store.read (·.clock)).sound
  | .getByWorkflowId tenantId workflowId => remote <| onRuns fun _ => d.choose
      (InMemoryWorkflowRunRepository.getByWorkflowId tenantId workflowId)
      (PostgresWorkflowRunRepository.getByWorkflowId tenantId workflowId)
  | .upsertRequested tenantId workflowId dedupeKey => remote <| onRuns fun now => d.choose
      (InMemoryWorkflowRunRepository.upsertRequested d.uuid now tenantId workflowId dedupeKey)
      (PostgresWorkflowRunRepository.upsertRequested d.uuid now tenantId workflowId dedupeKey)
  | .transitionState tenantId workflowId fromState toState failureCode =>
    remote <| onRuns fun now => d.choose
      (InMemoryWorkflowRunRepository.transitionState now tenantId workflowId fromState toState
        failureCode)
      (PostgresWorkflowRunRepository.transitionState now tenantId workflowId fromState toState
        failureCode)
  | .enqueue command => remote <| onOutbox fun now => InMemoryOutboxRepository.enqueue now command
  | .report command =>
    attempt (remote <| onOutbox fun now => InMemoryOutboxRepository.enqueue now command)
  | .external _ _ => answerExternal.sound
  | .getTenantProvisioningRuntimeState _ _ => answerRuntime.sound
  | .tick ms => (Store.modify fun w => { w with clock := w.clock + ms }).sound
  | .markConsumed tenantId eventId => remote <| onOutbox fun now =>
      InMemoryOutboxRepository.markConsumed tenantId eventId now
  | .disturb faults => Store.modify fun w => { w with faults }
  | .prepare external runtime => (Store.modify fun w => { w with external, runtime }).sound

end

abbrev Handler := Prog Res WorkflowError

/-- Every call of a repository, a service or the clock. -/
def await (op : Op) : Handler (Res op) := Prog.perform op

/-- `schema.parse(value)`, and every builder that parses its input. -/
def parsed (value : Except DbError α) : Handler α :=
  match value with
  | .ok a => pure a
  | .error e => Prog.throw (.repository e)

/-- Builds a command at the time of the call and puts it to the outbox. -/
def emit (build : Instant → Except DbError EnqueueOutboxEvent) : Handler StoredOutboxEvent := do
  let now ← await .now
  let command ← parsed (build now)
  await (.enqueue command)

end VantGrowth.Workflow
