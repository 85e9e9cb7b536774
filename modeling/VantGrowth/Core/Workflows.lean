import VantGrowth.Db.WorkflowRuns
import VantGrowth.Db.Zod

namespace VantGrowth.Core
open Db

inductive CallbackType where
  | progress | completed | failed
deriving DecidableEq

def CallbackType.text : CallbackType → String
  | progress => "progress"
  | completed => "completed"
  | failed => "failed"

def ALLOWED_TRANSITIONS : WorkflowRunState → List WorkflowRunState
  | .requested => [.in_progress, .completed, .failed]
  | .in_progress => [.in_progress, .completed, .failed]
  | .completed => []
  | .failed => []

structure WorkflowTransitionError where
  reason : String
  fromState : WorkflowRunState
  toState : WorkflowRunState
deriving DecidableEq

def validateWorkflowTransition (fromState toState : WorkflowRunState) :
    Except WorkflowTransitionError WorkflowRunState :=
  if toState ∈ ALLOWED_TRANSITIONS fromState then .ok toState
  else .error {
    reason := "Illegal workflow state transition: '" ++ fromState.text ++ "' → '" ++ toState.text ++
      "'. Terminal states accept no further transitions."
    fromState, toState }

def callbackTypeToState : CallbackType → WorkflowRunState
  | .progress => .in_progress
  | .completed => .completed
  | .failed => .failed

/-- A transition is refused exactly out of a terminal state or back to
`requested`. -/
theorem transition_refused_iff (fromState toState : WorkflowRunState) :
    (∃ e, validateWorkflowTransition fromState toState = .error e) ↔
      fromState.terminal = true ∨ toState = .requested := by
  cases fromState <;> cases toState <;>
    simp [validateWorkflowTransition, ALLOWED_TRANSITIONS, WorkflowRunState.terminal]

theorem transition_admitted {fromState toState : WorkflowRunState}
    (h : ∃ t, validateWorkflowTransition fromState toState = .ok t) :
    fromState.terminal = false := by
  obtain ⟨t, admitted⟩ := h
  cases hf : fromState.terminal with
  | false => rfl
  | true =>
    obtain ⟨e, refused⟩ := (transition_refused_iff fromState toState).mpr (Or.inl hf)
    rw [admitted] at refused
    cases refused

end VantGrowth.Core

namespace VantGrowth.Core
open Db Lib Lib.Text

structure TenantProvisioningWorkflowInput where
  tenantId : String
  workflowId : String
  dedupeKey : String
  tenantExternalId : String
  tenantName : String
  requestedBy : String
deriving DecidableEq

/-- `tenantProvisioningWorkflowInputSchema` -/
def TenantProvisioningWorkflowInput.valid (input : TenantProvisioningWorkflowInput) : Bool :=
  isUuid input.tenantId && input.workflowId != "" && input.dedupeKey != "" &&
    input.tenantExternalId != "" && input.tenantName != "" && input.requestedBy != ""

structure TenantProvisioningRuntimeCallback extends TenantProvisioningWorkflowInput where
  callbackId : String
  callbackType : CallbackType := .completed
  runtimeRunId : Option String := none
  progressStep : Option String := none
  progressMessage : Option String := none
  progressPercent : Option ℚ := none
  failureCode : Option String := none
  failureMessage : Option String := none
deriving DecidableEq

namespace TenantProvisioningRuntimeCallback

/-- `tenantProvisioningRuntimeCallbackSchema` -/
def valid (input : TenantProvisioningRuntimeCallback) : Bool :=
  input.toTenantProvisioningWorkflowInput.valid && input.callbackId != "" &&
    input.runtimeRunId.all (· != "") && input.progressStep.all (· != "") &&
    input.progressMessage.all (· != "") &&
    input.progressPercent.all (fun p => 0 ≤ p && p ≤ 100) && input.failureCode.all (· != "") &&
    input.failureMessage.all (· != "")

def callbackTypes : List (String × CallbackType) :=
  [("progress", .progress), ("completed", .completed), ("failed", .failed)]

/-- `tenantProvisioningRuntimeCallbackSchema.parse` -/
def parse : Json → Option TenantProvisioningRuntimeCallback
  | .obj p => do
    let tenantId ← Zod.required p "tenantId" Zod.uuid
    let workflowId ← Zod.required p "workflowId" Zod.filled
    let dedupeKey ← Zod.required p "dedupeKey" Zod.filled
    let tenantExternalId ← Zod.required p "tenantExternalId" Zod.filled
    let tenantName ← Zod.required p "tenantName" Zod.filled
    let requestedBy ← Zod.required p "requestedBy" Zod.filled
    let callbackId ← Zod.required p "callbackId" Zod.filled
    let callbackType ← Zod.defaulted p "callbackType" (Zod.oneOf callbackTypes) .completed
    let runtimeRunId ← Zod.optional p "runtimeRunId" Zod.filled
    let progressStep ← Zod.optional p "progressStep" Zod.filled
    let progressMessage ← Zod.optional p "progressMessage" Zod.filled
    let progressPercent ← Zod.optional p "progressPercent" (Zod.numberIn 0 100)
    let failureCode ← Zod.optional p "failureCode" Zod.filled
    let failureMessage ← Zod.optional p "failureMessage" Zod.filled
    return { tenantId, workflowId, dedupeKey, tenantExternalId, tenantName, requestedBy,
             callbackId, callbackType, runtimeRunId, progressStep, progressMessage,
             progressPercent, failureCode, failureMessage }
  | _ => none

/-- What is accepted is well formed. -/
theorem parse_valid {j : Json} {input : TenantProvisioningRuntimeCallback}
    (h : parse j = some input) : input.valid = true := by
  have text : ∀ {p : Payload} {field s : String}, Zod.required p field Zod.filled = some s →
      s ≠ "" := by
    intro p field s read
    obtain ⟨_, _, hs⟩ := Zod.required_eq_some read
    exact Zod.filled_eq_some hs
  have text? : ∀ {p : Payload} {field : String} {o : Option String},
      Zod.optional p field Zod.filled = some o → o.all (· != "") = true := by
    intro p field o read
    refine Zod.optional_all read fun j s hs => ?_
    simpa using Zod.filled_eq_some hs
  cases j with
  | obj p =>
    obtain ⟨tenantId, ht, h⟩ := Option.bind_eq_some_iff.mp h
    obtain ⟨workflowId, hw, h⟩ := Option.bind_eq_some_iff.mp h
    obtain ⟨dedupeKey, hd, h⟩ := Option.bind_eq_some_iff.mp h
    obtain ⟨externalId, he, h⟩ := Option.bind_eq_some_iff.mp h
    obtain ⟨name, hn, h⟩ := Option.bind_eq_some_iff.mp h
    obtain ⟨by_, hb, h⟩ := Option.bind_eq_some_iff.mp h
    obtain ⟨callbackId, hc, h⟩ := Option.bind_eq_some_iff.mp h
    obtain ⟨callbackType, _, h⟩ := Option.bind_eq_some_iff.mp h
    obtain ⟨runId, hr, h⟩ := Option.bind_eq_some_iff.mp h
    obtain ⟨step, hs, h⟩ := Option.bind_eq_some_iff.mp h
    obtain ⟨message, hm, h⟩ := Option.bind_eq_some_iff.mp h
    obtain ⟨percent, hp, h⟩ := Option.bind_eq_some_iff.mp h
    obtain ⟨code, hf, h⟩ := Option.bind_eq_some_iff.mp h
    obtain ⟨failure, hg, h⟩ := Option.bind_eq_some_iff.mp h
    cases h
    obtain ⟨_, _, uuid⟩ := Zod.required_eq_some ht
    have bounded : percent.all (fun q => 0 ≤ q && q ≤ 100) = true := by
      refine Zod.optional_all hp fun j q hq => ?_
      simpa using Zod.numberIn_eq_some hq
    simp only [valid, TenantProvisioningWorkflowInput.valid, Zod.uuid_eq_some uuid, text? hr,
      text? hs, text? hm, text? hf, text? hg, bounded, Bool.and_true, Bool.true_and,
      Bool.and_eq_true, bne_iff_ne]
    exact ⟨⟨⟨⟨⟨text hw, text hd⟩, text he⟩, text hn⟩, text hb⟩, text hc⟩
  | null => cases h
  | bool b => cases h
  | num n => cases h
  | str s => cases h
  | arr items => cases h

theorem valid_tenant {input : TenantProvisioningRuntimeCallback} (h : input.valid = true) :
    isUuid input.tenantId = true := by
  simp only [valid, TenantProvisioningWorkflowInput.valid, Bool.and_eq_true] at h
  exact h.1.1.1.1.1.1.1.1.1.1.1.1

end TenantProvisioningRuntimeCallback

def requestedType : String := "workflow.tenant_provisioning.requested.v1"

def progressType : String := "workflow.tenant_provisioning.progress.v1"

def completedType : String := "workflow.tenant_provisioning.completed.v1"

def failedType : String := "workflow.tenant_provisioning.failed.v1"

section
variable (now : Instant)

def createTenantProvisioningWorkflowOutboxCommand (input : TenantProvisioningWorkflowInput) :
    Except DbError EnqueueOutboxEvent :=
  if input.valid then .ok {
    tenantId := input.tenantId
    eventType := requestedType
    idempotencyKey := input.dedupeKey
    payload := [("workflow_id", .str input.workflowId),
      ("tenant_external_id", .str input.tenantExternalId), ("tenant_name", .str input.tenantName),
      ("requested_by", .str input.requestedBy), ("requested_at", .str now.toISOString)] }
  else .error .zod

structure TenantProvisioningWorkflowResult where
  tenantId : String
  workflowId : String
  status : String
  provisioningKey : String
  acceptedAt : Instant

def acceptTenantProvisioningWorkflowDeterministic (input : TenantProvisioningWorkflowInput) :
    TenantProvisioningWorkflowResult where
  tenantId := input.tenantId
  workflowId := input.workflowId
  status := "accepted"
  provisioningKey := join input.tenantExternalId input.dedupeKey
  acceptedAt := now

def createTenantProvisioningCompletedOutboxCommand (input : TenantProvisioningRuntimeCallback) :
    Except DbError EnqueueOutboxEvent :=
  let accepted := acceptTenantProvisioningWorkflowDeterministic now
    input.toTenantProvisioningWorkflowInput
  if input.valid then .ok {
    tenantId := input.tenantId
    eventType := completedType
    idempotencyKey := join input.dedupeKey (join "completed" input.callbackId)
    payload := [("workflow_id", .str accepted.workflowId), ("tenant_id", .str accepted.tenantId),
      ("tenant_external_id", .str input.tenantExternalId), ("tenant_name", .str input.tenantName),
      ("provisioning_key", .str accepted.provisioningKey), ("status", .str accepted.status),
      ("callback_id", .str input.callbackId), ("runtime_run_id", Json.ofText input.runtimeRunId),
      ("accepted_at", .str accepted.acceptedAt.toISOString),
      ("completed_at", .str now.toISOString)] }
  else .error .zod

def createTenantProvisioningProgressOutboxCommand (input : TenantProvisioningRuntimeCallback) :
    Except DbError EnqueueOutboxEvent :=
  let step := input.progressStep.getD "callback_received"
  if input.valid then .ok {
    tenantId := input.tenantId
    eventType := progressType
    idempotencyKey := join input.dedupeKey (join "progress" (join input.callbackId step))
    payload := [("workflow_id", .str input.workflowId), ("tenant_id", .str input.tenantId),
      ("tenant_external_id", .str input.tenantExternalId), ("tenant_name", .str input.tenantName),
      ("callback_id", .str input.callbackId), ("callback_type", .str input.callbackType.text),
      ("runtime_run_id", Json.ofText input.runtimeRunId), ("progress_step", .str step),
      ("progress_message", .str (input.progressMessage.getD "Runtime callback received")),
      ("progress_percent",
        match input.progressPercent with
        | some p => .num (.finite p)
        | none => .null),
      ("occurred_at", .str now.toISOString)] }
  else .error .zod

def createTenantProvisioningFailedOutboxCommand (input : TenantProvisioningRuntimeCallback) :
    Except DbError EnqueueOutboxEvent :=
  if input.valid then .ok {
    tenantId := input.tenantId
    eventType := failedType
    idempotencyKey := join input.dedupeKey (join "failed" input.callbackId)
    payload := [("workflow_id", .str input.workflowId), ("tenant_id", .str input.tenantId),
      ("tenant_external_id", .str input.tenantExternalId), ("tenant_name", .str input.tenantName),
      ("callback_id", .str input.callbackId), ("runtime_run_id", Json.ofText input.runtimeRunId),
      ("failure_code", .str (input.failureCode.getD "UNKNOWN")),
      ("failure_message", .str (input.failureMessage.getD "Workflow failed without details")),
      ("failed_at", .str now.toISOString)] }
  else .error .zod

end

/-- The outcome an event of this type reports, where it reports one. -/
def reportedOutcome (eventType : String) : Option WorkflowRunState :=
  if eventType = completedType then some .completed
  else if eventType = failedType then some .failed else none

@[simp] theorem completed_outcome : reportedOutcome completedType = some .completed := rfl

@[simp] theorem failed_outcome : reportedOutcome failedType = some .failed := by decide

@[simp] theorem progress_outcome : reportedOutcome progressType = none := by decide

@[simp] theorem requested_outcome : reportedOutcome requestedType = none := by decide

/-- The command tells how a workflow of a tenant ended. -/
structure Reports (command : EnqueueOutboxEvent) (tenantId workflowId : String)
    (outcome : WorkflowRunState) : Prop where
  tenant : command.tenantId = tenantId
  workflow : command.payload.text "workflow_id" = some workflowId
  outcome : reportedOutcome command.eventType = some outcome

section
variable {now : Instant} {input : TenantProvisioningRuntimeCallback} {command : EnqueueOutboxEvent}

theorem completed_reports
    (h : createTenantProvisioningCompletedOutboxCommand now input = .ok command) :
    Reports command input.tenantId input.workflowId .completed := by
  simp only [createTenantProvisioningCompletedOutboxCommand] at h
  split at h
  · cases h
    exact ⟨rfl, rfl, completed_outcome⟩
  · cases h

theorem failed_reports (h : createTenantProvisioningFailedOutboxCommand now input = .ok command) :
    Reports command input.tenantId input.workflowId .failed := by
  simp only [createTenantProvisioningFailedOutboxCommand] at h
  split at h
  · cases h
    exact ⟨rfl, rfl, failed_outcome⟩
  · cases h

theorem progress_reports_nothing
    (h : createTenantProvisioningProgressOutboxCommand now input = .ok command) :
    reportedOutcome command.eventType = none := by
  simp only [createTenantProvisioningProgressOutboxCommand] at h
  split at h
  · cases h
    exact progress_outcome
  · cases h

end

theorem Reports.same {command : EnqueueOutboxEvent} {t t' w w' : String} {o o' : WorkflowRunState}
    (h : Reports command t w o) (h' : Reports command t' w' o') : t = t' ∧ w = w' ∧ o = o' :=
  ⟨h.tenant.symm.trans h'.tenant, Option.some.inj (h.workflow.symm.trans h'.workflow),
    Option.some.inj (h.outcome.symm.trans h'.outcome)⟩

theorem reported_terminal {eventType : String} {outcome : WorkflowRunState}
    (h : reportedOutcome eventType = some outcome) : outcome.terminal = true := by
  unfold reportedOutcome at h
  split at h
  · cases h
    rfl
  · split at h
    · cases h
      rfl
    · cases h

end VantGrowth.Core
