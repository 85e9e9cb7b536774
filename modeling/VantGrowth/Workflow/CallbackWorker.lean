import VantGrowth.Workflow.Routes

namespace VantGrowth.Workflow
open Core Db Lib Lib.Text Prog

/-- How a `WorkflowCallbackWorker` is wired. -/
structure WorkflowCallbackWorker where
  /-- The direct path, rather than the verification of a runtime's state. -/
  provisioningClients : Bool
  tenantSecretsService : Bool
deriving DecidableEq

inductive ProvisioningStep where
  | zitadel_org | paperclip_company | gitea_workspace_repo | nats_consumer_groups | minio_bucket
  | lago_customer | seed_founder_doc
deriving DecidableEq

def ProvisioningStep.text : ProvisioningStep → String
  | zitadel_org => "zitadel_org"
  | paperclip_company => "paperclip_company"
  | gitea_workspace_repo => "gitea_workspace_repo"
  | nats_consumer_groups => "nats_consumer_groups"
  | minio_bucket => "minio_bucket"
  | lago_customer => "lago_customer"
  | seed_founder_doc => "seed_founder_doc"

structure ProvisioningStepResult where
  step : ProvisioningStep
  skipped : Bool
deriving DecidableEq

structure TenantProvisioningResult where
  steps : List ProvisioningStepResult
  completedAt : Instant
deriving DecidableEq

/-- What awaits inside the `try` of the direct path: it ends early with the
message the `catch` reports. -/
abbrev Attempt := ExceptT String Handler

/-- `err instanceof Error ? err.message : ...`, for the errors of this system. -/
def WorkflowError.message (d : Deployment) : WorkflowError → String
  | .repository .zod => d.zodMessage
  | .repository (.notFound m) | .repository (.conflict m) | .repository (.state m)
  | .repository (.error m) => m
  | .repository .range => "Invalid time value"
  | .lost m | .serviceUnavailable m | .unauthorized m | .conflict m _ | .error m => m
  | .syntaxError => "Unexpected token"

def callbackOf (request : TenantProvisioningWorkflowInput) (callbackId : String)
    (callbackType : CallbackType) : TenantProvisioningRuntimeCallback :=
  { request with callbackId, callbackType }

/-- `OutboxProvisioningProgressReporter.report` -/
def report (d : Deployment) (request : TenantProvisioningWorkflowInput) (step : ProvisioningStep)
    (progressPercent : Nat) (message : String) : Attempt Unit := do
  let callbackId := join "orchestrator" (join request.workflowId
    (join step.text (decimal progressPercent)))
  let now ← ExceptT.lift (await .now)
  match createTenantProvisioningProgressOutboxCommand now
      { callbackOf request callbackId .progress with
        progressStep := some step.text, progressMessage := some message,
        progressPercent := some progressPercent } with
  | .error _ => throw d.zodMessage
  | .ok command =>
    match ← ExceptT.lift (await (.report command)) with
    | .error e => throw (e.message d)
    | .ok _ => return ()

/-- An external call tells whether it made something new. -/
def external (request : TenantProvisioningWorkflowInput) (call : ProvisioningCall) :
    Attempt Bool := do
  match ← ExceptT.lift (await (.external call request.tenantId)) with
  | .error message => throw (message.getD "Unknown provisioning failure")
  | .ok isNew => return isNew

def externals (request : TenantProvisioningWorkflowInput) :
    List ProvisioningCall → Attempt (List Bool)
  | [] => return []
  | first :: rest => do
    let isNew ← external request first
    let later ← externals request rest
    return isNew :: later

/-- A step of the orchestrator: what it reports, the calls it makes, and
whether the resource of the last call may be there already. -/
structure ProvisioningStage where
  step : ProvisioningStep
  progressPercent : Nat
  message : String
  calls : List ProvisioningCall
  skippable : Bool

def provisioningStages (request : TenantProvisioningWorkflowInput) : List ProvisioningStage :=
  [⟨.zitadel_org, 5, "Provisioning Zitadel organisation for " ++ request.tenantName,
      [.createOrg, .createServiceAccount], false⟩,
    ⟨.paperclip_company, 15, "Provisioning Paperclip company for " ++ request.tenantName,
      [.provisionCompany], true⟩,
    ⟨.gitea_workspace_repo, 35, "Provisioning workspace repository for tenant " ++ request.tenantId,
      [.provisionWorkspaceRepo], true⟩,
    ⟨.nats_consumer_groups, 52, "Provisioning NATS consumer group for tenant " ++ request.tenantId,
      [.provisionConsumerGroup], true⟩,
    ⟨.minio_bucket, 67, "Provisioning MinIO bucket growthos-" ++ request.tenantId,
      [.provisionBucket], true⟩,
    ⟨.lago_customer, 80, "Provisioning Lago billing customer for tenant " ++ request.tenantId,
      [.createCustomer, .assignPlan], false⟩,
    ⟨.seed_founder_doc, 90, "Seeding FOUNDER.md in workspace repository", [.createOrUpdateFile],
      true⟩]

def runStage (d : Deployment) (request : TenantProvisioningWorkflowInput)
    (stage : ProvisioningStage) : Attempt ProvisioningStepResult := do
  report d request stage.step stage.progressPercent stage.message
  let answers ← externals request stage.calls
  return { step := stage.step, skipped := stage.skippable && !(answers.getLast?.getD true) }

def runStages (d : Deployment) (request : TenantProvisioningWorkflowInput) :
    List ProvisioningStage → Attempt (List ProvisioningStepResult)
  | [] => return []
  | stage :: stages => do
    let result ← runStage d request stage
    let later ← runStages d request stages
    return result :: later

/-- `tenantProvisioningInputV1Schema`, which bounds the name besides. -/
def acceptsInput (request : TenantProvisioningWorkflowInput) : Bool :=
  request.valid && jsLength request.tenantName ≤ 128

/-- `TenantProvisioningOrchestrator.run` -/
def orchestrate (d : Deployment) (request : TenantProvisioningWorkflowInput) :
    Attempt TenantProvisioningResult := do
  if acceptsInput request = false then
    throw d.zodMessage
  else
    let steps ← runStages d request (provisioningStages request)
    report d request .seed_founder_doc 100
      ("Tenant " ++ request.tenantName ++ " provisioned successfully")
    let completedAt ← ExceptT.lift (await .now)
    return { steps, completedAt }

/-- The body of the `try`. -/
def provision (d : Deployment) (w : WorkflowCallbackWorker)
    (request : TenantProvisioningWorkflowInput) : Attempt TenantProvisioningResult := do
  let result ← orchestrate d request
  if w.tenantSecretsService = true then
    let _ ← external request .provisionTenantSecrets
    return result
  else
    return result

def stepMessage (result : ProvisioningStepResult) : String :=
  if result.skipped then result.step.text ++ " skipped (already exists)"
  else result.step.text ++ " completed"

def syntheticHistory (result : TenantProvisioningResult) :
    List TenantProvisioningRuntimeHistoryEvent :=
  result.steps.map fun done =>
    { step := done.step.text, message := stepMessage done, percent := none,
      occurredAt := result.completedAt.toISOString }

/-- Every delivery starts here. A run that is no longer requested stays as it
is; what the swap comes to is not looked at. -/
def openRun (request : TenantProvisioningWorkflowInput) : Handler WorkflowRun := do
  let currentRun ← await (.upsertRequested request.tenantId request.workflowId request.dedupeKey)
  if currentRun.state = .requested then
    let _ ← await (.transitionState request.tenantId request.workflowId .requested .in_progress none)
    return currentRun
  else
    return currentRun

/-- The event is enqueued before the run is moved, and what the swap comes to
is not looked at. -/
def settle (request : TenantProvisioningWorkflowInput)
    (command : Instant → Except DbError EnqueueOutboxEvent) (outcome : WorkflowRunState)
    (failureCode : Option String) : Handler Unit := do
  let _ ← emit command
  let _ ← await (.transitionState request.tenantId request.workflowId .in_progress outcome
    failureCode)

def failedCallback (request : TenantProvisioningWorkflowInput) (failureMessage : String) :
    TenantProvisioningRuntimeCallback :=
  { callbackOf request (join "orchestrator" (join request.workflowId "failed")) .failed with
    failureCode := some "PROVISIONING_ERROR", failureMessage := some failureMessage }

def completedCallback (request : TenantProvisioningWorkflowInput) :
    TenantProvisioningRuntimeCallback :=
  callbackOf request (join "orchestrator" (join request.workflowId "completed")) .completed

/-- `processWithOrchestrator`, once the run is open. -/
def provisionDirectly (d : Deployment) (w : WorkflowCallbackWorker)
    (request : TenantProvisioningWorkflowInput) : Handler TenantProvisioningRuntimeState := do
  match ← (provision d w request).run with
  | .error failureMessage =>
    settle request (fun now => createTenantProvisioningFailedOutboxCommand now
      (failedCallback request failureMessage)) .failed (some "PROVISIONING_ERROR")
    return { workflowId := request.workflowId, tenantId := request.tenantId, state := .failed,
             failureCode := some "PROVISIONING_ERROR", failureMessage := some failureMessage }
  | .ok result =>
    settle request (fun now => createTenantProvisioningCompletedOutboxCommand now
      (completedCallback request)) .completed none
    return { workflowId := request.workflowId, tenantId := request.tenantId, state := .completed,
             history := syntheticHistory result }

/-- The callback of the verification path, as a runtime's state fills it. -/
def verifiedCallback (request : TenantProvisioningWorkflowInput) (callbackType : CallbackType)
    (state : TenantProvisioningRuntimeState) : TenantProvisioningRuntimeCallback :=
  { callbackOf request (join "worker-callback" request.workflowId) callbackType with
    runtimeRunId := state.runtimeRunId }

/-- `emitProgressEvent` -/
def emitProgressEvent (request : TenantProvisioningWorkflowInput)
    (state : TenantProvisioningRuntimeState) (event : TenantProvisioningRuntimeHistoryEvent) :
    Handler Unit := do
  let _ ← emit fun now => createTenantProvisioningProgressOutboxCommand now
    { verifiedCallback request .progress state with
      progressStep := some event.step, progressMessage := some event.message,
      progressPercent := event.percent }

/-- The verification path, once the run is open. -/
def verifyRuntime (request : TenantProvisioningWorkflowInput) :
    Handler TenantProvisioningRuntimeState := do
  let state : TenantProvisioningRuntimeState ←
    await (.getTenantProvisioningRuntimeState request.tenantId request.workflowId)
  state.history.forM (emitProgressEvent request state)
  match state.state with
  | .completed =>
    settle request (fun now => createTenantProvisioningCompletedOutboxCommand now
      (verifiedCallback request .completed state)) .completed none
    return state
  | .failed =>
    settle request (fun now => createTenantProvisioningFailedOutboxCommand now
      { verifiedCallback request .failed state with
        failureCode := state.failureCode, failureMessage := state.failureMessage })
      .failed state.failureCode
    return state
  | .requested | .in_progress =>
    throw (.error ("Runtime state '" ++ state.state.text ++
      "' is not terminal for workflow callback completion"))

/-- `processTenantProvisioningCompletion`. A run that is terminal already is
answered without emitting anything. -/
def processTenantProvisioningCompletion (d : Deployment) (w : WorkflowCallbackWorker)
    (request : TenantProvisioningWorkflowInput) : Handler TenantProvisioningRuntimeState := do
  require (request.valid = true) (.repository .zod)
  let currentRun ← openRun request
  if currentRun.state.terminal = true then
    if w.provisioningClients = true then
      return { workflowId := request.workflowId, tenantId := request.tenantId,
               state := currentRun.state, failureCode := currentRun.failureCode }
    else
      await (.getTenantProvisioningRuntimeState request.tenantId request.workflowId)
  else if w.provisioningClients = true then
    provisionDirectly d w request
  else
    verifyRuntime request

/-- What launches a handler. -/
inductive Start where
  | request (input : TenantProvisioningWorkflowInput)
  | runtimeCallback (request : SignedRequest)
  | progressCallback (request : SignedRequest)
  | delivery (worker : WorkflowCallbackWorker) (request : TenantProvisioningWorkflowInput)
deriving DecidableEq

def handlerOf (d : Deployment) : Start → Handler Unit
  | .request input => do
    let _ ← requestProvisioning d input
  | .runtimeCallback request => do
    let _ ← runtimeCallback d request
  | .progressCallback request => do
    let _ ← progressCallback d request
  | .delivery worker request => do
    let _ ← processTenantProvisioningCompletion d worker request

/-- Routes and workers over one world, interleaved at every await. A message
may be delivered again at any time. -/
def machine (d : Deployment) : Machine Res WorkflowError (Faulty World) Start Unit where
  exec := exec d
  program _ s := some (handlerOf d s)
  acknowledge _ := none
  outside
    | .tick _ | .markConsumed _ _ | .disturb _ | .prepare _ _ => true
    | _ => false

end VantGrowth.Workflow
