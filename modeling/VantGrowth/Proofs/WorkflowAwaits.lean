import VantGrowth.Proofs.WorkflowSteps

namespace VantGrowth.Proofs.WorkflowAwaits
open Core Db Lib Lib.Text Lib.Prog Workflow WorkflowSteps

abbrev Answers := List (Did Res)

/-- The answer of an await inside the `try` that ends it. -/
def failedAttempt : Did Res → Bool
  | ⟨.external _ _, .error _⟩ => true
  | ⟨.report _, .error _⟩ => true
  | _ => false

/-- The state a runtime answered. -/
def runtimeAnswer : Did Res → Option WorkflowRunState
  | ⟨.getTenantProvisioningRuntimeState _ _, state⟩ => some state.state
  | _ => none

/-- How the external systems had a delivery end, by the answers it got: on the
direct path by whether any attempt failed, else by the state of the runtime. -/
def externalOutcome (w : WorkflowCallbackWorker) (request : TenantProvisioningWorkflowInput)
    (h : Answers) : WorkflowRunState :=
  if w.provisioningClients = true then
    if acceptsInput request = false ∨ h.any failedAttempt = true then .failed else .completed
  else (h.findSome? runtimeAnswer).getD .requested

/-- The command does not tell how a workflow ended. -/
def Silent (command : EnqueueOutboxEvent) : Prop := reportedOutcome command.eventType = none

def endOf (p : TenantProvisioningRuntimeCallback) : WorkflowRunState :=
  if p.callbackType = .failed then .failed else .completed

/-- What the route knows of the run when it emits its events. -/
def Licensed (p : TenantProvisioningRuntimeCallback) (h : Answers) : Prop :=
  ∃ (run : Option WorkflowRun) (prior : WorkflowRunState) (updated : Option WorkflowRun),
    ⟨.getByWorkflowId p.tenantId p.workflowId, run⟩ ∈ h ∧
    prior = (run.map (·.state)).getD .requested ∧ prior.terminal = false ∧
    ⟨.transitionState p.tenantId p.workflowId prior (callbackTypeToState p.callbackType)
      p.failureCode, updated⟩ ∈ h ∧
    (updated.isSome = true ∨ prior = callbackTypeToState p.callbackType)

def NoneReported (h : Answers) : Prop := ∀ x ∈ h, ∀ c, x.op = .enqueue c → Silent c

def CallbackAsks (p : TenantProvisioningRuntimeCallback) (h : Answers) : Op → Prop
  | .enqueue command => Silent command ∨
      Reports command p.tenantId p.workflowId (endOf p) ∧ Licensed p h ∧ NoneReported h
  | _ => True

/-- A delivery reports the outcome it was given, and only then moves its run
there. -/
def DeliveryAsks (w : WorkflowCallbackWorker) (request : TenantProvisioningWorkflowInput)
    (h : Answers) : Op → Prop
  | .enqueue command => Silent command ∨
      Reports command request.tenantId request.workflowId (externalOutcome w request h)
  | .report command => Silent command
  | .transitionState _ _ _ toState _ => toState.terminal = false ∨
      ∃ before command event, h = before ++ [⟨.enqueue command, event⟩] ∧
        reportedOutcome command.eventType = some toState
  | _ => True

/-- The routes that report no outcome and move no run. -/
def PlainAsks : Op → Prop
  | .enqueue command | .report command => Silent command
  | .transitionState _ _ _ _ _ => False
  | _ => True

def Asks (d : Deployment) : Start → Answers → Op → Prop
  | .request _, _, op => PlainAsks op
  | .progressCallback _, _, op => PlainAsks op
  | .runtimeCallback request, h, op => d.workflowRunRepository = true →
      ∃ p, readCallback d request = .ok p ∧ CallbackAsks p h op
  | .delivery w request, h, op => DeliveryAsks w request h op

def Returned (_ : Start) (_ : Answers) (_ : Unit) : Prop := True

section
variable {P : Answers → Op → Prop} {Q : Answers → β → Prop} {h : Answers}

theorem meets_anything (any : ∀ h op, P h op) (m : Handler α) :
    Meets P (fun _ _ => True) h m := by
  induction m generalizing h with
  | done a => trivial
  | fail e => trivial
  | call op next ih => exact ⟨any h op, fun r => ih r⟩

theorem meets_ofExcept_bind {value : Except WorkflowError α} {f : α → Handler β}
    (next : ∀ a, value = .ok a → Meets P Q h (f a)) : Meets P Q h (ofExcept value >>= f) := by
  cases value with
  | ok a => exact next a rfl
  | error e => exact meets_throw

theorem meets_parsed_bind {value : Except DbError α} {f : α → Handler β}
    (next : ∀ a, value = .ok a → Meets P Q h (f a)) : Meets P Q h (parsed value >>= f) := by
  cases value with
  | ok a => exact next a rfl
  | error e => exact meets_throw

theorem meets_emit {build : Instant → Except DbError EnqueueOutboxEvent}
    {Q : Answers → StoredOutboxEvent → Prop} (now : P h .now)
    (after : ∀ t c, build t = .ok c → P (h ++ [⟨.now, t⟩]) (.enqueue c) ∧
      ∀ e, Q (h ++ [⟨.now, t⟩] ++ [⟨.enqueue c, e⟩]) e) : Meets P Q h (emit build) := by
  refine meets_perform_bind now fun t => meets_parsed_bind fun c built => ?_
  exact meets_perform (after t c built).1 (after t c built).2

theorem meets_require {p : Prop} [Decidable p] {e : WorkflowError} {Q : Answers → Unit → Prop}
    (passed : p → Q h ()) : Meets P Q h (require p e) :=
  meets_ite (fun hp => meets_pure (passed hp)) fun _ => meets_throw

end

theorem requested_silent {now : Instant} {input : TenantProvisioningWorkflowInput}
    {command : EnqueueOutboxEvent}
    (h : createTenantProvisioningWorkflowOutboxCommand now input = .ok command) :
    Silent command := by
  simp only [createTenantProvisioningWorkflowOutboxCommand] at h
  split at h
  · cases h
    exact requested_outcome
  · cases h

theorem NoneReported.snoc {h : Answers} (none_ : NoneReported h) {x : Did Res}
    (silent : ∀ c, x.op = .enqueue c → Silent c) : NoneReported (h ++ [x]) := by
  intro y hy c hc
  rcases List.mem_append.mp hy with old | now
  · exact none_ y old c hc
  · cases List.mem_singleton.mp now
    exact silent c hc

theorem Licensed.snoc {p : TenantProvisioningRuntimeCallback} {h : Answers}
    (licensed : Licensed p h) (x : Did Res) : Licensed p (h ++ [x]) := by
  obtain ⟨run, prior, updated, looked, hp, unfinished, swapped, passed⟩ := licensed
  exact ⟨run, prior, updated, List.mem_append_left _ looked, hp, unfinished,
    List.mem_append_left _ swapped, passed⟩

section
variable {p : TenantProvisioningRuntimeCallback} {P : Answers → Op → Prop}
  (allowed : ∀ h op, CallbackAsks p h op → P h op)
include allowed

theorem recordTransition_licenses :
    Meets P (fun h _ => Licensed p h ∧ NoneReported h) [] (recordTransition p) := by
  refine meets_perform_bind (allowed _ _ trivial) fun run => ?_
  unfold moveRun
  dsimp only
  split
  · exact meets_throw
  · rename_i admitted
    refine meets_perform_bind (allowed _ _ trivial) fun updated => meets_require fun passed => ?_
    refine ⟨⟨run, _, updated, by simp, rfl, transition_admitted ⟨_, admitted⟩, by simp, passed⟩, ?_⟩
    intro x hx c hc
    simp only [List.nil_append, List.cons_append, List.mem_cons, List.not_mem_nil, or_false] at hx
    rcases hx with rfl | rfl <;> cases hc

theorem emitEvents_reports {h : Answers} (licensed : Licensed p h) (none_ : NoneReported h) :
    Meets P (fun _ _ => True) h (emitEvents p) := by
  have quiet : ∀ now : Instant, ∀ c, (⟨.now, now⟩ : Did Res).op = .enqueue c → Silent c := by
    rintro now c ⟨⟩
  refine meets_bind (Q := fun h' _ => Licensed p h' ∧ NoneReported h')
    (meets_emit (allowed _ _ trivial) fun now progress hp => ?_) fun h' _ known => ?_
  · have silent : Silent progress := progress_reports_nothing hp
    refine ⟨allowed _ _ (Or.inl silent), fun event => ⟨(licensed.snoc _).snoc _, ?_⟩⟩
    refine (none_.snoc (quiet now)).snoc ?_
    rintro c ⟨⟩
    exact silent
  · refine meets_emit (allowed _ _ trivial) fun now command hc => ⟨allowed _ _ (Or.inr ⟨?_, ?_, ?_⟩),
      fun _ => trivial⟩
    · unfold terminalCommand at hc
      unfold endOf
      split at hc
      · rw [if_pos ‹_›]
        exact failed_reports hc
      · rw [if_neg ‹_›]
        exact completed_reports hc
    · exact known.1.snoc _
    · exact known.2.snoc (quiet now)

end

theorem runtimeCallback_asks {d : Deployment} (request : SignedRequest) :
    Meets (Asks d (.runtimeCallback request)) (fun _ _ => True) [] (runtimeCallback d request) := by
  by_cases stored : d.workflowRunRepository = true
  · refine meets_ofExcept_bind fun p read => ?_
    have allowed : ∀ h op, CallbackAsks p h op → Asks d (.runtimeCallback request) h op :=
      fun h op asks _ => ⟨p, read, asks⟩
    rw [if_pos stored]
    refine meets_bind (recordTransition_licenses allowed) fun h _ known => ?_
    refine meets_bind (emitEvents_reports allowed known.1 known.2) fun _ _ _ => ?_
    exact meets_pure trivial
  · exact meets_anything (fun _ _ configured => absurd configured stored) _

theorem progressCallback_asks {d : Deployment} (request : SignedRequest) :
    Meets (Asks d (.progressCallback request)) (fun _ _ => True) [] (progressCallback d request) := by
  refine meets_ofExcept_bind fun p _ => meets_bind (Q := fun _ _ => True) (meets_emit trivial ?_)
    fun _ _ _ => meets_pure trivial
  exact fun now command hc => ⟨progress_reports_nothing hc, fun _ => trivial⟩

theorem requestProvisioning_asks {d : Deployment} (input : TenantProvisioningWorkflowInput) :
    Meets (Asks d (.request input)) (fun _ _ => True) [] (requestProvisioning d input) := by
  refine meets_require_bind fun _ => meets_require_bind fun _ => ?_
  have emits : ∀ h, Meets (Asks d (.request input)) (fun _ _ => True) h
      (emit fun now => createTenantProvisioningWorkflowOutboxCommand now input) :=
    fun h => meets_emit trivial fun now command hc => ⟨requested_silent hc, fun _ => trivial⟩
  refine meets_ite (fun _ => ?_) fun _ => emits _
  exact meets_perform_bind trivial fun _ => emits _

/-- How a `try` of a delivery ended, by the answers since. -/
def Tried (request : TenantProvisioningWorkflowInput) (h : Answers) : Except String α → Prop
  | .ok _ => acceptsInput request = true ∧ h.any failedAttempt = false
  | .error _ => acceptsInput request = false ∨ h.any failedAttempt = true

/-- Inside the `try`, as long as nothing failed. -/
def Trying (h : Answers) : Except String α → Prop
  | .ok _ => h.any failedAttempt = false
  | .error _ => h.any failedAttempt = true

theorem text_ne_empty (step : ProvisioningStep) : step.text ≠ "" := by
  cases step <;> decide

theorem append_ne_empty {a b : String} (h : a ≠ "") : a ++ b ≠ "" := by
  intro empty
  have parts := congrArg String.toList empty
  rw [String.toList_append] at parts
  exact h (String.toList_inj.mp (List.append_eq_nil_iff.mp parts).1)

section
variable {d : Deployment} {w : WorkflowCallbackWorker} {request : TenantProvisioningWorkflowInput}

/-- A reporter never builds a command its schema refuses. -/
theorem reported_valid (valid : request.valid = true) (step : ProvisioningStep) {percent : Nat}
    (bound : percent ≤ 100) {message : String} (filled : message ≠ "") (callbackType : CallbackType)
    (tag rest : String) :
    TenantProvisioningRuntimeCallback.valid
      { callbackOf request (join tag rest) callbackType with
        progressStep := some step.text, progressMessage := some message,
        progressPercent := some (percent : ℚ) } = true := by
  have low : (0 : ℚ) ≤ percent := Nat.cast_nonneg percent
  have high : (percent : ℚ) ≤ 100 := by exact_mod_cast bound
  simp [TenantProvisioningRuntimeCallback.valid, callbackOf, valid, join_ne_empty,
    text_ne_empty, filled, low, high]

variable {h : Answers}

theorem report_tries (valid : request.valid = true) (clean : h.any failedAttempt = false)
    (step : ProvisioningStep) {percent : Nat} (bound : percent ≤ 100) {message : String}
    (filled : message ≠ "") :
    Meets (DeliveryAsks w request) Trying h (report d request step percent message).run := by
  refine meets_attempt_perform_bind trivial fun now => ?_
  split
  · rename_i refused
    unfold createTenantProvisioningProgressOutboxCommand at refused
    rw [if_pos (reported_valid valid step bound filled .progress _ _)] at refused
    cases refused
  · rename_i command hc
    refine meets_attempt_perform_bind (progress_reports_nothing hc) fun answer => ?_
    cases answer with
    | error e => exact meets_pure (by simp [Trying, failedAttempt])
    | ok event => exact meets_pure (by simp [Trying, failedAttempt, clean])

theorem external_tries (clean : h.any failedAttempt = false) (call : ProvisioningCall) :
    Meets (DeliveryAsks w request) Trying h (external request call).run := by
  refine meets_attempt_perform_bind trivial fun answer => ?_
  cases answer with
  | error e => exact meets_pure (by simp [Trying, failedAttempt])
  | ok event => exact meets_pure (by simp [Trying, failedAttempt, clean])

theorem externals_try (clean : h.any failedAttempt = false) (calls : List ProvisioningCall) :
    Meets (DeliveryAsks w request) Trying h (externals request calls).run := by
  induction calls generalizing h with
  | nil => exact meets_pure clean
  | cons first rest ih =>
    refine meets_attempt_bind (external_tries clean first) (fun h' _ clean' => ?_) fun _ _ hf => hf
    refine meets_attempt_bind (ih clean') (fun h'' _ clean'' => ?_) fun _ _ hf => hf
    exact meets_pure clean''

theorem runStage_tries (valid : request.valid = true) (clean : h.any failedAttempt = false)
    {stage : ProvisioningStage} (bound : stage.progressPercent ≤ 100) (filled : stage.message ≠ "") :
    Meets (DeliveryAsks w request) Trying h (runStage d request stage).run := by
  refine meets_attempt_bind (report_tries valid clean stage.step bound filled) ?_ fun _ _ hf => hf
  intro h' _ clean'
  refine meets_attempt_bind (externals_try clean' stage.calls) ?_ fun _ _ hf => hf
  exact fun h'' _ clean'' => meets_pure clean''

theorem runStages_try (valid : request.valid = true) (clean : h.any failedAttempt = false)
    {stages : List ProvisioningStage}
    (sound : ∀ stage ∈ stages, stage.progressPercent ≤ 100 ∧ stage.message ≠ "") :
    Meets (DeliveryAsks w request) Trying h (runStages d request stages).run := by
  induction stages generalizing h with
  | nil => exact meets_pure clean
  | cons stage stages ih =>
    obtain ⟨bound, filled⟩ := sound stage List.mem_cons_self
    refine meets_attempt_bind (runStage_tries valid clean bound filled) ?_ fun _ _ hf => hf
    intro h' _ clean'
    have later := ih clean' fun other ho => sound other (List.mem_cons_of_mem _ ho)
    refine meets_attempt_bind later ?_ fun _ _ hf => hf
    exact fun h'' _ clean'' => meets_pure clean''

theorem provisioningStages_sound (request : TenantProvisioningWorkflowInput) :
    ∀ stage ∈ provisioningStages request, stage.progressPercent ≤ 100 ∧ stage.message ≠ "" := by
  intro stage member
  simp only [provisioningStages, List.mem_cons, List.not_mem_nil, or_false] at member
  rcases member with rfl | rfl | rfl | rfl | rfl | rfl | rfl
  all_goals refine ⟨by simp, ?_⟩
  all_goals first | exact append_ne_empty (by decide) | decide

theorem orchestrate_tried (valid : request.valid = true) (clean : h.any failedAttempt = false) :
    Meets (DeliveryAsks w request) (Tried request) h (orchestrate d request).run := by
  unfold orchestrate
  by_cases accepts : acceptsInput request = true
  · have runs : Meets (DeliveryAsks w request) (Tried request) h (do
        let steps ← runStages d request (provisioningStages request)
        report d request .seed_founder_doc 100
          ("Tenant " ++ request.tenantName ++ " provisioned successfully")
        let completedAt ← ExceptT.lift (await .now)
        return { steps, completedAt } : Attempt TenantProvisioningResult).run := by
      refine meets_attempt_bind (runStages_try valid clean (provisioningStages_sound request)) ?_
        fun _ _ failed => Or.inr failed
      intro h' steps clean'
      refine meets_attempt_bind (report_tries valid clean' .seed_founder_doc (le_refl 100) ?_) ?_
        fun _ _ failed => Or.inr failed
      · exact append_ne_empty (append_ne_empty (by decide))
      · intro h'' _ clean''
        refine meets_attempt_perform_bind trivial fun now => meets_pure ⟨accepts, ?_⟩
        simp only [Trying] at clean''
        simp [failedAttempt, clean'']
    rw [if_neg (by simp [accepts])]
    exact runs
  · have refused : acceptsInput request = false := by simpa using accepts
    rw [if_pos refused]
    exact meets_pure (Or.inl refused)

theorem provision_tried (valid : request.valid = true) (clean : h.any failedAttempt = false) :
    Meets (DeliveryAsks w request) (Tried request) h (provision d w request).run := by
  refine meets_attempt_bind (orchestrate_tried valid clean) ?_ fun _ _ failed => failed
  rintro h' result ⟨accepts, clean'⟩
  split
  · refine meets_attempt_bind (external_tries clean' _) ?_ fun _ _ failed => Or.inr failed
    exact fun h'' _ clean'' => meets_pure ⟨accepts, clean''⟩
  · exact meets_pure ⟨accepts, clean'⟩

/-- A delivery whose external systems gave `outcome` reports that and moves the
run there. -/
theorem settle_asks {command : Instant → Except DbError EnqueueOutboxEvent}
    {outcome : WorkflowRunState} {code : Option String}
    (reports : ∀ now c, command now = .ok c →
      Reports c request.tenantId request.workflowId outcome)
    (given : ∀ now, externalOutcome w request (h ++ [⟨.now, now⟩]) = outcome) :
    Meets (DeliveryAsks w request) (fun _ _ => True) h (settle request command outcome code) := by
  refine meets_bind (Q := fun h' _ => ∃ before c event, h' = before ++ [⟨.enqueue c, event⟩] ∧
    reportedOutcome c.eventType = some outcome) (meets_emit trivial fun now c hc => ?_)
    fun h' _ told => ?_
  · have told := reports now c hc
    refine ⟨Or.inr ?_, fun event => ⟨_, c, event, rfl, told.outcome⟩⟩
    rw [given now]
    exact told
  · exact meets_perform_bind (Or.inr told) fun _ => meets_pure trivial

theorem externalOutcome_direct (direct : w.provisioningClients = true) :
    externalOutcome w request h =
      if acceptsInput request = false ∨ h.any failedAttempt = true then .failed else .completed :=
  if_pos direct

theorem provisionDirectly_asks (direct : w.provisioningClients = true)
    (valid : request.valid = true) (clean : h.any failedAttempt = false) :
    Meets (DeliveryAsks w request) (fun _ _ => True) h (provisionDirectly d w request) := by
  refine meets_bind (provision_tried valid clean) fun h' result tried => ?_
  cases result with
  | error message =>
    refine meets_bind (settle_asks (fun now c hc => failed_reports hc) fun now => ?_)
      fun _ _ _ => meets_pure trivial
    rw [externalOutcome_direct direct, if_pos]
    exact tried.imp_right fun failed => by simp [failed]
  | ok result =>
    refine meets_bind (settle_asks (fun now c hc => completed_reports hc) fun now => ?_)
      fun _ _ _ => meets_pure trivial
    rw [externalOutcome_direct direct, if_neg]
    obtain ⟨accepts, clean'⟩ := tried
    simp [accepts, clean', failedAttempt]

theorem externalOutcome_verified (verified : w.provisioningClients = false)
    {state : WorkflowRunState} (answered : h.findSome? runtimeAnswer = some state) (now : Instant) :
    externalOutcome w request (h ++ [⟨.now, now⟩]) = state := by
  have later : (h ++ [(⟨.now, now⟩ : Did Res)]).findSome? runtimeAnswer = some state := by
    rw [List.findSome?_append, answered]
    rfl
  unfold externalOutcome
  rw [if_neg (by simp [verified]), later]
  rfl

theorem verifyRuntime_asks (verified : w.provisioningClients = false)
    (unasked : h.findSome? runtimeAnswer = none) :
    Meets (DeliveryAsks w request) (fun _ _ => True) h (verifyRuntime request) := by
  refine meets_perform_bind trivial fun state => ?_
  have answered : (h ++ [(⟨.getTenantProvisioningRuntimeState request.tenantId request.workflowId,
      state⟩ : Did Res)]).findSome? runtimeAnswer = some state.state := by
    rw [List.findSome?_append, unasked]
    rfl
  refine meets_bind (Q := fun h' _ => h'.findSome? runtimeAnswer = some state.state)
    (meets_forM (J := fun h' => h'.findSome? runtimeAnswer = some state.state) state.history answered
      fun event _ h' known => ?_) fun h' _ known => ?_
  · refine meets_bind (Q := fun h'' _ => h''.findSome? runtimeAnswer = some state.state)
      (meets_emit trivial fun now command hc => ?_) fun _ _ known' => meets_pure known'
    refine ⟨Or.inl (progress_reports_nothing hc), fun _ => ?_⟩
    simp [List.findSome?_append, known]
  · have outcome : ∀ now, externalOutcome w request (h' ++ [⟨.now, now⟩]) = state.state :=
      fun now => externalOutcome_verified verified known now
    cases hs : state.state with
    | completed =>
      rw [hs] at outcome
      refine meets_bind (settle_asks (fun now c hc => completed_reports hc) outcome)
        fun _ _ _ => meets_pure trivial
    | failed =>
      rw [hs] at outcome
      refine meets_bind (settle_asks (fun now c hc => failed_reports hc) outcome)
        fun _ _ _ => meets_pure trivial
    | requested => exact meets_throw
    | in_progress => exact meets_throw

/-- Opening a run asks for nothing terminal and makes no external call. -/
theorem openRun_asks :
    Meets (DeliveryAsks w request)
      (fun h _ => h.any failedAttempt = false ∧ h.findSome? runtimeAnswer = none) []
      (openRun request) := by
  refine meets_perform_bind trivial fun run => meets_ite (fun _ => ?_) fun _ => ?_
  · refine meets_perform_bind (Or.inl rfl) fun _ => meets_pure ?_
    exact ⟨rfl, rfl⟩
  · exact meets_pure ⟨rfl, rfl⟩

theorem processTenantProvisioningCompletion_asks :
    Meets (DeliveryAsks w request) (fun _ _ => True) []
      (processTenantProvisioningCompletion d w request) := by
  refine meets_require_bind fun valid => meets_bind openRun_asks fun h run opened => ?_
  refine meets_ite (fun _ => meets_ite (fun _ => meets_pure trivial) fun _ => ?_) fun _ => ?_
  · exact meets_perform trivial fun _ => trivial
  · refine meets_ite (fun direct => provisionDirectly_asks direct valid opened.1) fun verified => ?_
    exact verifyRuntime_asks (by simpa using verified) opened.2

end

/-- What every handler asks for, at every await. -/
theorem specified {d : Deployment} (v : Faulty World) (s : Start) (p : Handler Unit)
    (launched : (machine d).program v s = some p) :
    Meets (Asks d s) (Returned s) [] p := by
  cases launched
  cases s with
  | request input =>
    exact meets_bind (requestProvisioning_asks input) fun _ _ _ => meets_pure trivial
  | runtimeCallback request =>
    exact meets_bind (runtimeCallback_asks request) fun _ _ _ => meets_pure trivial
  | progressCallback request =>
    exact meets_bind (progressCallback_asks request) fun _ _ _ => meets_pure trivial
  | delivery w request =>
    exact meets_bind processTenantProvisioningCompletion_asks fun _ _ _ => meets_pure trivial

end VantGrowth.Proofs.WorkflowAwaits
