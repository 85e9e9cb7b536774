import VantGrowth.Proofs.RuntimeCallbacks

namespace VantGrowth.Proofs.ProvisioningOutcomes
open Core Db Lib Lib.Logs Workflow WorkflowSteps WorkflowAwaits RuntimeCallbacks

/-- The outbox and the run of a workflow do not contradict each other. -/
structure Agree (w : World) (tenantId workflowId : String) : Prop where
  single : ¬ ((∃ e ∈ w.outbox.events, Reports e.toEnqueueOutboxEvent tenantId workflowId .completed) ∧
    ∃ e ∈ w.outbox.events, Reports e.toEnqueueOutboxEvent tenantId workflowId .failed)
  final : ∀ run, w.runs.find tenantId workflowId = some run → run.state.terminal = true →
    ∀ e ∈ w.outbox.events, ∀ outcome, Reports e.toEnqueueOutboxEvent tenantId workflowId outcome →
      outcome = run.state

/-- Whatever tells how a workflow ended tells `outcome`. -/
structure Tells (w : World) (tenantId workflowId : String) (outcome : WorkflowRunState) : Prop where
  events : ∀ e ∈ w.outbox.events, ∀ o, Reports e.toEnqueueOutboxEvent tenantId workflowId o →
    o = outcome
  run : ∀ run, w.runs.find tenantId workflowId = some run → run.state.terminal = true →
    run.state = outcome

theorem Tells.agree {w : World} {tenantId workflowId : String} {outcome : WorkflowRunState}
    (h : Tells w tenantId workflowId outcome) : Agree w tenantId workflowId := by
  refine ⟨?_, ?_⟩
  · rintro ⟨⟨e, he, completed⟩, ⟨f, hf, failed⟩⟩
    have same := (h.events e he _ completed).trans (h.events f hf _ failed).symm
    cases same
  · intro run found terminal e he o reports
    exact (h.events e he o reports).trans (h.run run found terminal).symm

/-- A delivery that puts a terminal event to the outbox was given this outcome
by the external systems. -/
def GivenOutcome (outcome : WorkflowRunState) (a : Log) : Entry → Bool
  | .did (.worker i (.delivery worker request)) (.enqueue command) _ =>
    reportedOutcome command.eventType == none ||
      externalOutcome worker request (Machine.history i a) == outcome
  | _ => true

section
variable {d : Deployment} {w : Faulty World} {request : TenantProvisioningWorkflowInput}
  {outcome : WorkflowRunState}

/-- Only deliveries of one request are handled. -/
def Delivers (request : TenantProvisioningWorkflowInput) (log : Log) : Prop :=
  ∀ i s, .spawned i s ∈ log → ∃ worker, s = .delivery worker request

/-- What a delivery reports is the outcome all deliveries were given. -/
theorem reports_outcome {a b : Log} {i : Nat} {worker : WorkflowCallbackWorker}
    {command : EnqueueOutboxEvent} {r : Except WorkflowError StoredOutboxEvent}
    (valid : Explained d w
      (a ++ .did (.worker i (.delivery worker request)) (.enqueue command) r :: b))
    (given : Each (fun a e => GivenOutcome outcome a e = true)
      (a ++ .did (.worker i (.delivery worker request)) (.enqueue command) r :: b))
    {o : WorkflowRunState} (told : reportedOutcome command.eventType = some o) : o = outcome := by
  have now : externalOutcome worker request (Machine.history i a) = outcome := by
    simpa [GivenOutcome, told] using given.at
  obtain ⟨_, silent | reports⟩ := valid.worked a b i _ (.enqueue command) r rfl
  · rw [silent] at told
    cases told
  · exact Option.some.inj (told.symm.trans (reports.outcome.trans (congrArg some now)))

/-- Who performs an operation on the runs or the outbox is a delivery. -/
theorem performed_by_delivery {a : Log} {actor : Machine.Actor Start} {op : Op}
    {r : Except WorkflowError (Res op)} (valid : Explained d w (a ++ [.did actor op r]))
    (only : Delivers request (a ++ [.did actor op r])) (inside : (machine d).outside op = false) :
    ∃ i worker, actor = .worker i (.delivery worker request) ∧
      .spawned i (.delivery worker request) ∈ a := by
  cases actor with
  | outside =>
    rw [valid.outside a [] op r rfl] at inside
    cases inside
  | settled i s =>
    obtain ⟨_, none_, _⟩ := valid.settled a [] i s op r rfl
    cases none_
  | worker i s =>
    obtain ⟨spawned, _⟩ := valid.worked a [] i s op r rfl
    obtain ⟨worker, rfl⟩ := only i s (List.mem_append_left _ spawned)
    exact ⟨i, worker, rfl, spawned⟩

theorem tells_step (h : w.state.outbox.Consistent) {a : Log} {actor : Machine.Actor Start} {op : Op}
    {r : Except WorkflowError (Res op)} (valid : Explained d w (a ++ [.did actor op r]))
    (only : Delivers request (a ++ [.did actor op r]))
    (given : Each (fun a e => GivenOutcome outcome a e = true) (a ++ [.did actor op r]))
    (before : Tells (after d w a).state request.tenantId request.workflowId outcome) :
    Tells (after d w (a ++ [.did actor op r])).state request.tenantId request.workflowId outcome := by
  have step := exec_step d (consistent_after (d := d) h a) op
  rw [after_snoc]
  refine ⟨?_, ?_⟩
  · intro e he o reports
    rcases step.events e he with ⟨old, member, same⟩ | put
    · exact before.events old member o (same ▸ reports)
    · cases op with
      | enqueue command =>
        cases Option.some.inj put
        obtain ⟨i, worker, rfl, _⟩ := performed_by_delivery valid only rfl
        exact reports_outcome valid given reports.outcome
      | report command =>
        cases Option.some.inj put
        obtain ⟨i, worker, rfl, _⟩ := performed_by_delivery valid only rfl
        have silent : Silent e.toEnqueueOutboxEvent := (valid.worked a [] i _ (.report _) r rfl).2
        have told := reports.outcome
        rw [silent] at told
        cases told
      | _ => cases put
  · intro run found terminal
    rcases step.ended _ run found terminal with old | ⟨tenantId, workflowId, fromState, code, rfl, _⟩
    · exact before.run run old terminal
    · obtain ⟨i, worker, rfl, spawned⟩ := performed_by_delivery valid only rfl
      obtain ⟨_, still | ⟨answers, command, event, history, told⟩⟩ :=
        valid.worked a [] i _ (.transitionState tenantId workflowId fromState run.state code) r rfl
      · rw [terminal] at still
        cases still
      · obtain ⟨a₁, b₁, rfl, _⟩ := valid.init_.answer_at spawned history
        exact reports_outcome valid.init_ given.init told

theorem tells_after (h : w.state.outbox.Consistent) {log : Log} (valid : Explained d w log)
    (only : Delivers request log) (given : Each (fun a e => GivenOutcome outcome a e = true) log)
    (start : Tells w.state request.tenantId request.workflowId outcome) :
    Tells (after d w log).state request.tenantId request.workflowId outcome := by
  revert only given
  refine Machine.Valid.rec_ (J := fun log => Delivers request log →
    Each (fun a e => GivenOutcome outcome a e = true) log →
    Tells (after d w log).state request.tenantId request.workflowId outcome)
    (fun _ _ => start) (fun a e valid ih only given => ?_) valid
  have before := ih (fun i s hs => only i s (List.mem_append_left _ hs)) given.init
  cases e with
  | spawned i s =>
    have same : after d w (a ++ [.spawned i s]) = after d w a := Machine.replay_snoc _ _ _ _
    exact same ▸ before
  | did actor op r => exact tells_step h valid only given before

/-- Where all deliveries of a request that come to report an outcome were given
the same one, the outbox and the run agree, whatever the interleaving and
wherever deliveries crash. -/
theorem terminal_events_agree (h : w.state.outbox.Consistent)
    (request : TenantProvisioningWorkflowInput) (outcome : WorkflowRunState)
    (silent : ∀ e ∈ w.state.outbox.events, ∀ o,
      ¬ Reports e.toEnqueueOutboxEvent request.tenantId request.workflowId o)
    (unfinished : ∀ run, w.state.runs.find request.tenantId request.workflowId = some run →
      run.state.terminal = false)
    (labels : List (Machine.Label Op Start))
    (deliveries : ∀ s, .spawn s ∈ labels → ∃ worker, s = .delivery worker request)
    (given : Each (fun a e => GivenOutcome outcome a e = true)
      (runs (machine d).step (Machine.initial w) labels).log) :
    Agree (runs (machine d).step (Machine.initial w) labels).state.state request.tenantId
      request.workflowId := by
  obtain ⟨valid, state⟩ := Machine.runs_valid (m := machine d) (P := Asks d) (Q := Returned)
    specified labels
  have only : Delivers request (runs (machine d).step (Machine.initial w) labels).log := by
    intro i s spawned
    exact deliveries s ((Machine.spawned_labelled spawned).resolve_left List.not_mem_nil)
  rw [state]
  refine (tells_after h valid only given ⟨fun e he o reports => ?_, fun run found ended => ?_⟩).agree
  · exact absurd reports (silent e he o)
  · rw [unfinished run found] at ended
    cases ended

end

def provisioning : TenantProvisioningWorkflowInput where
  tenantId := acme
  workflowId := "wf-1"
  dedupeKey := "wf-1"
  tenantExternalId := "ten_01"
  tenantName := "Lattice"
  requestedBy := "founder"

def verifying : WorkflowCallbackWorker := ⟨false, true⟩

def runtimeAt (state : WorkflowRunState) : TenantProvisioningRuntimeState where
  workflowId := "wf-1"
  tenantId := acme
  state := state

/-- Two deliveries pass the check of the run. The runtime tells the first that
the workflow failed and the second, after a retry of its own, that it
completed. -/
def crossed : List (Machine.Label Op Start) :=
  [.spawn (.delivery verifying provisioning), .spawn (.delivery verifying provisioning),
    .outside (.prepare [] [some (runtimeAt .failed), some (runtimeAt .completed)])] ++
    turns 0 1 ++ turns 1 1 ++ turns 0 5 ++ turns 1 5

def reported (v : World) (outcome : WorkflowRunState) : Bool :=
  v.outbox.events.any fun e => e.tenantId == acme &&
    e.payload.text "workflow_id" == some "wf-1" && reportedOutcome e.eventType == some outcome

theorem reported_event {v : World} {outcome : WorkflowRunState} (h : reported v outcome = true) :
    ∃ e ∈ v.outbox.events, Reports e.toEnqueueOutboxEvent acme "wf-1" outcome := by
  obtain ⟨e, member, told⟩ := List.any_eq_true.mp h
  simp only [Bool.and_eq_true, beq_iff_eq] at told
  exact ⟨e, member, told.1.1, told.1.2, told.2⟩

theorem crossed_contradicts :
    ¬ Agree (runs (machine deployed).step (Machine.initial requested) crossed).state.state acme
      "wf-1" := by
  intro h
  exact h.single ⟨reported_event (by decide), reported_event (by decide)⟩

/-- The first delivery crashes after its event and before it moved the run, and
the message is delivered again. -/
def redelivered : List (Machine.Label Op Start) :=
  [.outside (.prepare [] [some (runtimeAt .completed), some (runtimeAt .completed)]),
    .spawn (.delivery verifying provisioning)] ++ turns 0 5 ++
    [.spawn (.delivery verifying provisioning)] ++ turns 1 6

theorem redelivered_agrees :
    reported (runs (machine deployed).step (Machine.initial requested) redelivered).state.state
      .completed = true ∧
    Agree (runs (machine deployed).step (Machine.initial requested) redelivered).state.state acme
      "wf-1" := by
  refine ⟨by decide, ?_⟩
  refine terminal_events_agree InMemoryOutboxRepository.empty_consistent provisioning .completed
    ?_ ?_ redelivered ?_ (by decide)
  · intro e member
    cases member
  · rintro run ⟨⟩
    rfl
  · intro s spawned
    simp only [redelivered, turns, List.mem_append, List.mem_cons, List.not_mem_nil,
      List.mem_replicate, reduceCtorEq, and_false, or_false, false_or, Machine.Label.spawn.injEq,
      or_self] at spawned
    exact ⟨verifying, spawned⟩

end VantGrowth.Proofs.ProvisioningOutcomes
