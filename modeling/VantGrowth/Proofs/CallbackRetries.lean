import VantGrowth.Proofs.RuntimeCallbacks

namespace VantGrowth.Proofs.CallbackRetries
open Core Db Lib Lib.Prog Workflow WorkflowSteps WorkflowAwaits

/-- One POST of a callback with nothing else in between. -/
def send (d : Deployment) (request : SignedRequest) :
    Store WorkflowError (Faulty World) CallbackAccepted :=
  runAlone (exec d) (runtimeCallback d request)

/-- The writes of the route to the outbox. -/
inductive OutboxWrite where
  | progress | terminal

/-- Only that write of a POST meets the fault: two calls on the runs come
before the first write. -/
def OutboxWrite.faults (f : Fault) : OutboxWrite → List (Option Fault)
  | progress => [none, none, some f]
  | terminal => [none, none, none, some f]

section
variable (d : Deployment) (v : World) (request : SignedRequest) (f : Fault) (write : OutboxWrite)

/-- What a POST whose write failed leaves behind. -/
def interrupted : Faulty World := ((send d request).run ⟨v, write.faults f⟩).2

/-- Sent again, the callback is accepted and its terminal event is there. -/
def Recovers (p : TenantProvisioningRuntimeCallback) : Prop :=
  ∃ answer, ((send d request).run (interrupted d v request f write)).1 = .ok answer ∧
    ∃ e ∈ ((send d request).run (interrupted d v request f write)).2.state.outbox.events,
      Reports e.toEnqueueOutboxEvent p.tenantId p.workflowId (endOf p)

end

section
variable {d : Deployment} {p : TenantProvisioningRuntimeCallback} (valid : p.valid = true)
  {s : Faulty World}
include valid

theorem lookup_clear (clear : Store.Clear s) :
    (exec d (.getByWorkflowId p.tenantId p.workflowId)).run s =
      (.ok (s.state.runs.find p.tenantId p.workflowId), ⟨s.state, s.faults.tail⟩) := by
  have uuid := TenantProvisioningRuntimeCallback.valid_tenant valid
  refine (Store.faulty_clear clear).trans ?_
  cases hb : d.backend <;>
    simp [onRuns, Deployment.choose, hb, Store.run_bind, Store.zoom, Store.mapError,
      InMemoryWorkflowRunRepository.getByWorkflowId, PostgresWorkflowRunRepository.getByWorkflowId,
      uuid, Except.mapError]

theorem swap_clear (clear : Store.Clear s) {run : WorkflowRun}
    (found : s.state.runs.find p.tenantId p.workflowId = some run)
    (open_ : run.state.terminal = false) (toState : WorkflowRunState) (code : Option String) :
    ∃ next runs, next.state = toState ∧
      runs.find p.tenantId p.workflowId = some next ∧
      (exec d (.transitionState p.tenantId p.workflowId run.state toState code)).run s =
        (.ok (some next), ⟨{ s.state with runs }, s.faults.tail⟩) := by
  have uuid := TenantProvisioningRuntimeCallback.valid_tenant valid
  refine ⟨WorkflowRunStore.moved run toState code s.state.clock,
    ⟨s.state.runs.runs.set (WorkflowRunStore.key p.tenantId p.workflowId)
      (WorkflowRunStore.moved run toState code s.state.clock), s.state.runs.drawn⟩, rfl,
    by simp [WorkflowRunStore.find], ?_⟩
  refine (Store.faulty_clear clear).trans ?_
  have unfinished : run.state ≠ .completed ∧ run.state ≠ .failed := by
    constructor <;> intro ended <;> rw [ended] at open_ <;> cases open_
  have hit : (some run).filter (fun r => r.state == run.state && !r.state.terminal) = some run := by
    simp [open_]
  cases hb : d.backend <;>
    simp [onRuns, Deployment.choose, hb, Store.run_bind, Store.zoom, Store.mapError,
      InMemoryWorkflowRunRepository.transitionState, PostgresWorkflowRunRepository.transitionState,
      uuid, Except.mapError, found, hit, unfinished]

omit valid in
/-- A valid command that meets no fault is stored, and the runs stay as they
are. -/
theorem enqueue_clear (h : s.state.outbox.Consistent) (clear : Store.Clear s)
    {command : EnqueueOutboxEvent} (hv : command.valid = true) :
    ∃ event outbox, outbox.Consistent ∧ (exec d (.enqueue command)).run s =
      (.ok event, ⟨{ s.state with outbox }, s.faults.tail⟩) := by
  obtain ⟨⟨event, stored⟩, sent⟩ := InMemoryOutboxRepository.enqueue_sends h s.state.clock hv
  refine ⟨event, _, sent.consistent, ?_⟩
  refine (Store.faulty_clear clear).trans ?_
  simp [onOutbox, Store.run_bind, Store.zoom, Store.mapError, stored, Except.mapError]

end

/-- Every command the route builds for a valid callback passes the outbox's
schema. -/
theorem progress_built {p : TenantProvisioningRuntimeCallback} (valid : p.valid = true)
    (now : Instant) :
    ∃ c, createTenantProvisioningProgressOutboxCommand now p = .ok c ∧ c.valid = true := by
  have uuid := TenantProvisioningRuntimeCallback.valid_tenant valid
  have type : isOutboxEventType progressType = true := by decide
  refine ⟨_, if_pos valid, ?_⟩
  simp [EnqueueOutboxEvent.valid, uuid, type, Text.join_ne_empty]

theorem terminal_built {p : TenantProvisioningRuntimeCallback} (valid : p.valid = true)
    (now : Instant) : ∃ c, terminalCommand now p = .ok c := by
  unfold terminalCommand
  split
  · exact ⟨_, if_pos valid⟩
  · exact ⟨_, if_pos valid⟩

section
variable {d : Deployment} {request : SignedRequest} {p : TenantProvisioningRuntimeCallback}

/-- What the route does after its events are out. -/
def respond (p : TenantProvisioningRuntimeCallback) : Handler CallbackAccepted :=
  emitEvents p >>= fun event => pure (accepted p (callbackTypeToState p.callbackType) event)

/-- With a state store a POST is its compare-and-swap and then its events. -/
theorem send_run (stored : d.workflowRunRepository = true)
    (read : readCallback d request = .ok p) :
    send d request = runAlone (exec d) (recordTransition p) >>= fun _ =>
      runAlone (exec d) (respond p) := by
  have body : runtimeCallback d request = recordTransition p >>= fun _ => respond p := by
    unfold runtimeCallback
    rw [read]
    exact Eq.trans (b := if d.workflowRunRepository = true then
      recordTransition p >>= fun _ => respond p else checkTransition p >>= fun _ => respond p)
      rfl (if_pos stored)
  unfold send
  rw [body, Prog.runAlone_bind]

/-- A legal callback that meets no fault on its way moves its run. -/
theorem recordTransition_moves (valid : p.valid = true) {v : World} (fs : List (Option Fault))
    {run : WorkflowRun} (found : v.runs.find p.tenantId p.workflowId = some run)
    (legal : ∃ t, validateWorkflowTransition run.state (callbackTypeToState p.callbackType) = .ok t) :
    ∃ next runs, next.state = callbackTypeToState p.callbackType ∧
      runs.find p.tenantId p.workflowId = some next ∧
      (runAlone (exec d) (recordTransition p)).run ⟨v, none :: none :: fs⟩ =
        (.ok (), ⟨{ v with runs }, fs⟩) := by
  obtain ⟨next, runs, state, there, swapped⟩ := swap_clear (d := d) valid (s := ⟨v, none :: fs⟩) rfl
    found (transition_admitted legal) (callbackTypeToState p.callbackType) p.failureCode
  obtain ⟨t, admitted⟩ := legal
  refine ⟨next, runs, state, there, ?_⟩
  have looked := lookup_clear (d := d) valid (s := ⟨v, none :: none :: fs⟩) rfl
  rw [found] at looked
  have first : runAlone (exec d) (recordTransition p) =
      exec d (.getByWorkflowId p.tenantId p.workflowId) >>= fun r =>
        runAlone (exec d) (moveRun p ((r.map (·.state)).getD .requested)) := rfl
  have second : runAlone (exec d) (moveRun p run.state) =
      exec d (.transitionState p.tenantId p.workflowId run.state
        (callbackTypeToState p.callbackType) p.failureCode) >>= fun updated =>
        runAlone (exec d) (require (updated.isSome = true ∨
          run.state = callbackTypeToState p.callbackType)
          (concurrentTransition p run.state (callbackTypeToState p.callbackType))) := by
    unfold moveRun
    dsimp only
    rw [admitted]
    rfl
  rw [first, Store.run_bind, looked]
  dsimp only [Option.map_some, Option.getD_some, List.tail_cons]
  rw [second, Store.run_bind, swapped]
  rfl

/-- A callback for a run that has ended is refused and changes nothing. -/
theorem recordTransition_refuses (valid : p.valid = true) {v : World} {run : WorkflowRun}
    (found : v.runs.find p.tenantId p.workflowId = some run) (ended : run.state.terminal = true) :
    ∃ e, (runAlone (exec d) (recordTransition p)).run ⟨v, []⟩ = (.error e, ⟨v, []⟩) := by
  obtain ⟨e, refused⟩ := (transition_refused_iff run.state
    (callbackTypeToState p.callbackType)).mpr (Or.inl ended)
  have looked := lookup_clear (d := d) valid (s := ⟨v, []⟩) rfl
  rw [found] at looked
  have first : runAlone (exec d) (recordTransition p) =
      exec d (.getByWorkflowId p.tenantId p.workflowId) >>= fun r =>
        runAlone (exec d) (moveRun p ((r.map (·.state)).getD .requested)) := rfl
  refine ⟨illegalTransition p e, ?_⟩
  rw [first, Store.run_bind, looked]
  dsimp only [Option.map_some, Option.getD_some, List.tail_nil]
  unfold moveRun
  dsimp only
  rw [refused]
  rfl

theorem emit_run {build : Instant → Except DbError EnqueueOutboxEvent} {command : EnqueueOutboxEvent}
    {s : Faulty World} (built : build s.state.clock = .ok command) :
    (runAlone (exec d) (emit build)).run s = (exec d (.enqueue command)).run s := by
  have first : runAlone (exec d) (emit build) = exec d .now >>= fun now =>
      runAlone (exec d) (parsed (build now) >>= fun c => await (.enqueue c)) := rfl
  have now : (exec d .now).run s = (.ok s.state.clock, s) := rfl
  rw [first, Store.run_bind, now]
  dsimp only
  rw [built]
  have last : runAlone (exec d) (parsed (.ok command) >>= fun c => await (.enqueue c)) =
      exec d (.enqueue command) >>= fun event => pure event := rfl
  rw [last, Store.run_bind]
  rcases (exec d (.enqueue command)).run s with ⟨x, t⟩
  cases x <;> rfl

/-- The write that meets the fault is lost. -/
theorem emit_hit (build : Instant → Except DbError EnqueueOutboxEvent) (v : World) (f : Fault)
    (built : ∃ c, build v.clock = .ok c) (fs : List (Option Fault)) :
    ∃ outbox, (runAlone (exec d) (emit build)).run ⟨v, some f :: fs⟩ =
      (.error (.lost f.message), ⟨{ v with outbox }, fs⟩) := by
  obtain ⟨command, hc⟩ := built
  rw [emit_run hc]
  cases hw : f.written with
  | false =>
    refine ⟨v.outbox, Store.faulty_hit.trans ?_⟩
    simp [hw]
  | true =>
    refine ⟨((InMemoryOutboxRepository.enqueue v.clock command).run v.outbox).2,
      Store.faulty_hit.trans ?_⟩
    simp [hw, onOutbox, Store.run_bind, Store.zoom, Store.mapError]

/-- A fault at either write of the events ends the POST, with the runs as they
were. -/
theorem respond_interrupted (valid : p.valid = true) {v : World} (h : v.outbox.Consistent)
    (f : Fault) (write : OutboxWrite) :
    ∃ outbox, (runAlone (exec d) (respond p)).run ⟨v, (write.faults f).drop 2⟩ =
      (.error (.lost f.message), ⟨{ v with outbox }, []⟩) := by
  have parts : runAlone (exec d) (respond p) =
      runAlone (exec d) (emit fun now => createTenantProvisioningProgressOutboxCommand now p) >>=
        fun _ => runAlone (exec d) (emit fun now => terminalCommand now p) >>= fun event =>
          pure (accepted p (callbackTypeToState p.callbackType) event) := by
    refine (congrArg (runAlone (exec d)) (Prog.bind_assoc _ _ _)).trans ?_
    rw [Prog.runAlone_bind]
    exact congrArg _ (funext fun _ => Prog.runAlone_bind _ _ _)
  obtain ⟨command, built, commandValid⟩ := progress_built valid v.clock
  rw [parts, Store.run_bind]
  cases write with
  | progress =>
    obtain ⟨outbox, lost⟩ := emit_hit (d := d)
      (fun now => createTenantProvisioningProgressOutboxCommand now p) v f ⟨command, built⟩ []
    refine ⟨outbox, ?_⟩
    dsimp only [OutboxWrite.faults, List.drop]
    rw [lost]
  | terminal =>
    obtain ⟨event, outbox, consistent, stored⟩ := enqueue_clear (d := d)
      (s := ⟨v, [none, some f]⟩) h rfl commandValid
    obtain ⟨outbox', lost⟩ := emit_hit (d := d) (fun now => terminalCommand now p) { v with outbox } f
      (terminal_built valid v.clock) []
    refine ⟨outbox', ?_⟩
    dsimp only [OutboxWrite.faults, List.drop]
    rw [emit_run built, stored]
    dsimp only [List.tail_cons]
    rw [Store.run_bind, lost]

theorem read_valid (read : readCallback d request = .ok p) : p.valid = true := by
  unfold readCallback at read
  split at read
  · cases read
  · split at read
    · cases read
      exact TenantProvisioningRuntimeCallback.parse_valid ‹_›
    · cases read

/-- Whichever write fails, the run has ended, and no further sending of the
callback is accepted or changes anything. -/
theorem interrupted_for_good (stored : d.workflowRunRepository = true)
    (read : readCallback d request = .ok p) {v : World} (h : v.outbox.Consistent) {run : WorkflowRun}
    (found : v.runs.find p.tenantId p.workflowId = some run)
    (legal : ∃ t, validateWorkflowTransition run.state (callbackTypeToState p.callbackType) = .ok t)
    (terminal : (callbackTypeToState p.callbackType).terminal = true) (f : Fault)
    (write : OutboxWrite) :
    ∃ e, (send d request).run (interrupted d v request f write) =
      (.error e, interrupted d v request f write) := by
  have valid := read_valid read
  obtain ⟨next, runs, state, there, moved⟩ :=
    recordTransition_moves (d := d) valid ((write.faults f).drop 2) found legal
  obtain ⟨outbox, lost⟩ := respond_interrupted (d := d) valid (v := { v with runs }) h f write
  have faults : write.faults f = none :: none :: (write.faults f).drop 2 := by
    cases write <;> rfl
  have left : interrupted d v request f write = ⟨{ v with runs, outbox }, []⟩ := by
    unfold interrupted
    rw [send_run stored read, faults, Store.run_bind, moved]
    dsimp only
    rw [lost]
  obtain ⟨e, refused⟩ := recordTransition_refuses (d := d) valid (v := { v with runs, outbox }) there
    (state ▸ terminal)
  refine ⟨e, ?_⟩
  rw [left, send_run stored read, Store.run_bind, refused]

/-- A run whose terminal callback met a failing write of the outbox is left
terminal, and the callback can never be sent again: the second sending is
refused. -/
theorem callback_never_recovers (stored : d.workflowRunRepository = true)
    (read : readCallback d request = .ok p) {v : World} (h : v.outbox.Consistent) {run : WorkflowRun}
    (found : v.runs.find p.tenantId p.workflowId = some run)
    (legal : ∃ t, validateWorkflowTransition run.state (callbackTypeToState p.callbackType) = .ok t)
    (terminal : (callbackTypeToState p.callbackType).terminal = true) (f : Fault)
    (write : OutboxWrite) : ¬ Recovers d v request f write p := by
  rintro ⟨answer, again, _⟩
  obtain ⟨e, refused⟩ := interrupted_for_good stored read h found legal terminal f write
  rw [refused] at again
  cases again

end

open RuntimeCallbacks

/-- The write of the terminal event fails, and nothing of it is stored. -/
def outage : Fault := ⟨"connection refused", false⟩

def completion : TenantProvisioningRuntimeCallback where
  tenantId := acme
  workflowId := "wf-1"
  dedupeKey := "wf-1"
  tenantExternalId := "ten_01"
  tenantName := "Lattice"
  requestedBy := "founder"
  callbackId := "cb-1"
  callbackType := .completed

theorem completion_read : readCallback deployed (posted "completed") = .ok completion := by
  decide +kernel

/-- The run has completed, the second sending is refused and the terminal event
is missing. -/
theorem completion_lost :
    ¬ Recovers deployed requested.state (posted "completed") outage .terminal completion ∧
    ((interrupted deployed requested.state (posted "completed") outage .terminal).state.runs.find acme
      "wf-1").any (·.state == .completed) = true ∧
    ((send deployed (posted "completed")).run
      (interrupted deployed requested.state (posted "completed") outage
        .terminal)).2.state.outbox.events.all
          (fun e => reportedOutcome e.eventType == none) = true := by
  refine ⟨?_, by decide +kernel, by decide +kernel⟩
  have refused : ((send deployed (posted "completed")).run (interrupted deployed requested.state
      (posted "completed") outage .terminal)).1.toOption.isNone = true := by
    decide +kernel
  rintro ⟨answer, again, _⟩
  rw [again] at refused
  cases refused

/-- The same when the progress event is stored and its answer is lost. -/
theorem progress_answer_lost :
    ¬ Recovers deployed requested.state (posted "completed") ⟨"connection reset", true⟩ .progress
      completion :=
  callback_never_recovers rfl completion_read InMemoryOutboxRepository.empty_consistent
    (v := requested.state) rfl ⟨.completed, rfl⟩ rfl _ .progress

end VantGrowth.Proofs.CallbackRetries
