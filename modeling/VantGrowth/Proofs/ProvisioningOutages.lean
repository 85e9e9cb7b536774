import VantGrowth.Proofs.ProvisioningOutcomes

namespace VantGrowth.Proofs.ProvisioningOutages
open Core Db Lib Lib.Logs Lib.Prog Workflow WorkflowSteps WorkflowAwaits RuntimeCallbacks
open ProvisioningOutcomes (provisioning reported reported_event)

/-- No run failed, and no event says that one did. -/
structure NoneFailed (w : World) : Prop where
  events : ∀ e ∈ w.outbox.events, reportedOutcome e.eventType ≠ some .failed
  runs : ∀ k run, w.runs.runs.get k = some run → run.state ≠ .failed

/-- Tenants are provisioned on the direct path only. -/
def Direct : Start → Prop
  | .request _ => True
  | .delivery worker _ => worker.provisioningClients = true
  | _ => False

/-- The external systems answer every call. -/
def ClientsSucceed (_ : Log) : Entry → Bool
  | .did _ (.external _ _) (.ok (.error _)) => false
  | _ => true

def progressLost : (op : Op) → Except WorkflowError (Res op) → Bool
  | .report _, .ok (.error _) => true
  | _, _ => false

/-- A delivery is of a tenant whose name the orchestrator takes, and its
progress events are written. -/
def ProgressWritten (_ : Log) : Entry → Bool
  | .did (.worker _ (.delivery _ request)) op r =>
    jsLength request.tenantName ≤ 128 && !progressLost op r
  | _ => true

/-- Only valid requests get as far as an await. -/
def Checked : Start → Answers → Op → Prop
  | .delivery _ request, _, _ => request.valid = true
  | _, _, _ => True

theorem checked {d : Deployment} (v : Faulty World) (s : Start) (p : Handler Unit)
    (launched : (machine d).program v s = some p) : Meets (Checked s) (Returned s) [] p := by
  cases launched
  cases s with
  | delivery w request =>
    refine meets_bind (Q := fun _ _ => True) (meets_require_bind fun valid => ?_)
      fun _ _ _ => meets_pure trivial
    exact meets_ops (meets_trivial [] _) fun _ _ _ => valid
  | request input => exact meets_anything (fun _ _ => trivial) _
  | runtimeCallback request => exact meets_anything (fun _ _ => trivial) _
  | progressCallback request => exact meets_anything (fun _ _ => trivial) _

section
variable {d : Deployment} {w : Faulty World} {log : Log} {i : Nat} {worker : WorkflowCallbackWorker}
  {request : TenantProvisioningWorkflowInput}

/-- None of the answers a delivery got ends its attempt. -/
theorem attempt_clean (succeed : Each (fun a e => ClientsSucceed a e = true) log)
    (written : Each (fun a e => ProgressWritten a e = true) log)
    (own : ∀ s op r, .did (.worker i s) op r ∈ log → s = Start.delivery worker request) :
    (Machine.history i log).any failedAttempt = false := by
  refine List.any_eq_false.mpr fun x member failed => ?_
  obtain ⟨s, there⟩ := Machine.mem_history member
  obtain rfl := own s _ _ there
  obtain ⟨a, b, rfl⟩ := List.append_of_mem there
  have answered := succeed.at
  have stored := written.at
  obtain ⟨op, answer⟩ := x
  cases op with
  | external call tenantId =>
    cases answer with
    | error message => cases answered
    | ok isNew => cases failed
  | report command =>
    cases answer with
    | error e => simp [ProgressWritten, progressLost] at stored
    | ok event => cases failed
  | _ => cases failed

/-- What a delivery reports, if it reports how its workflow ended, is that it
completed. -/
theorem reports_completed {a b : Log} {command : EnqueueOutboxEvent}
    {r : Except WorkflowError StoredOutboxEvent}
    (valid : Explained d w
      (a ++ .did (.worker i (.delivery worker request)) (.enqueue command) r :: b))
    (sound : Machine.Valid (machine d) Checked Returned w
      (a ++ .did (.worker i (.delivery worker request)) (.enqueue command) r :: b))
    (direct : worker.provisioningClients = true)
    (succeed : Each (fun a e => ClientsSucceed a e = true)
      (a ++ .did (.worker i (.delivery worker request)) (.enqueue command) r :: b))
    (written : Each (fun a e => ProgressWritten a e = true)
      (a ++ .did (.worker i (.delivery worker request)) (.enqueue command) r :: b))
    {o : WorkflowRunState} (told : reportedOutcome command.eventType = some o) : o = .completed := by
  obtain ⟨spawned, silent | reports⟩ := valid.worked a b i _ (.enqueue command) r rfl
  · rw [silent] at told
    cases told
  · have own : ∀ s op r, .did (.worker i s) op r ∈ a → s = Start.delivery worker request := by
      intro s op r there
      obtain ⟨x, y, rfl⟩ := List.append_of_mem there
      obtain ⟨started, _⟩ := valid.init_.worked x y i s op r rfl
      exact valid.init_.once i s _ (List.mem_append_left _ started) spawned
    have clean := attempt_clean succeed.init written.init own
    have accepted : acceptsInput request = true := by
      have valid' : request.valid = true := (sound.worked a b i _ (.enqueue command) r rfl).2
      have named := written.at
      simp only [ProgressWritten, Bool.and_eq_true, decide_eq_true_eq] at named
      simp [acceptsInput, valid', named.1]
    have outcome : externalOutcome worker request (Machine.history i a) = .completed := by
      simp [externalOutcome, direct, accepted, clean]
    exact Option.some.inj (told.symm.trans (reports.outcome.trans (congrArg some outcome)))

/-- Only direct deliveries and requests are handled. -/
def Served (log : Log) : Prop := ∀ i s, .spawned i s ∈ log → Direct s

/-- Who performs an operation on the runs or the outbox is a request or a direct
delivery. -/
theorem performed {a : Log} {actor : Machine.Actor Start} {op : Op} {r : Except WorkflowError (Res op)}
    (valid : Explained d w (a ++ [.did actor op r])) (served : Served (a ++ [.did actor op r]))
    (inside : (machine d).outside op = false) :
    ∃ i s, actor = .worker i s ∧ Direct s ∧ .spawned i s ∈ a ∧ Asks d s (Machine.history i a) op := by
  cases actor with
  | outside =>
    rw [valid.outside a [] op r rfl] at inside
    cases inside
  | settled i s =>
    obtain ⟨_, none_, _⟩ := valid.settled a [] i s op r rfl
    cases none_
  | worker i s =>
    obtain ⟨spawned, asks⟩ := valid.worked a [] i s op r rfl
    exact ⟨i, s, rfl, served i s (List.mem_append_left _ spawned), spawned, asks⟩

section
variable (h : w.state.outbox.Consistent) {a : Log} {actor : Machine.Actor Start} {op : Op}
  {r : Except WorkflowError (Res op)} (valid : Explained d w (a ++ [.did actor op r]))
  (sound : Machine.Valid (machine d) Checked Returned w (a ++ [.did actor op r]))
  (served : Served (a ++ [.did actor op r]))
  (succeed : Each (fun a e => ClientsSucceed a e = true) (a ++ [.did actor op r]))
  (written : Each (fun a e => ProgressWritten a e = true) (a ++ [.did actor op r]))
include valid sound served succeed written

/-- What is put to the outbox tells of no failure. -/
theorem put_completed {command : EnqueueOutboxEvent} (put : commandOf op = some command)
    {o : WorkflowRunState} (told : reportedOutcome command.eventType = some o) : o = .completed := by
  have inside : (machine d).outside op = false := by cases op <;> first | rfl | cases put
  obtain ⟨i, s, rfl, direct, _, asks⟩ := performed valid served inside
  have silent : Silent command → o = .completed := by
    intro quiet
    rw [quiet] at told
    cases told
  cases s with
  | runtimeCallback request => cases direct
  | progressCallback request => cases direct
  | request input =>
    cases op with
    | enqueue other =>
      cases put
      exact silent asks
    | report other =>
      cases put
      exact silent asks
    | _ => cases put
  | delivery worker request =>
    cases op with
    | enqueue other =>
      cases put
      exact reports_completed valid sound direct succeed written told
    | report other =>
      cases put
      exact silent asks
    | _ => cases put

omit h in
/-- A run that ends is moved to completed. -/
theorem moved_completed {tenantId workflowId : String} {fromState toState : WorkflowRunState}
    {code : Option String} (asked : op = .transitionState tenantId workflowId fromState toState code)
    (ended : toState.terminal = true) : toState = .completed := by
  subst asked
  obtain ⟨i, s, rfl, direct, spawned, asks⟩ := performed valid served rfl
  cases s with
  | runtimeCallback request => cases direct
  | progressCallback request => cases direct
  | request input => cases asks
  | delivery worker request =>
    rcases asks with still | ⟨answers, command, event, history, told⟩
    · rw [ended] at still
      cases still
    · obtain ⟨x, y, rfl, _⟩ := valid.init_.answer_at spawned history
      exact reports_completed valid.init_ sound.init_ direct succeed.init written.init told

include h in
theorem none_failed_step (before : NoneFailed (after d w a).state) :
    NoneFailed (after d w (a ++ [.did actor op r])).state := by
  have step := exec_step d (consistent_after (d := d) h a) op
  rw [after_snoc]
  refine ⟨fun e member failed => ?_, fun k run found failed => ?_⟩
  · rcases step.events e member with ⟨old, stored, same⟩ | put
    · exact before.events old stored (same ▸ failed)
    · cases put_completed valid sound served succeed written put failed
  · rcases step.ended k run found (by rw [failed]; rfl) with
      old | ⟨tenantId, workflowId, fromState, code, asked, _⟩
    · exact before.runs k run old failed
    · have completed := moved_completed valid sound served succeed written asked (by rw [failed]; rfl)
      rw [failed] at completed
      cases completed

end

theorem none_failed_after (h : w.state.outbox.Consistent) {log : Log} (valid : Explained d w log)
    (sound : Machine.Valid (machine d) Checked Returned w log) (served : Served log)
    (succeed : Each (fun a e => ClientsSucceed a e = true) log)
    (written : Each (fun a e => ProgressWritten a e = true) log) (start : NoneFailed w.state) :
    NoneFailed (after d w log).state := by
  revert sound served succeed written
  refine Machine.Valid.rec_ (J := fun log => Machine.Valid (machine d) Checked Returned w log →
    Served log → Each (fun a e => ClientsSucceed a e = true) log →
    Each (fun a e => ProgressWritten a e = true) log → NoneFailed (after d w log).state)
    (fun _ _ _ _ => start) (fun a e valid ih sound served succeed written => ?_) valid
  have before := ih sound.init_ (fun i s there => served i s (List.mem_append_left _ there))
    succeed.init written.init
  cases e with
  | spawned i s =>
    have same : after d w (a ++ [.spawned i s]) = after d w a := Machine.replay_snoc _ _ _ _
    exact same ▸ before
  | did actor op r => exact none_failed_step h valid sound served succeed written before

end

/-- However requests and deliveries interleave, crash and are repeated, and
whichever other writes are lost, no provisioning fails while the external
systems answer, names fit the orchestrator and progress events are written. -/
theorem outage_never_fails (d : Deployment) (w : Faulty World) (h : w.state.outbox.Consistent)
    (start : NoneFailed w.state) (labels : List (Machine.Label Op Start))
    (direct : ∀ s, .spawn s ∈ labels → Direct s)
    (succeed : Each (fun a e => ClientsSucceed a e = true)
      (runs (machine d).step (Machine.initial w) labels).log)
    (written : Each (fun a e => ProgressWritten a e = true)
      (runs (machine d).step (Machine.initial w) labels).log) :
    NoneFailed (runs (machine d).step (Machine.initial w) labels).state.state := by
  obtain ⟨valid, state⟩ := Machine.runs_valid (m := machine d) (P := Asks d) (Q := Returned)
    specified labels
  obtain ⟨sound, _⟩ := Machine.runs_valid (m := machine d) (P := Checked) (Q := Returned)
    checked labels
  have served : Served (runs (machine d).step (Machine.initial w) labels).log := fun i s spawned =>
    direct s ((Machine.spawned_labelled spawned).resolve_left List.not_mem_nil)
  rw [state]
  exact none_failed_after h valid sound served succeed written start

def provisioner : WorkflowCallbackWorker := ⟨true, false⟩

def refusedConnection : Option Fault := some ⟨"connection refused", false⟩

/-- The first delivery loses the write that opens its run; the message is
delivered again. -/
def reopened : List (Machine.Label Op Start) :=
  [.outside (.disturb [none, refusedConnection]), .spawn (.delivery provisioner provisioning)] ++
    turns 0 2 ++ [.spawn (.delivery provisioner provisioning)] ++ turns 1 6

theorem spawned_provisioner {labels : List (Machine.Label Op Start)}
    (only : (labels.all fun l => match l with
      | .spawn s => s == .delivery provisioner provisioning
      | _ => true) = true) : ∀ s, .spawn s ∈ labels → Direct s := by
  intro s member
  obtain rfl : s = .delivery provisioner provisioning := by
    simpa using List.all_eq_true.mp only _ member
  rfl

theorem requested_none_failed : NoneFailed requested.state := by
  refine ⟨by rintro e ⟨⟩, fun k run found => ?_⟩
  simp only [requested, InsertionMap.get_set] at found
  split at found
  · cases found
    decide
  · cases found

theorem reopened_not_failed :
    NoneFailed (runs (machine deployed).step (Machine.initial requested) reopened).state.state :=
  outage_never_fails deployed requested InMemoryOutboxRepository.empty_consistent
    requested_none_failed reopened (spawned_provisioner (by decide)) (by decide)
    (by decide)

/-- The first progress event is lost. -/
def progressRefused : List (Machine.Label Op Start) :=
  [.outside (.disturb [none, none, refusedConnection]),
    .spawn (.delivery provisioner provisioning)] ++ turns 0 7

theorem lost_progress_fails :
    ¬ ∀ labels : List (Machine.Label Op Start), (∀ s, .spawn s ∈ labels → Direct s) →
      Each (fun a e => ClientsSucceed a e = true)
        (runs (machine deployed).step (Machine.initial requested) labels).log →
      NoneFailed (runs (machine deployed).step (Machine.initial requested) labels).state.state := by
  intro claim
  have none_ := claim progressRefused (spawned_provisioner (by decide)) (by decide)
  have told : reported (runs (machine deployed).step (Machine.initial requested)
      progressRefused).state.state .failed = true := by decide
  obtain ⟨e, stored, reports⟩ := reported_event told
  exact none_.events e stored reports.outcome

end VantGrowth.Proofs.ProvisioningOutages
