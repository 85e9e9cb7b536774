import VantGrowth.Lib.Runs
import VantGrowth.Proofs.ProposalLifecycle
import VantGrowth.Proofs.WorkflowAwaits

namespace VantGrowth.Proofs.RuntimeCallbacks
open Core Db Lib Lib.Logs Lib.Prog Workflow WorkflowSteps WorkflowAwaits
open ProposalLifecycle (countedUuids)

abbrev Entry := Machine.Entry Res WorkflowError Start

abbrev Log := List Entry

/-- A log the routes and workers can produce from `w`. -/
abbrev Explained (d : Deployment) (w : Faulty World) (log : Log) : Prop :=
  Machine.Valid (machine d) (Asks d) Returned w log

/-- The world a log leads to. -/
abbrev after (d : Deployment) (w : Faulty World) (log : Log) : Faulty World :=
  (machine d).replay w log

section
variable {d : Deployment} {w : Faulty World}

theorem after_snoc (a : Log) (actor : Machine.Actor Start) (op : Op)
    (r : Except WorkflowError (Res op)) :
    after d w (a ++ [.did actor op r]) = ((exec d op).run (after d w a)).2 :=
  Machine.replay_snoc _ _ _ _

theorem consistent_after (h : w.state.outbox.Consistent) (log : Log) :
    (after d w log).state.outbox.Consistent :=
  Machine.replay_invariant (m := machine d)
    (I := fun s : Faulty World => s.state.outbox.Consistent)
    (fun _ op hs => (exec_step d hs op).consistent) h log

/-- A run that is terminal stays as it is. -/
theorem finished_after (h : w.state.outbox.Consistent) (a b : Log) {k : String} {run : WorkflowRun}
    (found : (after d w a).state.runs.runs.get k = some run) (terminal : run.state.terminal = true) :
    (after d w (a ++ b)).state.runs.runs.get k = some run := by
  rw [after, Machine.replay_append]
  have related := Machine.replay_related (m := machine d)
    (I := fun s : Faulty World => s.state.outbox.Consistent) (R := fun s t : Faulty World => ∀ k r, s.state.runs.runs.get k = some r → r.state.terminal = true →
      t.state.runs.runs.get k = some r)
    (fun _ _ _ found _ => found)
    (fun _ _ _ first second k r found terminal => second k r (first k r found terminal) terminal)
    (fun _ op hs => (exec_step d hs op).consistent) (fun _ op hs => (exec_step d hs op).finished)
    (consistent_after (d := d) h a) b
  exact related k run found terminal

/-- Where a worker got one of its answers. -/
theorem answered_at {log : Log} (valid : Explained d w log) {i : Nat} {s : Start}
    (spawned : .spawned i s ∈ log) {x : Did Res} (member : x ∈ Machine.history i log) :
    ∃ a b, log = a ++ .did (.worker i s) x.op (.ok x.answer) :: b := by
  obtain ⟨before, later, split⟩ := List.append_of_mem member
  obtain ⟨a, b, rfl, _⟩ := valid.answer_at spawned split
  exact ⟨a, b, rfl⟩

/-- What a lookup answers is the run it finds. -/
theorem lookup_answer {s : Faulty World} {tenantId workflowId : String} {r : Option WorkflowRun}
    (answered : ((exec d (.getByWorkflowId tenantId workflowId)).run s).1 = .ok r) :
    r = s.state.runs.find tenantId workflowId := by
  have ends : (exec d (.getByWorkflowId tenantId workflowId)).Ends s _ :=
    remote_ends (onRuns_ends (lookup_ends d tenantId workflowId s.state.runs))
  rcases ends with ⟨y, ⟨_, found⟩, hx, _⟩ | ⟨⟨f, hx⟩, _⟩
  · rw [answered] at hx
    exact found r (mapError_ok hx)
  · rw [answered] at hx
    cases hx

/-- The route puts an event to the outbox that reports how a workflow ended. -/
def RouteReports (tenantId workflowId : String) (outcome : WorkflowRunState) (e : Entry) : Prop :=
  ∃ i request command r, e = .did (.worker i (.runtimeCallback request)) (.enqueue command) r ∧
    Reports command tenantId workflowId outcome

/-- The terminal events of the route are true when it emits them, and no
workflow gets two. -/
structure TrueEnds (d : Deployment) (w : Faulty World) (log : Log) : Prop where
  stored : ∀ a b e tenantId workflowId outcome, log = a ++ e :: b →
    RouteReports tenantId workflowId outcome e →
    ∃ run, (after d w a).state.runs.find tenantId workflowId = some run ∧ run.state = outcome
  once : ∀ a b e a' b' e' tenantId workflowId outcome outcome', log = a ++ e :: b →
    log = a' ++ e' :: b' → RouteReports tenantId workflowId outcome e →
    RouteReports tenantId workflowId outcome' e' → a = a'

/-- A handler of a progress callback takes its step while no run of its
workflow is stored that could still end. -/
def NoProgressMeetsOpenRun (d : Deployment) (w : Faulty World) (a : Log) : Entry → Bool
  | .did (.worker _ (.runtimeCallback request)) _ _ =>
    match readCallback d request with
    | .ok p => p.callbackType != .progress ||
        ((after d w a).state.runs.find p.tenantId p.workflowId).all (·.state.terminal)
    | .error _ => true
  | _ => true

theorem settled_of_progress {a : Log} {i : Nat} {request : SignedRequest}
    {p : TenantProvisioningRuntimeCallback} {op : Op} {r : Except WorkflowError (Res op)}
    (held : NoProgressMeetsOpenRun d w a (.did (.worker i (.runtimeCallback request)) op r) = true)
    (read : readCallback d request = .ok p) (progress : p.callbackType = .progress)
    {run : WorkflowRun} (found : (after d w a).state.runs.find p.tenantId p.workflowId = some run) :
    run.state.terminal = true := by
  simpa [NoProgressMeetsOpenRun, read, progress, found] using held

/-- A licensed callback moved its run to the end it reports, from a state that
was none. -/
theorem licensed_moves {log : Log} (valid : Explained d w log)
    (each : Each (fun a e => NoProgressMeetsOpenRun d w a e = true) log) {i : Nat}
    {request : SignedRequest} {p : TenantProvisioningRuntimeCallback}
    (read : readCallback d request = .ok p) (spawned : .spawned i (.runtimeCallback request) ∈ log)
    (licensed : Licensed p (Machine.history i log)) :
    ∃ a b op r run next, log = a ++ .did (.worker i (.runtimeCallback request)) op r :: b ∧
      (after d w a).state.runs.find p.tenantId p.workflowId = some run ∧
      run.state.terminal = false ∧
      (after d w (a ++ [.did (.worker i (.runtimeCallback request)) op r])).state.runs.find
        p.tenantId p.workflowId = some next ∧ next.state = endOf p := by
  obtain ⟨looked, prior, updated, lookup, hp, unfinished, swap, passed⟩ := licensed
  obtain ⟨a, b, rfl⟩ := answered_at valid spawned lookup
  have found := lookup_answer (valid.answered a b _ _ _ rfl).symm
  have lookedAt := each.at
  obtain ⟨a', b', split⟩ := answered_at valid spawned swap
  rw [split] at valid each ⊢
  have swappedAt := each.at
  have updated_some : updated.isSome = true → ∃ run next,
      (after d w a').state.runs.find p.tenantId p.workflowId = some run ∧
      run.state.terminal = false ∧ next.state = callbackTypeToState p.callbackType ∧
      (after d w (a' ++ [.did (.worker i (.runtimeCallback request)) (.transitionState p.tenantId
        p.workflowId prior (callbackTypeToState p.callbackType) p.failureCode)
        (.ok updated)])).state.runs.find p.tenantId p.workflowId = some next := by
    intro some_
    obtain ⟨u, rfl⟩ := Option.isSome_iff_exists.mp some_
    obtain ⟨run, next, there, _, open_, state, written⟩ :=
      swap_answer d (valid.answered a' b' _ _ _ rfl).symm
    refine ⟨run, next, there, open_, state, ?_⟩
    rw [after_snoc]
    simp only [WorkflowRunStore.find, written, InsertionMap.get_set_self]
  have notProgress : p.callbackType ≠ .progress := by
    intro progress
    have absent : looked = none := by
      cases looked with
      | none => rfl
      | some run =>
        rw [hp, Option.map_some, Option.getD_some] at unfinished
        rw [settled_of_progress lookedAt read progress found.symm] at unfinished
        cases unfinished
    subst absent
    rcases passed with moved | same
    · obtain ⟨run, _, there, open_, _⟩ := updated_some moved
      rw [settled_of_progress swappedAt read progress there] at open_
      cases open_
    · rw [hp, progress] at same
      cases same
  have target : callbackTypeToState p.callbackType = endOf p := by
    unfold endOf
    cases ht : p.callbackType with
    | progress => exact absurd ht notProgress
    | completed => rfl
    | failed => rfl
  have moved : updated.isSome = true := by
    refine passed.resolve_right fun same => ?_
    rw [same, target] at unfinished
    unfold endOf at unfinished
    split at unfinished <;> cases unfinished
  obtain ⟨run, next, there, open_, state, written⟩ := updated_some moved
  exact ⟨a', b', _, _, run, next, rfl, there, open_, written, state.trans target⟩

/-- What a terminal event of the route says of the log before it. -/
theorem report_moves (stored : d.workflowRunRepository = true) {a b : Log} {i : Nat} {request : SignedRequest} {command : EnqueueOutboxEvent}
    {r : Except WorkflowError StoredOutboxEvent} {tenantId workflowId : String}
    {outcome : WorkflowRunState}
    (valid : Explained d w (a ++ .did (.worker i (.runtimeCallback request)) (.enqueue command) r :: b))
    (each : Each (fun a e => NoProgressMeetsOpenRun d w a e = true)
      (a ++ .did (.worker i (.runtimeCallback request)) (.enqueue command) r :: b))
    (reports : Reports command tenantId workflowId outcome) :
    NoneReported (Machine.history i a) ∧
    ∃ a' b' op r run next, a = a' ++ .did (.worker i (.runtimeCallback request)) op r :: b' ∧
      (after d w a').state.runs.find tenantId workflowId = some run ∧
      run.state.terminal = false ∧
      (after d w (a' ++ [.did (.worker i (.runtimeCallback request)) op r])).state.runs.find
        tenantId workflowId = some next ∧ next.state = outcome := by
  obtain ⟨spawned, asks⟩ := valid.worked a b i _ (.enqueue command) r rfl
  obtain ⟨p, read, silent | ⟨told, licensed, none_⟩⟩ := asks stored
  · have outcome := reports.outcome
    rw [silent] at outcome
    cases outcome
  · obtain ⟨rfl, rfl, rfl⟩ := told.same reports
    exact ⟨none_, licensed_moves valid.init_ each.init read spawned licensed⟩

/-- Two moves out of an open run of one workflow are the same move. -/
theorem moves_once (h : w.state.outbox.Consistent) {a b a' b' : Log} {e e' : Entry}
    {tenantId workflowId : String} {run next run' next' : WorkflowRun}
    (split : a ++ e :: b = a' ++ e' :: b')
    (found : (after d w a).state.runs.find tenantId workflowId = some run)
    (open_ : run.state.terminal = false)
    (written : (after d w (a ++ [e])).state.runs.find tenantId workflowId = some next)
    (ended : next.state.terminal = true)
    (found' : (after d w a').state.runs.find tenantId workflowId = some run')
    (open' : run'.state.terminal = false)
    (written' : (after d w (a' ++ [e'])).state.runs.find tenantId workflowId = some next')
    (ended' : next'.state.terminal = true) : e = e' := by
  rcases split_order split with ⟨_, same, _⟩ | ⟨m, rfl, _⟩ | ⟨m, rfl, _⟩
  · exact same
  · have kept := finished_after h (a ++ [e]) m written ended
    rw [List.append_assoc, List.singleton_append] at kept
    have same : run' = next := Option.some.inj (found'.symm.trans kept)
    rw [same, ended] at open'
    cases open'
  · have kept := finished_after h (a' ++ [e']) m written' ended'
    rw [List.append_assoc, List.singleton_append] at kept
    have same : run = next' := Option.some.inj (found.symm.trans kept)
    rw [same, ended'] at open_
    cases open_

/-- No two terminal events of the route go to one workflow. -/
theorem report_last (h : w.state.outbox.Consistent) (stored : d.workflowRunRepository = true)
    {log : Log} (valid : Explained d w log)
    (each : Each (fun a e => NoProgressMeetsOpenRun d w a e = true) log)
    (halts : log.Pairwise Machine.SilentAfter) {a m b : Log} {e e' : Entry}
    (split : log = a ++ e :: (m ++ e' :: b)) {tenantId workflowId : String}
    {outcome outcome' : WorkflowRunState} (reports : RouteReports tenantId workflowId outcome e)
    (reports' : RouteReports tenantId workflowId outcome' e') : False := by
  obtain ⟨i, request, command, r, rfl, told⟩ := reports
  obtain ⟨i', request', command', r', rfl, told'⟩ := reports'
  have nested : log = (a ++ .did (.worker i (.runtimeCallback request)) (.enqueue command) r :: m) ++
      .did (.worker i' (.runtimeCallback request')) (.enqueue command') r' :: b := by
    simpa using split
  obtain ⟨none_, a₂, b₂, op₂, r₂, run₂, next₂, split₂, found₂, open₂, written₂, state₂⟩ :=
    report_moves stored (nested ▸ valid) (nested ▸ each) told'
  subst split
  obtain ⟨_, a₁, b₁, op₁, r₁, run₁, next₁, split₁, found₁, open₁, written₁, state₁⟩ :=
    report_moves stored valid each told
  subst split₁
  have ends₁ : next₁.state.terminal = true := state₁ ▸ reported_terminal told.outcome
  have ends₂ : next₂.state.terminal = true := state₂ ▸ reported_terminal told'.outcome
  rw [List.append_assoc, List.cons_append] at split₂
  have same := moves_once h split₂ found₁ open₁ written₁ ends₁ found₂ open₂ written₂ ends₂
  have worker : i = i' := by
    injection same with actor
    injection actor
  subst worker
  cases r with
  | ok event =>
    have answered := Machine.history_mem (i := i) (List.mem_append_right
      (a₁ ++ .did (.worker i (.runtimeCallback request)) op₁ r₁ :: b₁)
      (List.mem_cons_self (a := .did (.worker i (.runtimeCallback request)) (.enqueue command)
        (.ok event)) (l := m)))
    have silent := none_ _ answered command rfl
    have outcome := told.outcome
    rw [silent] at outcome
    cases outcome
  | error x =>
    have silent := (List.pairwise_append.mp halts).2.1
    have later := List.rel_of_pairwise_cons silent (List.mem_append_right m List.mem_cons_self)
    exact later i _ _ x _ _ _ rfl rfl

/-- Where no progress callback meets a run that could still end, the terminal
events of the route are true and single, whatever the interleaving. -/
theorem callbacks_report_true_ends (h : w.state.outbox.Consistent)
    (stored : d.workflowRunRepository = true) (labels : List (Machine.Label Op Start))
    (each : Each (fun a e => NoProgressMeetsOpenRun d w a e = true)
      (runs (machine d).step (Machine.initial w) labels).log) :
    TrueEnds d w (runs (machine d).step (Machine.initial w) labels).log := by
  have valid : Explained d w (runs (machine d).step (Machine.initial w) labels).log :=
    (Machine.runs_valid specified labels).1
  have halts : (runs (machine d).step (Machine.initial w) labels).log.Pairwise
      Machine.SilentAfter := Machine.errors_last w labels
  refine ⟨?_, ?_⟩
  · rintro a b e tenantId workflowId outcome split ⟨i, request, command, r, rfl, told⟩
    rw [split] at valid each
    obtain ⟨_, a', b', op, r', run, next, rfl, _, _, written, state⟩ :=
      report_moves stored valid each told
    refine ⟨next, ?_, state⟩
    have kept := finished_after h _ b' written (state ▸ reported_terminal told.outcome)
    rwa [List.append_assoc, List.singleton_append] at kept
  · intro a b e a' b' e' tenantId workflowId outcome outcome' split split' reports reports'
    rcases split_order (split.symm.trans split') with ⟨same, _⟩ | ⟨m, _, rfl⟩ | ⟨m, _, rfl⟩
    · exact same
    · exact (report_last h stored valid each halts split reports reports').elim
    · exact (report_last h stored valid each halts split' reports' reports).elim

end

/-- An event of the route is true at this entry. -/
def trueReport (d : Deployment) (w : Faulty World) (a : Log) : Entry → Bool
  | .did (.worker _ (.runtimeCallback _)) (.enqueue command) _ =>
    match command.payload.text "workflow_id", reportedOutcome command.eventType with
    | some workflowId, some outcome =>
      ((after d w a).state.runs.find command.tenantId workflowId).any (·.state == outcome)
    | _, _ => true
  | _ => true

theorem TrueEnds.each {d : Deployment} {w : Faulty World} {log : Log} (h : TrueEnds d w log) :
    Each (fun a e => trueReport d w a e = true) log := by
  refine Each.of_splits fun a e b split => ?_
  unfold trueReport
  split
  · rename_i i request command r
    split
    · rename_i workflowId outcome named told
      obtain ⟨run, found, state⟩ := h.stored a b _ command.tenantId workflowId outcome split
        ⟨i, request, command, r, rfl, rfl, named, told⟩
      simp [found, state]
    · rfl
  · rfl

def acme : String := "11111111-1111-4111-8111-111111111111"

def callbackText (callbackType : String) : String :=
  "\x7b\"tenantId\":\"11111111-1111-4111-8111-111111111111\",\"workflowId\":\"wf-1\"," ++
    "\"dedupeKey\":\"wf-1\",\"tenantExternalId\":\"ten_01\",\"tenantName\":\"Lattice\"," ++
    "\"requestedBy\":\"founder\",\"callbackId\":\"cb-1\",\"callbackType\":\"" ++ callbackType ++
    "\"\x7d"

def callbackJson (callbackType : String) : Json :=
  .obj [("tenantId", .str acme), ("workflowId", .str "wf-1"), ("dedupeKey", .str "wf-1"),
    ("tenantExternalId", .str "ten_01"), ("tenantName", .str "Lattice"),
    ("requestedBy", .str "founder"), ("callbackId", .str "cb-1"),
    ("callbackType", .str callbackType)]

/-- The signatures of the two texts under the secret `secret`. -/
def signatures : List (String × String) :=
  [("progress", "22513d3c02bd60cbd565c42dc9678edbd52ee39b171c4cb9248d3b6b0addf358"),
    ("completed", "0693d74fc63a18e2416e66b20ae5dfdc7156449e6ad7187012a0b11945ac4ec6")]

/-- What a signer and a JSON parser make of the two texts. -/
def deployed : Deployment where
  backend := .postgres
  uuid := countedUuids
  runtimeCallbackSecret := some "secret"
  hmac secret payload :=
    ((signatures.find? fun s => secret == "secret" && payload == callbackText s.1).map (·.2)).getD ""
  jsonParse raw :=
    (signatures.find? fun s => raw == callbackText s.1).map fun s => callbackJson s.1
  zodMessage := "Invalid input"

def posted (callbackType : String) : SignedRequest :=
  ⟨callbackText callbackType, signatures.lookup callbackType⟩

/-- The workflow was requested and nothing else happened. -/
def requested : Faulty World where
  state :=
    { clock := 0,
      runs := ⟨InsertionMap.empty.set (WorkflowRunStore.key acme "wf-1")
        (WorkflowRunStore.requestedRun (countedUuids.text 1) acme "wf-1" "wf-1" 0), 1⟩,
      outbox := .empty, external := [], runtime := [] }
  faults := []

def turns (i n : Nat) : List (Machine.Label Op Start) := List.replicate n (.run i)

/-- A progress callback for a requested workflow. -/
def progressPosted : List (Machine.Label Op Start) :=
  [.spawn (.runtimeCallback (posted "progress"))] ++ turns 0 6

theorem progress_reports_completed :
    ¬ TrueEnds deployed requested
      (runs (machine deployed).step (Machine.initial requested) progressPosted).log := by
  refine mt TrueEnds.each ?_
  decide +kernel

/-- Two callbacks that report the same completion interleave. -/
def completedTwice : List (Machine.Label Op Start) :=
  [.spawn (.runtimeCallback (posted "completed")), .spawn (.runtimeCallback (posted "completed"))] ++
    turns 0 1 ++ turns 1 1 ++ turns 0 5 ++ turns 1 5

theorem completedTwice_true :
    TrueEnds deployed requested
      (runs (machine deployed).step (Machine.initial requested) completedTwice).log :=
  callbacks_report_true_ends InMemoryOutboxRepository.empty_consistent rfl completedTwice
    (by decide +kernel)

end VantGrowth.Proofs.RuntimeCallbacks
