import VantGrowth.Lib.Firsts
import VantGrowth.Proofs.AcceptedRequests
import VantGrowth.Proofs.ProvisioningOutcomes

namespace VantGrowth.Proofs.HistoryReplays
open Core Db Lib Lib.Text Lib.Prog Workflow WorkflowSteps RuntimeCallbacks
open ProvisioningOutcomes (provisioning verifying)

/-- What `tenantProvisioningRuntimeHistoryEventSchema` promises of the texts and
the percentage. -/
def eventValid (x : TenantProvisioningRuntimeHistoryEvent) : Bool :=
  x.step != "" && x.message != "" && x.percent.all fun p => 0 ≤ p && p ≤ 100

/-- The runtime answers a state with this history, and its client accepts it. -/
structure Answers (history : List TenantProvisioningRuntimeHistoryEvent)
    (state : TenantProvisioningRuntimeState) : Prop where
  history : state.history = history
  runId : state.runtimeRunId.all (· != "") = true

/-- A delivery some milliseconds after the one before, the writes that are lost
on it, and what the runtime answers. -/
structure Delivery where
  elapsed : Nat
  faults : List (Option Fault)
  state : TenantProvisioningRuntimeState

def deliver (d : Deployment) (worker : WorkflowCallbackWorker)
    (request : TenantProvisioningWorkflowInput) (v : World) (x : Delivery) : World :=
  ((runAlone (exec d) (processTenantProvisioningCompletion d worker request)).run
    ⟨{ v with clock := v.clock + x.elapsed, runtime := [some x.state] }, x.faults⟩).2.state

/-- The key of the progress event a history event of this step makes. -/
def stepKey (request : TenantProvisioningWorkflowInput) (step : String) : String :=
  join request.dedupeKey (join "progress" (join (join "worker-callback" request.workflowId) step))

/-- The progress events in the outbox of `v` that were not in that of `u`. -/
def added (u v : World) : List StoredOutboxEvent :=
  (v.outbox.events.drop u.outbox.events.length).filter (·.eventType == progressType)

def percentJson : Option ℚ → Json
  | some p => .num (.finite p)
  | none => .null

/-- A progress event tells what a history event does. -/
structure Tells (request : TenantProvisioningWorkflowInput) (e : StoredOutboxEvent)
    (x : TenantProvisioningRuntimeHistoryEvent) : Prop where
  tenant : e.tenantId = request.tenantId
  key : e.idempotencyKey = stepKey request x.step
  workflow : e.payload.text "workflow_id" = some request.workflowId
  step : e.payload.text "progress_step" = some x.step
  message : e.payload.text "progress_message" = some x.message
  percent : e.payload.lookup "progress_percent" = some (percentJson x.percent)

/-- A progress event of a step is in the outbox. -/
def Seen (request : TenantProvisioningWorkflowInput) (v : World) (step : String) : Prop :=
  ∃ e ∈ v.outbox.events, e.tenantId = request.tenantId ∧ e.eventType = progressType ∧
    e.idempotencyKey = stepKey request step

section
variable {d : Deployment} {worker : WorkflowCallbackWorker}
  {request : TenantProvisioningWorkflowInput} {u v w : World}
  {history done : List TenantProvisioningRuntimeHistoryEvent}
  {x : TenantProvisioningRuntimeHistoryEvent}

theorem stepKey_inj {step step' : String} (h : stepKey request step = stepKey request step') :
    step = step' :=
  join_right_inj (join_right_inj (join_right_inj h))

/-- What the deliveries so far made of a history: the first event of each step
of some part of it, in order. -/
structure Emitting (request : TenantProvisioningWorkflowInput) (u : World)
    (history : List TenantProvisioningRuntimeHistoryEvent) (v : World) : Prop where
  consistent : v.outbox.Consistent
  grown : u.outbox.events <+: v.outbox.events
  told : ∃ done, done <+: history ∧
    List.Forall₂ (Tells request) (added u v) (firsts (·.step) done)

theorem added_append {new : List StoredOutboxEvent} (grown : u.outbox.events <+: v.outbox.events)
    (events : w.outbox.events = v.outbox.events ++ new) :
    added u w = added u v ++ new.filter (·.eventType == progressType) := by
  unfold added
  rw [events, List.drop_append_of_le_length grown.length_le, List.filter_append]

/-- What is new in the outbox is among the events added. -/
theorem mem_added (fresh : ∀ step, ¬ Seen request u step) (grown : u.outbox.events <+: v.outbox.events)
    {e : StoredOutboxEvent} {step : String} (stored : e ∈ v.outbox.events)
    (tenant : e.tenantId = request.tenantId) (type : e.eventType = progressType)
    (key : e.idempotencyKey = stepKey request step) : e ∈ added u v := by
  obtain ⟨rest, split⟩ := grown
  refine List.mem_filter.mpr ⟨?_, by simp [type]⟩
  rw [← split] at stored ⊢
  rw [List.drop_left]
  rcases List.mem_append.mp stored with old | new
  · exact absurd ⟨e, old, tenant, type, key⟩ (fresh step)
  · exact new

theorem added_mem {e : StoredOutboxEvent} (member : e ∈ added u v) :
    e ∈ v.outbox.events ∧ e.eventType = progressType := by
  obtain ⟨dropped, type⟩ := List.mem_filter.mp member
  exact ⟨List.drop_subset _ _ dropped, by simpa using type⟩

/-- The steps seen are those that were told. -/
theorem seen_iff (fresh : ∀ step, ¬ Seen request u step) (grown : u.outbox.events <+: v.outbox.events)
    (told : List.Forall₂ (Tells request) (added u v) (firsts (·.step) done)) (step : String) :
    Seen request v step ↔ step ∈ done.map (·.step) := by
  rw [← mem_firsts_keys]
  constructor
  · rintro ⟨e, stored, tenant, type, key⟩
    obtain ⟨y, member, tells⟩ := partner told (mem_added fresh grown stored tenant type key)
    exact List.mem_map.mpr ⟨y, member, stepKey_inj (tells.key.symm.trans key)⟩
  · intro member
    obtain ⟨y, there, rfl⟩ := List.mem_map.mp member
    obtain ⟨e, new, tells⟩ := partner told.flip there
    obtain ⟨stored, type⟩ := added_mem new
    exact ⟨e, stored, tells.tenant, type, tells.key⟩

theorem Emitting.start (h : u.outbox.Consistent) : Emitting request u history u :=
  ⟨h, List.prefix_rfl, [], List.nil_prefix, by simp [added]⟩

theorem Emitting.same (h : Emitting request u history v) (outbox : w.outbox = v.outbox) :
    Emitting request u history w := by
  obtain ⟨done, part, told⟩ := h.told
  refine ⟨outbox ▸ h.consistent, outbox ▸ h.grown, done, part, ?_⟩
  unfold added at told ⊢
  rwa [outbox]

/-- Nothing but a progress event changes what was emitted. -/
theorem Emitting.silent (h : Emitting request u history v) {command : EnqueueOutboxEvent}
    (silent : command.eventType ≠ progressType)
    (sends : InMemoryOutboxRepository.Sends command v.outbox w.outbox) :
    Emitting request u history w ∧ v.outbox.events <+: w.outbox.events := by
  rcases sends.events with ⟨same, _⟩ | ⟨e, events, put, _, _⟩
  · exact ⟨h.same same, same ▸ List.prefix_rfl⟩
  · have grown : v.outbox.events <+: w.outbox.events := events ▸ List.prefix_append _ _
    obtain ⟨done, part, told⟩ := h.told
    refine ⟨⟨sends.consistent, h.grown.trans grown, done, part, ?_⟩, grown⟩
    have other : [e].filter (·.eventType == progressType) = [] := by
      rw [← put] at silent
      simp [silent]
    rwa [added_append h.grown events, other, List.append_nil]

/-- The progress command of a history event. -/
def progressOf (request : TenantProvisioningWorkflowInput) (state : TenantProvisioningRuntimeState)
    (x : TenantProvisioningRuntimeHistoryEvent) (now : Instant) :
    Except DbError EnqueueOutboxEvent :=
  createTenantProvisioningProgressOutboxCommand now
    { verifiedCallback request .progress state with
      progressStep := some x.step, progressMessage := some x.message, progressPercent := x.percent }

theorem progressOf_valid (valid : request.valid = true) {state : TenantProvisioningRuntimeState}
    (answers : Answers history state) (shown : eventValid x = true) (now : Instant) :
    ∃ c, progressOf request state x now = .ok c ∧ c.valid = true := by
  refine CallbackRetries.progress_built ?_ now
  simp only [eventValid, Bool.and_eq_true] at shown
  simp [TenantProvisioningRuntimeCallback.valid, verifiedCallback, callbackOf, valid,
    Text.join_ne_empty, answers.runId, shown]

theorem progressOf_tells {state : TenantProvisioningRuntimeState} {now : Instant}
    {c : EnqueueOutboxEvent} (built : progressOf request state x now = .ok c) {e : StoredOutboxEvent}
    (put : e.toEnqueueOutboxEvent = c) : e.eventType = progressType ∧ Tells request e x := by
  unfold progressOf createTenantProvisioningProgressOutboxCommand at built
  dsimp only at built
  split at built
  · cases built
    obtain ⟨command, id, created, consumed⟩ := e
    cases put
    exact ⟨rfl, rfl, rfl, rfl, rfl, rfl, rfl⟩
  · cases built

/-- The next event of the history is told, unless its step was. -/
theorem Emitting.next (h : Emitting request u history v) (fresh : ∀ step, ¬ Seen request u step)
    (part : done ++ [x] <+: history) (seen : ∀ y ∈ done, Seen request v y.step)
    {state : TenantProvisioningRuntimeState} {now : Instant} {c : EnqueueOutboxEvent}
    (built : progressOf request state x now = .ok c)
    (sends : InMemoryOutboxRepository.Sends c v.outbox w.outbox) :
    Emitting request u history w ∧ v.outbox.events <+: w.outbox.events ∧ Seen request w x.step := by
  rcases sends.events with ⟨same, e, stored, key⟩ | ⟨e, events, put, _, new⟩
  · refine ⟨h.same same, same ▸ List.prefix_rfl, ?_⟩
    rw [Seen, same]
    obtain ⟨type, tells⟩ := progressOf_tells built (e := ⟨c, e.id, e.createdAt, e.consumedAt⟩) rfl
    exact ⟨e, stored, key.1.trans tells.tenant, key.2.1.trans type, key.2.2.trans tells.key⟩
  · obtain ⟨type, tells⟩ := progressOf_tells built put
    have grown : v.outbox.events <+: w.outbox.events := events ▸ List.prefix_append _ _
    have there : Seen request w x.step := by
      refine ⟨e, ?_, tells.tenant, type, tells.key⟩
      rw [events]
      exact List.mem_append_right _ (List.mem_singleton_self e)
    refine ⟨⟨sends.consistent, h.grown.trans grown, done ++ [x], part, ?_⟩, grown, there⟩
    obtain ⟨before, earlier, told⟩ := h.told
    have unseen : x.step ∉ before.map (·.step) := by
      rw [← seen_iff fresh h.grown told]
      rintro ⟨old, stored, tenant, oldType, oldKey⟩
      refine new old stored ⟨?_, ?_, ?_⟩ <;> rw [← put]
      · rw [tenant, tells.tenant]
      · rw [oldType, type]
      · rw [oldKey, tells.key]
    -- what was told stops before the event, and repeats no step of it since
    have shorter : before <+: done := by
      rcases List.prefix_or_prefix_of_prefix earlier part with short | long
      · rcases List.prefix_concat_iff.mp short with whole | short
        · exact absurd (whole ▸ by simp) unseen
        · exact short
      · exact absurd (List.mem_map_of_mem (long.subset (by simp))) unseen
    obtain ⟨rest, split⟩ := shorter
    have same : firsts (·.step) done = firsts (·.step) before := by
      rw [← split]
      refine firsts_absorb _ fun y member => ?_
      rw [← seen_iff fresh h.grown told]
      exact seen y (split ▸ List.mem_append_right _ member)
    have last : firsts (·.step) (done ++ [x]) = firsts (·.step) before ++ [x] := by
      rw [firsts_snoc, same, if_neg]
      rwa [mem_firsts_keys]
    have one : [e].filter (·.eventType == progressType) = [e] := by simp [type]
    rw [added_append h.grown events, one, last]
    exact List.rel_append told (.cons tells .nil)

/-- A remote call that meets no fault takes its effect; one that meets a fault
takes it or none. -/
theorem remote_met {m : Store WorkflowError World α} {s : Faulty World}
    {R : Except WorkflowError α → World → Prop} (h : m.Ends s.state R) :
    (remote m).Ends s fun r t => R r t.state ∧ (s.faults = [] → t.faults = []) ∨
      s.faults ≠ [] ∧ (∃ e, r = .error e) ∧ (t.state = s.state ∨ ∃ r', R r' t.state) := by
  obtain ⟨state, faults⟩ := s
  cases faults with
  | nil => exact Store.Ends.calm h fun r t effect => Or.inl ⟨effect, fun _ => rfl⟩
  | cons f rest =>
    refine (remote_ends h).weaken ?_
    rintro r t (effect | ⟨⟨f, lost⟩, kept⟩)
    · exact Or.inl ⟨effect, fun none_ => by cases none_⟩
    · exact Or.inr ⟨by simp, ⟨_, lost⟩, kept⟩

/-- A command was put to the outbox, or the put was lost. -/
structure Put (c : EnqueueOutboxEvent) (s : Faulty World) (r : Except WorkflowError α)
    (t : Faulty World) : Prop where
  outbox : t.state.outbox = s.state.outbox ∨
    InMemoryOutboxRepository.Sends c s.state.outbox t.state.outbox
  runs : t.state.runs = s.state.runs
  stored : ∀ a, r = .ok a → InMemoryOutboxRepository.Sends c s.state.outbox t.state.outbox
  calm : s.faults = [] → (∃ a, r = .ok a) ∧ t.faults = []

theorem emit_put {s : Faulty World} (h : s.state.outbox.Consistent)
    {build : Instant → Except DbError EnqueueOutboxEvent} {c : EnqueueOutboxEvent}
    (built : build s.state.clock = .ok c) (valid : c.valid = true) :
    (runAlone (exec d) (emit build)).Ends s (Put c s) := by
  have put : (exec d (.enqueue c)).Ends s (Put c s) := by
    refine (remote_met (onOutbox_ends (InMemoryOutboxRepository.enqueue_sends h s.state.clock
      valid))).weaken ?_
    rintro r t (⟨⟨y, ⟨⟨event, rfl⟩, sends⟩, rfl, frame⟩, calm⟩ | ⟨faulty, ⟨e, rfl⟩, kept⟩)
    · refine ⟨Or.inr sends, ?_, fun _ _ => sends, fun none_ => ⟨⟨event, rfl⟩, calm none_⟩⟩
      rw [frame]
    · refine ⟨?_, ?_, by rintro a ⟨⟩, fun none_ => absurd none_ faulty⟩
      · rcases kept with same | ⟨_, _, ⟨_, sends⟩, _⟩
        · exact Or.inl (congrArg World.outbox same)
        · exact Or.inr sends
      · rcases kept with same | ⟨_, _, _, _, frame⟩
        · exact congrArg World.runs same
        · rw [frame]
  unfold Store.Ends at put ⊢
  rw [CallbackRetries.emit_run built]
  exact put

/-- The events of part of a history are out. -/
structure Told (request : TenantProvisioningWorkflowInput) (u : World)
    (history part : List TenantProvisioningRuntimeHistoryEvent) (s : Faulty World)
    (r : Except WorkflowError Unit) (t : Faulty World) : Prop where
  emitting : Emitting request u history t.state
  grown : s.state.outbox.events <+: t.state.outbox.events
  runs : t.state.runs = s.state.runs
  seen : r = .ok () → ∀ y ∈ part, Seen request t.state y.step
  calm : s.faults = [] → r = .ok () ∧ t.faults = []

theorem Seen.grown {step : String} (seen : Seen request v step)
    (grown : v.outbox.events <+: w.outbox.events) : Seen request w step := by
  obtain ⟨e, stored, rest⟩ := seen
  exact ⟨e, grown.subset stored, rest⟩

theorem emitProgress_told (valid : request.valid = true) (fresh : ∀ step, ¬ Seen request u step)
    {s : Faulty World} (h : Emitting request u history s.state) {state : TenantProvisioningRuntimeState}
    (answers : Answers history state) (shown : eventValid x = true) (part : done ++ [x] <+: history)
    (seen : ∀ y ∈ done, Seen request s.state y.step) :
    (runAlone (exec d) (emitProgressEvent request state x)).Ends s
      (Told request u history (done ++ [x]) s) := by
  obtain ⟨c, built, commandValid⟩ := progressOf_valid valid answers shown s.state.clock
  unfold emitProgressEvent
  rw [runAlone_bind]
  have left : ∀ {r : Except WorkflowError StoredOutboxEvent} {t : Faulty World}, Put c s r t →
      Emitting request u history t.state ∧ s.state.outbox.events <+: t.state.outbox.events := by
    intro r t put
    rcases put.outbox with same | sends
    · exact ⟨h.same same, same ▸ List.prefix_rfl⟩
    · obtain ⟨emitting, grown, _⟩ := h.next fresh part seen built sends
      exact ⟨emitting, grown⟩
  refine Store.Ends.bind (emit_put h.consistent built commandValid) ?_ ?_
  · intro e t put
    obtain ⟨emitting, grown⟩ := left put
    refine ⟨emitting, grown, put.runs, by rintro ⟨⟩, fun none_ => ?_⟩
    obtain ⟨⟨a, ⟨⟩⟩, _⟩ := put.calm none_
  · intro e t put
    obtain ⟨emitting, grown, told⟩ := h.next fresh part seen built (put.stored e rfl)
    refine Store.Ends.pure ⟨emitting, grown, put.runs, fun _ y member => ?_,
      fun none_ => ⟨rfl, (put.calm none_).2⟩⟩
    rcases List.mem_append.mp member with old | last
    · exact (seen y old).grown grown
    · cases List.mem_singleton.mp last
      exact told

theorem history_told (valid : request.valid = true) (fresh : ∀ step, ¬ Seen request u step)
    (shown : ∀ y ∈ history, eventValid y = true) {state : TenantProvisioningRuntimeState}
    (answers : Answers history state) {rest : List TenantProvisioningRuntimeHistoryEvent}
    (split : done ++ rest = history) {s : Faulty World} (h : Emitting request u history s.state)
    (seen : ∀ y ∈ done, Seen request s.state y.step) :
    (runAlone (exec d) (rest.forM (emitProgressEvent request state))).Ends s
      (Told request u history history s) := by
  induction rest generalizing done s with
  | nil =>
    rw [List.append_nil] at split
    exact Store.Ends.pure ⟨h, List.prefix_rfl, rfl, fun _ => split ▸ seen, fun none_ => ⟨rfl, none_⟩⟩
  | cons x rest ih =>
    have part : done ++ [x] <+: history := ⟨rest, by rw [← split]; simp⟩
    have loop : (x :: rest).forM (emitProgressEvent request state) =
        emitProgressEvent request state x >>= fun _ =>
          rest.forM (emitProgressEvent request state) := rfl
    rw [loop, runAlone_bind]
    refine Store.Ends.bind (emitProgress_told valid fresh h answers
      (shown x (part.subset (by simp))) part seen) ?_ ?_
    · intro e t told
      exact ⟨told.emitting, told.grown, told.runs, by rintro ⟨⟩, fun none_ => absurd (told.calm none_).1
        (by simp)⟩
    · intro _ t told
      refine (ih (by rw [← split]; simp) told.emitting (told.seen rfl)).weaken ?_
      intro r w later
      exact ⟨later.emitting, told.grown.trans later.grown, later.runs.trans told.runs, later.seen,
        fun none_ => later.calm (told.calm none_).2⟩

/-- The run of the workflow has ended. -/
def Ended (request : TenantProvisioningWorkflowInput) (v : World) : Prop :=
  ∃ run, v.runs.find request.tenantId request.workflowId = some run ∧ run.state.terminal = true

theorem swap_answers (uuid : isUuid request.tenantId = true) (fromState toState : WorkflowRunState)
    (code : Option String) (now : Instant) (runs : WorkflowRunStore) :
    (d.choose
      (InMemoryWorkflowRunRepository.transitionState now request.tenantId request.workflowId fromState
        toState code)
      (PostgresWorkflowRunRepository.transitionState now request.tenantId request.workflowId fromState
        toState code)).Ends runs fun y _ => ∃ run, y = .ok run := by
  refine choose_ends (Store.Ends.read_bind ?_) ?_
  · split
    · exact Store.Ends.pure ⟨_, rfl⟩
    · exact Store.Ends.ite (fun _ => Store.Ends.pure ⟨_, rfl⟩)
        fun _ => Store.Ends.modify_bind (Store.Ends.pure ⟨_, rfl⟩)
  · refine Store.Ends.require_bind (fun refused => absurd uuid refused) fun _ =>
      Store.Ends.read_bind ?_
    split
    · exact Store.Ends.pure ⟨_, rfl⟩
    · exact Store.Ends.modify_bind (Store.Ends.pure ⟨_, rfl⟩)

/-- A call on the runs leaves the rest alone, and no run ends by it. -/
structure Aside (request : TenantProvisioningWorkflowInput) (answers : α → Prop) (s : Faulty World)
    (r : Except WorkflowError α) (t : Faulty World) : Prop where
  outbox : t.state.outbox = s.state.outbox
  runtime : t.state.runtime = s.state.runtime
  ended : Ended request t.state → Ended request s.state
  answer : ∀ a, r = .ok a → answers a
  calm : s.faults = [] → (∃ a, r = .ok a) ∧ t.faults = []

theorem onRuns_aside {call : Instant → Store DbError WorkflowRunStore α} {answers : α → Prop}
    {s : Faulty World}
    (body : ∀ now, (call now).Ends s.state.runs fun y runs => (∃ a, y = .ok a ∧ answers a) ∧
      ∀ run, runs.find request.tenantId request.workflowId = some run → run.state.terminal = true →
        s.state.runs.find request.tenantId request.workflowId = some run) :
    (remote (onRuns call)).Ends s (Aside request answers s) := by
  refine (remote_met (onRuns_ends (body s.state.clock))).weaken ?_
  have ended : ∀ t : World, (∀ run, t.runs.find request.tenantId request.workflowId = some run →
      run.state.terminal = true →
        s.state.runs.find request.tenantId request.workflowId = some run) →
      Ended request t → Ended request s.state := by
    rintro t kept ⟨run, found, terminal⟩
    exact ⟨run, kept run found terminal, terminal⟩
  rintro r t (⟨⟨y, ⟨⟨a, rfl, fits⟩, kept⟩, rfl, frame⟩, calm⟩ |
    ⟨faulty, ⟨e, rfl⟩, same | ⟨_, _, ⟨_, kept⟩, _, frame⟩⟩)
  · refine ⟨by rw [frame], by rw [frame], ended _ kept, ?_, fun none_ => ⟨⟨a, rfl⟩, calm none_⟩⟩
    rintro b ⟨⟩
    exact fits
  · exact ⟨by rw [same], by rw [same], fun h => same ▸ h, by rintro a ⟨⟩, fun none_ =>
      absurd none_ faulty⟩
  · exact ⟨by rw [frame], by rw [frame], ended _ kept, by rintro a ⟨⟩, fun none_ =>
      absurd none_ faulty⟩

theorem valid_uuid (valid : request.valid = true) : isUuid request.tenantId = true := by
  simp only [TenantProvisioningWorkflowInput.valid, Bool.and_eq_true] at valid
  exact valid.1.1.1.1.1

theorem requested_aside (valid : request.valid = true) (s : Faulty World) :
    (exec d (.upsertRequested request.tenantId request.workflowId request.dedupeKey)).Ends s
      (Aside request (fun run => run.state.terminal = true → Ended request s.state) s) := by
  refine onRuns_aside fun now => ?_
  obtain ⟨⟨run, answered⟩, _⟩ := AcceptedRequests.upsert_ends (d := d) valid now s.state.runs
  have requests := request_ends d request.tenantId request.workflowId request.dedupeKey now
    s.state.runs
  unfold Store.Ends at requests ⊢
  rw [answered] at requests ⊢
  rcases requests with ⟨same, there⟩ | ⟨new, free, state, ⟨⟩, written⟩
  · refine ⟨⟨run, rfl, fun terminal => ⟨run, there run rfl, terminal⟩⟩, fun old found _ => ?_⟩
    unfold WorkflowRunStore.find at found ⊢
    rwa [same] at found
  · refine ⟨⟨run, rfl, fun terminal => ?_⟩, fun old found terminal => ?_⟩
    · rw [state] at terminal
      cases terminal
    · unfold WorkflowRunStore.find at found
      rw [written, InsertionMap.get_set_self] at found
      cases found
      rw [state] at terminal
      cases terminal

theorem opened_aside (valid : request.valid = true) (s : Faulty World) :
    (exec d (.transitionState request.tenantId request.workflowId .requested .in_progress none)).Ends s
      (Aside request (fun _ => True) s) := by
  refine onRuns_aside fun now => ?_
  obtain ⟨run, answered⟩ := swap_answers (d := d) (valid_uuid valid) .requested .in_progress none now
    s.state.runs
  have swaps := swap_ends d request.tenantId request.workflowId .requested .in_progress none now
    s.state.runs
  unfold Store.Ends at swaps ⊢
  rw [answered] at swaps ⊢
  refine ⟨⟨run, rfl, trivial⟩, fun old found terminal => ?_⟩
  rcases swaps with ⟨same, _⟩ | ⟨_, code, at_, _, _, _, _, written⟩
  · rwa [same] at found
  · unfold WorkflowRunStore.find at found
    rw [written, InsertionMap.get_set_self] at found
    cases found
    cases terminal

/-- Opening a run emits nothing and ends no run, and a terminal run it returns
had ended. -/
theorem openRun_aside (valid : request.valid = true) (s : Faulty World) :
    (runAlone (exec d) (openRun request)).Ends s
      (Aside request (fun run => run.state.terminal = true → Ended request s.state) s) := by
  have first : runAlone (exec d) (openRun request) =
      exec d (.upsertRequested request.tenantId request.workflowId request.dedupeKey) >>= fun run =>
        runAlone (exec d) (if run.state = .requested then
          await (.transitionState request.tenantId request.workflowId .requested .in_progress none) >>=
            fun _ => pure run else pure run) := rfl
  rw [first]
  refine Store.Ends.bind (requested_aside valid s) ?_ ?_
  · intro e t aside
    refine ⟨aside.outbox, aside.runtime, aside.ended, by rintro a ⟨⟩, fun none_ => ?_⟩
    obtain ⟨⟨a, ⟨⟩⟩, _⟩ := aside.calm none_
  · intro run t aside
    split
    · refine Store.Ends.bind (opened_aside valid t) ?_ ?_
      · intro e w later
        refine ⟨later.outbox.trans aside.outbox, later.runtime.trans aside.runtime,
          fun h => aside.ended (later.ended h), by rintro a ⟨⟩, fun none_ => ?_⟩
        obtain ⟨⟨a, ⟨⟩⟩, _⟩ := later.calm (aside.calm none_).2
      · intro _ w later
        refine Store.Ends.pure ⟨later.outbox.trans aside.outbox, later.runtime.trans aside.runtime,
          fun h => aside.ended (later.ended h), ?_, fun none_ => ⟨⟨run, rfl⟩, ?_⟩⟩
        · rintro a ⟨⟩
          exact aside.answer run rfl
        · exact (later.calm (aside.calm none_).2).2
    · refine Store.Ends.pure ⟨aside.outbox, aside.runtime, aside.ended, ?_, fun none_ =>
        ⟨⟨run, rfl⟩, (aside.calm none_).2⟩⟩
      rintro a ⟨⟩
      exact aside.answer run rfl

theorem emit_silent {s : Faulty World} (h : Emitting request u history s.state)
    {command : Instant → Except DbError EnqueueOutboxEvent}
    (silent : ∀ now c, command now = .ok c → c.eventType ≠ progressType) :
    (runAlone (exec d) (emit command)).Ends s fun _ t =>
      Emitting request u history t.state ∧ s.state.outbox.events <+: t.state.outbox.events := by
  cases built : command s.state.clock with
  | error e =>
    have refused : (runAlone (exec d) (emit command)).run s = (.error (.repository e), s) := by
      show (runAlone (exec d) (parsed (command s.state.clock) >>= fun c => await (.enqueue c))).run s = _
      rw [built]
      rfl
    unfold Store.Ends
    rw [refused]
    exact ⟨h, List.prefix_rfl⟩
  | ok c =>
    have put : (exec d (.enqueue c)).Ends s fun _ t => Emitting request u history t.state ∧
        s.state.outbox.events <+: t.state.outbox.events := by
      refine (remote_ends (onOutbox_ends (InMemoryOutboxRepository.enqueue_ends h.consistent
        s.state.clock c))).weaken ?_
      have kept : ∀ v : World, v.outbox = s.state.outbox ∨
          InMemoryOutboxRepository.Sends c s.state.outbox v.outbox →
          Emitting request u history v ∧ s.state.outbox.events <+: v.outbox.events := by
        rintro v (same | sends)
        · exact ⟨h.same same, same ▸ List.prefix_rfl⟩
        · exact h.silent (silent _ c built) sends
      rintro r t (⟨_, effect, _, _⟩ | ⟨_, same | ⟨_, _, effect, _, _⟩⟩)
      · exact kept _ effect
      · exact kept _ (Or.inl (congrArg World.outbox same))
      · exact kept _ effect
    unfold Store.Ends at put ⊢
    rw [CallbackRetries.emit_run built]
    exact put

/-- A report of how a run ended tells no progress. -/
theorem settle_silent {s : Faulty World} (h : Emitting request u history s.state)
    {command : Instant → Except DbError EnqueueOutboxEvent}
    (silent : ∀ now c, command now = .ok c → c.eventType ≠ progressType) (outcome : WorkflowRunState)
    (code : Option String) :
    (runAlone (exec d) (settle request command outcome code)).Ends s fun _ t =>
      Emitting request u history t.state ∧ s.state.outbox.events <+: t.state.outbox.events := by
  unfold settle
  rw [runAlone_bind]
  refine Store.Ends.bind (emit_silent h silent) (fun _ _ kept => kept) fun _ t kept => ?_
  have swap : (exec d (.transitionState request.tenantId request.workflowId .in_progress outcome
      code)).Ends t fun _ w => w.state.outbox = t.state.outbox := by
    refine (remote_ends (onRuns_ends (R := fun _ _ => True) trivial)).weaken ?_
    rintro r w (⟨_, _, _, frame⟩ | ⟨_, same | ⟨_, _, _, _, frame⟩⟩)
    · rw [frame]
    · rw [same]
    · rw [frame]
  have after : ∀ w : Faulty World, w.state.outbox = t.state.outbox →
      Emitting request u history w.state ∧ s.state.outbox.events <+: w.state.outbox.events :=
    fun w same => ⟨kept.1.same same, same ▸ kept.2⟩
  exact Store.Ends.bind swap (fun _ w same => after w same) fun _ w same =>
    Store.Ends.pure (after w same)

theorem completed_silent {input : TenantProvisioningRuntimeCallback} {now : Instant}
    {c : EnqueueOutboxEvent}
    (built : createTenantProvisioningCompletedOutboxCommand now input = .ok c) :
    c.eventType ≠ progressType := by
  intro progress
  have told := (completed_reports built).outcome
  rw [progress, progress_outcome] at told
  cases told

theorem failed_silent {input : TenantProvisioningRuntimeCallback} {now : Instant}
    {c : EnqueueOutboxEvent} (built : createTenantProvisioningFailedOutboxCommand now input = .ok c) :
    c.eventType ≠ progressType := by
  intro progress
  have told := (failed_reports built).outcome
  rw [progress, progress_outcome] at told
  cases told

/-- All of a history is out. -/
def AllSeen (request : TenantProvisioningWorkflowInput)
    (history : List TenantProvisioningRuntimeHistoryEvent) (v : World) : Prop :=
  ∀ y ∈ history, Seen request v y.step

/-- What every delivery keeps: a run ends only once its history is out. -/
structure Replayed (request : TenantProvisioningWorkflowInput) (u : World)
    (history : List TenantProvisioningRuntimeHistoryEvent) (v : World) : Prop where
  emitting : Emitting request u history v
  ended : Ended request v → AllSeen request history v

/-- One delivery keeps the invariant, and with no fault in store it tells all of
the history. -/
structure Delivered (request : TenantProvisioningWorkflowInput) (u : World)
    (history : List TenantProvisioningRuntimeHistoryEvent) (s t : Faulty World) : Prop where
  replayed : Replayed request u history t.state
  grown : s.state.outbox.events <+: t.state.outbox.events
  complete : s.faults = [] → AllSeen request history t.state

/-- What the verification path does once the history is out. -/
def conclude (request : TenantProvisioningWorkflowInput) (state : TenantProvisioningRuntimeState) :
    Handler TenantProvisioningRuntimeState :=
  match state.state with
  | .completed =>
    settle request (fun now => createTenantProvisioningCompletedOutboxCommand now
      (verifiedCallback request .completed state)) .completed none >>= fun _ => pure state
  | .failed =>
    settle request (fun now => createTenantProvisioningFailedOutboxCommand now
      { verifiedCallback request .failed state with
        failureCode := state.failureCode, failureMessage := state.failureMessage })
      .failed state.failureCode >>= fun _ => pure state
  | .requested | .in_progress =>
    throw (.error ("Runtime state '" ++ state.state.text ++
      "' is not terminal for workflow callback completion"))

theorem conclude_silent {s : Faulty World} (h : Emitting request u history s.state)
    (state : TenantProvisioningRuntimeState) :
    (runAlone (exec d) (conclude request state)).Ends s fun _ t =>
      Emitting request u history t.state ∧ s.state.outbox.events <+: t.state.outbox.events := by
  unfold conclude
  split
  · rw [runAlone_bind]
    exact Store.Ends.bind (settle_silent h (fun _ _ => completed_silent) _ _)
      (fun _ _ kept => kept) fun _ _ kept => Store.Ends.pure kept
  · rw [runAlone_bind]
    exact Store.Ends.bind (settle_silent h (fun _ _ => failed_silent) _ _)
      (fun _ _ kept => kept) fun _ _ kept => Store.Ends.pure kept
  · exact Store.Ends.throw ⟨h, List.prefix_rfl⟩
  · exact Store.Ends.throw ⟨h, List.prefix_rfl⟩

theorem verify_delivered (valid : request.valid = true) (fresh : ∀ step, ¬ Seen request u step)
    (shown : ∀ y ∈ history, eventValid y = true) {state : TenantProvisioningRuntimeState}
    (answers : Answers history state) {s : Faulty World} (prepared : s.state.runtime = [some state])
    (h : Replayed request u history s.state) :
    (runAlone (exec d) (verifyRuntime request)).Ends s fun _ t => Delivered request u history s t := by
  have looked : (exec d (.getTenantProvisioningRuntimeState request.tenantId
      request.workflowId)).Ends s fun r t =>
        r = .ok state ∧ t = ⟨{ s.state with runtime := [] }, s.faults⟩ := by
    show (Store.sound answerRuntime).Ends s _
    simp [Store.Ends, Store.sound, Store.zoom, answerRuntime, Store.run_bind, prepared]
  have first : runAlone (exec d) (verifyRuntime request) =
      exec d (.getTenantProvisioningRuntimeState request.tenantId request.workflowId) >>= fun state =>
        runAlone (exec d) (state.history.forM (emitProgressEvent request state) >>= fun _ =>
          conclude request state) := rfl
  rw [first]
  refine Store.Ends.bind looked (by rintro e t ⟨⟨⟩, _⟩) ?_
  rintro _ _ ⟨⟨⟩, rfl⟩
  rw [answers.history, runAlone_bind]
  have emitting : Emitting request u history { s.state with runtime := [] } := h.emitting.same rfl
  refine Store.Ends.bind (history_told (s := ⟨_, s.faults⟩) valid fresh shown answers (d := d) rfl
    emitting (fun y member => absurd member List.not_mem_nil)) ?_ ?_
  · intro e t told
    refine ⟨⟨told.emitting, fun ended y member => ?_⟩, told.grown, fun none_ => ?_⟩
    · have before : Ended request s.state := by
        unfold Ended at ended ⊢
        rwa [told.runs] at ended
      exact (h.ended before y member).grown told.grown
    · cases (told.calm none_).1
  · intro _ t told
    refine (conclude_silent told.emitting state).weaken ?_
    rintro r w ⟨later, grown⟩
    have seen : AllSeen request history w.state := fun y member => (told.seen rfl y member).grown grown
    exact ⟨⟨later, fun _ => seen⟩, told.grown.trans grown, fun _ => seen⟩

/-- A delivery once its run is open. -/
theorem opened_delivered (direct : worker.provisioningClients = false) (valid : request.valid = true)
    (fresh : ∀ step, ¬ Seen request u step) (shown : ∀ y ∈ history, eventValid y = true)
    {state : TenantProvisioningRuntimeState} (answers : Answers history state) {s : Faulty World}
    (prepared : s.state.runtime = [some state]) (h : Replayed request u history s.state)
    (run : WorkflowRun) (seen : run.state.terminal = true → AllSeen request history s.state) :
    (runAlone (exec d) (if run.state.terminal = true then
        if worker.provisioningClients = true then
          pure { workflowId := request.workflowId, tenantId := request.tenantId,
                 state := run.state, failureCode := run.failureCode }
        else await (.getTenantProvisioningRuntimeState request.tenantId request.workflowId)
      else if worker.provisioningClients = true then provisionDirectly d worker request
      else verifyRuntime request)).Ends s fun _ t => Delivered request u history s t := by
  simp only [direct, Bool.false_eq_true, if_false]
  split
  · rename_i terminal
    have looked : (exec d (.getTenantProvisioningRuntimeState request.tenantId
        request.workflowId)).Ends s fun _ t => t.state.outbox = s.state.outbox ∧
          t.state.runs = s.state.runs := by
      show (Store.sound answerRuntime).Ends s _
      simp [Store.Ends, Store.sound, Store.zoom, answerRuntime, Store.run_bind, prepared]
    have after : ∀ t : Faulty World, t.state.outbox = s.state.outbox ∧ t.state.runs = s.state.runs →
        Delivered request u history s t := by
      rintro t ⟨outbox, runs⟩
      have seen : AllSeen request history t.state := by
        intro y member
        refine (seen terminal y member).grown ?_
        rw [outbox]
      exact ⟨⟨h.emitting.same outbox, fun _ => seen⟩, by rw [outbox], fun _ => seen⟩
    exact Store.Ends.bind looked (fun _ t kept => after t kept) fun _ t kept =>
      Store.Ends.pure (after t kept)
  · exact verify_delivered valid fresh shown answers prepared h

theorem deliver_delivered (direct : worker.provisioningClients = false) (valid : request.valid = true)
    (fresh : ∀ step, ¬ Seen request u step) (shown : ∀ y ∈ history, eventValid y = true)
    {delivery : Delivery} (answers : Answers history delivery.state) (h : Replayed request u history v) :
    Replayed request u history (deliver d worker request v delivery) ∧
      v.outbox.events <+: (deliver d worker request v delivery).outbox.events ∧
      (delivery.faults = [] → AllSeen request history (deliver d worker request v delivery)) := by
  let s : Faulty World := ⟨{ v with
    clock := v.clock + delivery.elapsed
    runtime := [some delivery.state] }, delivery.faults⟩
  have start : Replayed request u history s.state := ⟨h.emitting.same rfl, h.ended⟩
  have delivered : (runAlone (exec d) (processTenantProvisioningCompletion d worker request)).Ends s
      fun _ t => Delivered request u history s t := by
    unfold processTenantProvisioningCompletion require
    rw [if_pos valid]
    show (runAlone (exec d) (openRun request >>= _)).Ends s _
    rw [runAlone_bind]
    have aside : ∀ {r : Except WorkflowError WorkflowRun} {t : Faulty World}, Aside request
        (fun run => run.state.terminal = true → Ended request s.state) s r t →
        Replayed request u history t.state := by
      intro r t aside
      refine ⟨start.emitting.same aside.outbox, fun ended y member => ?_⟩
      exact (start.ended (aside.ended ended) y member).grown (by rw [aside.outbox])
    refine Store.Ends.bind (openRun_aside valid s) ?_ ?_
    · intro e t kept
      refine ⟨aside kept, by rw [kept.outbox], fun none_ => ?_⟩
      obtain ⟨⟨a, ⟨⟩⟩, _⟩ := kept.calm none_
    · intro run t kept
      have seen : run.state.terminal = true → AllSeen request history t.state := by
        intro terminal y member
        refine (start.ended (kept.answer run rfl terminal) y member).grown ?_
        rw [kept.outbox]
      refine (opened_delivered direct valid fresh shown answers (kept.runtime.trans rfl) (aside kept)
        run seen).weaken ?_
      rintro r w delivered
      refine ⟨delivered.replayed, ?_, fun none_ => delivered.complete (kept.calm none_).2⟩
      rw [← kept.outbox]
      exact delivered.grown
  exact ⟨delivered.replayed, delivered.grown, delivered.complete⟩

/-- Where all of a history is out, every step of it was told once, in order. -/
theorem Emitting.whole (h : Emitting request u history v) (fresh : ∀ step, ¬ Seen request u step)
    (seen : AllSeen request history v) :
    List.Forall₂ (Tells request) (added u v) (firsts (·.step) history) := by
  obtain ⟨done, ⟨rest, split⟩, told⟩ := h.told
  have same : firsts (·.step) history = firsts (·.step) done := by
    rw [← split]
    refine firsts_absorb _ fun y member => ?_
    rw [← seen_iff fresh h.grown told]
    exact seen y (split ▸ List.mem_append_right _ member)
  rwa [same]

/-- Once all of a history is out, nothing is added to it. -/
theorem Emitting.settled (h : Emitting request u history v) (fresh : ∀ step, ¬ Seen request u step)
    (seen : AllSeen request history v) (later : Emitting request u history w)
    (grown : v.outbox.events <+: w.outbox.events) : added v w = [] := by
  obtain ⟨rest, split⟩ := grown
  have more : added u w = added u v ++ added v w := by
    rw [added_append h.grown split.symm]
    unfold added
    rw [← split, List.drop_left]
  obtain ⟨done, part, told⟩ := later.told
  have longer := (firsts_growing (·.step) part).length_le
  have whole := (h.whole fresh seen).length_eq
  have all := told.length_eq
  rw [more, List.length_append] at all
  exact List.length_eq_zero_iff.mp (by omega)

theorem deliveries_replayed (direct : worker.provisioningClients = false)
    (valid : request.valid = true) (fresh : ∀ step, ¬ Seen request u step)
    (shown : ∀ y ∈ history, eventValid y = true) {deliveries : List Delivery}
    (answers : ∀ delivery ∈ deliveries, Answers history delivery.state)
    (h : Replayed request u history v) :
    Replayed request u history (deliveries.foldl (deliver d worker request) v) := by
  induction deliveries generalizing v with
  | nil => exact h
  | cons first rest ih =>
    refine ih (fun delivery member => answers delivery (List.mem_cons_of_mem _ member)) ?_
    exact (deliver_delivered direct valid fresh shown (answers first List.mem_cons_self) h).1

end

/-- After any deliveries, of which the last meets no fault, every distinct event
of the history was told once, in order, and no further delivery tells anything. -/
def Complete (d : Deployment) (worker : WorkflowCallbackWorker)
    (request : TenantProvisioningWorkflowInput)
    (history : List TenantProvisioningRuntimeHistoryEvent) (u : World) : Prop :=
  ∀ (earlier : List Delivery) (last again : Delivery),
    (∀ x ∈ earlier, Answers history x.state) → Answers history last.state →
    Answers history again.state → last.faults = [] →
    let v := deliver d worker request (earlier.foldl (deliver d worker request) u) last
    List.Forall₂ (Tells request) (added u v) (firsts id history) ∧
      added v (deliver d worker request v again) = []

/-- A replayed history is told completely exactly where no step is reported
twice with something different. -/
theorem replay_complete_iff (d : Deployment) (worker : WorkflowCallbackWorker)
    (direct : worker.provisioningClients = false) (request : TenantProvisioningWorkflowInput)
    (valid : request.valid = true) (history : List TenantProvisioningRuntimeHistoryEvent)
    (shown : ∀ x ∈ history, eventValid x = true) (u : World) (h : u.outbox.Consistent)
    (fresh : ∀ step, ¬ Seen request u step) (unfinished : ¬ Ended request u) :
    Complete d worker request history u ↔
      ∀ x ∈ history, ∀ y ∈ history, x.step = y.step → x = y := by
  have start : Replayed request u history u := ⟨.start h, fun ended => absurd ended unfinished⟩
  constructor
  · intro complete
    let once : Delivery := ⟨0, [], {
      workflowId := request.workflowId
      tenantId := request.tenantId
      state := .completed
      history }⟩
    have answers : Answers history once.state := ⟨rfl, rfl⟩
    obtain ⟨distinct, _⟩ := complete [] once once (by rintro x ⟨⟩) answers answers rfl
    obtain ⟨replayed, _, seen⟩ := deliver_delivered (d := d) direct valid fresh shown answers start
    have steps := replayed.emitting.whole fresh (seen rfl)
    exact (firsts_eq_iff (·.step) history).mp (steps.length_eq.symm.trans distinct.length_eq)
  · intro apart earlier last again before answers later calm
    have replayed := deliveries_replayed (d := d) direct valid fresh shown before start
    obtain ⟨told, _, seen⟩ := deliver_delivered (d := d) direct valid fresh shown answers replayed
    obtain ⟨after, grown, _⟩ := deliver_delivered (d := d) direct valid fresh shown later told
    refine ⟨?_, told.emitting.settled fresh (seen calm) after.emitting grown⟩
    rw [← firsts_injective apart]
    exact told.emitting.whole fresh (seen calm)

def reported (step message : String) : TenantProvisioningRuntimeHistoryEvent :=
  { step, message, percent := none, occurredAt := "2026-01-01T00:00:00.000Z" }

theorem requested_fresh (step : String) : ¬ Seen provisioning requested.state step := by
  rintro ⟨e, ⟨⟩, _⟩

theorem requested_unfinished : ¬ Ended provisioning requested.state := by
  rintro ⟨run, found, terminal⟩
  have state : (requested.state.runs.find provisioning.tenantId provisioning.workflowId).any
      (·.state.terminal) = false := by decide
  rw [found, Option.any_some, terminal] at state
  cases state

def twoSteps : List TenantProvisioningRuntimeHistoryEvent :=
  [reported "zitadel_org" "created", reported "minio_bucket" "created"]

theorem two_steps_complete : Complete deployed verifying provisioning twoSteps requested.state :=
  (replay_complete_iff deployed verifying rfl provisioning (by decide) twoSteps
    (by decide) requested.state InMemoryOutboxRepository.empty_consistent requested_fresh
    requested_unfinished).mpr (by decide)

/-- A step that fails and is tried again. -/
def retriedStep : List TenantProvisioningRuntimeHistoryEvent :=
  [reported "minio_bucket" "connection refused", reported "minio_bucket" "created"]

theorem retried_step_lost :
    ¬ ∀ history : List TenantProvisioningRuntimeHistoryEvent, (∀ x ∈ history, eventValid x = true) →
      Complete deployed verifying provisioning history requested.state := by
  intro claim
  let once : Delivery := ⟨0, [], {
    workflowId := provisioning.workflowId
    tenantId := provisioning.tenantId
    state := .completed
    history := retriedStep }⟩
  have answers : Answers retriedStep once.state := ⟨rfl, rfl⟩
  obtain ⟨told, _⟩ := claim retriedStep (by decide) [] once once (by rintro x ⟨⟩) answers
    answers rfl
  have one : (added requested.state (deliver deployed verifying provisioning requested.state
      once)).length = 1 := by decide
  have two : (firsts id retriedStep).length = 2 := by decide
  have same := told.length_eq
  rw [two] at same
  exact absurd (one.symm.trans same) (by decide)

end VantGrowth.Proofs.HistoryReplays
