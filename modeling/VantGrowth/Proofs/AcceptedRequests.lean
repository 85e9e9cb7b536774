import VantGrowth.Proofs.CallbackRetries
import VantGrowth.Proofs.RequestedEvents

namespace VantGrowth.Proofs.AcceptedRequests
open Core Db Db.WorkflowRunStore Lib Lib.Prog Workflow WorkflowSteps RequestedEvents

/-- A POST, some milliseconds after the one before. -/
abbrev Request := Nat × TenantProvisioningWorkflowInput

def post (d : Deployment) (r : Request) : Store WorkflowError (Faulty World) StoredOutboxEvent :=
  exec d (.tick r.1) >>= fun _ => runAlone (exec d) (requestProvisioning d r.2)

/-- The world after the requests were served one after another. -/
def serve (d : Deployment) (w : Faulty World) (requests : List Request) : Faulty World :=
  runs (fun w r => ((post d r).run w).2) w requests

def fresh (clock : Instant) : Faulty World := ⟨⟨clock, .empty, .empty, [], []⟩, []⟩

/-- The outbox holds an event that can start a workflow. -/
def Startable (w : World) (tenantId workflowId : String) : Prop :=
  ∃ e ∈ w.outbox.events, e.tenantId = tenantId ∧ e.eventType = requestedType ∧
    e.payload.text "workflow_id" = some workflowId

/-- Every accepted request can be started, and so can every run that waits. -/
structure AllStartable (d : Deployment) (clock : Instant) (requests : List Request) : Prop where
  accepted : ∀ a r b event v, requests = a ++ r :: b →
    (post d r).run (serve d (fresh clock) a) = (.ok event, v) →
      Startable (serve d (fresh clock) requests).state r.2.tenantId r.2.workflowId
  recorded : ∀ run ∈ (serve d (fresh clock) requests).state.runs.runs.values,
    run.state = .requested →
      Startable (serve d (fresh clock) requests).state run.tenantId run.workflowId

/-- A valid request of a tenant under a dedupe key. -/
def keyed (tenantId dedupeKey : String) (r : Request) : Bool :=
  r.2.valid && r.2.tenantId == tenantId && r.2.dedupeKey == dedupeKey

/-- For every workflow some dedupe key was first used for it. -/
def Covered (requests : List Request) : Prop :=
  ∀ r ∈ requests, r.2.valid = true → ∃ dedupeKey first,
    requests.find? (keyed r.2.tenantId dedupeKey) = some first ∧ first.2.workflowId = r.2.workflowId

section
variable {d : Deployment} {w : World} {input : TenantProvisioningWorkflowInput}

theorem requestedEvent_valid (valid : input.valid = true) (now : Instant) :
    (requestedEvent now input).valid = true := by
  simp only [TenantProvisioningWorkflowInput.valid, Bool.and_eq_true] at valid
  have type : isOutboxEventType requestedType = true := by decide
  simp [EnqueueOutboxEvent.valid, requestedEvent, valid.1.1.1.1.1, valid.1.1.1.2, type]

/-- A valid request is recorded; every other run is one that was there. -/
theorem upsert_ends (valid : input.valid = true) (now : Instant) (s : WorkflowRunStore) :
    (d.choose
      (InMemoryWorkflowRunRepository.upsertRequested d.uuid now input.tenantId input.workflowId
        input.dedupeKey)
      (PostgresWorkflowRunRepository.upsertRequested d.uuid now input.tenantId input.workflowId
        input.dedupeKey)).Ends s fun x t => (∃ run, x = .ok run) ∧
      ∀ run ∈ t.runs.values, run ∈ s.runs.values ∨
        run.tenantId = input.tenantId ∧ run.workflowId = input.workflowId := by
  have fields := valid
  simp only [TenantProvisioningWorkflowInput.valid, Bool.and_eq_true] at fields
  have fits : acceptable input.tenantId input.workflowId input.dedupeKey = true := by
    simp [acceptable, fields.1.1.1.1.1, fields.1.1.1.1.2, fields.1.1.1.2]
  have stored : ∀ run : WorkflowRun, run.tenantId = input.tenantId → run.workflowId = input.workflowId →
      ∀ old ∈ (s.runs.set (key input.tenantId input.workflowId) run).values,
        old ∈ s.runs.values ∨ old.tenantId = input.tenantId ∧ old.workflowId = input.workflowId := by
    intro run tenant workflow old member
    obtain ⟨k, found⟩ := (InsertionMap.mem_values _ old).mp member
    rw [InsertionMap.get_set] at found
    split at found
    · cases found
      exact Or.inr ⟨tenant, workflow⟩
    · exact Or.inl ((InsertionMap.mem_values _ old).mpr ⟨k, found⟩)
  refine choose_ends (Store.Ends.read_bind ?_) ?_
  · split
    · exact Store.Ends.pure ⟨⟨_, rfl⟩, fun run => Or.inl⟩
    · refine Store.Ends.modify_bind (Store.Ends.read_bind (Store.Ends.require_bind
        (fun refused => absurd fits refused) fun _ => Store.Ends.modify_bind (Store.Ends.pure ?_)))
      exact ⟨⟨_, rfl⟩, stored _ rfl rfl⟩
  · refine Store.Ends.require_bind (fun refused => absurd fields.1.1.1.1.1 refused) fun _ => ?_
    refine Store.Ends.transaction (R := fun x t => (∃ run, x = .ok run) ∧
      ∀ run ∈ t.runs.values, run ∈ s.runs.values ∨
        run.tenantId = input.tenantId ∧ run.workflowId = input.workflowId)
      (Store.Ends.read_bind ?_) (fun _ _ => id) ?_
    · split
      · exact Store.Ends.pure ⟨⟨_, rfl⟩, fun run => Or.inl⟩
      · refine Store.Ends.modify_bind (Store.Ends.read_bind (Store.Ends.modify_bind
          (Store.Ends.require_bind (fun refused => absurd fits refused) fun _ => Store.Ends.pure ?_)))
        exact ⟨⟨_, rfl⟩, stored _ rfl rfl⟩
    · rintro e t ⟨⟨run, ⟨⟩⟩, _⟩

/-- The event of a request was put to the outbox and the runs left alone. -/
structure Emitted (w : World) (input : TenantProvisioningWorkflowInput)
    (x : Except WorkflowError StoredOutboxEvent) (v : Faulty World) : Prop where
  answered : ∃ event, x = .ok event
  calm : v.faults = []
  runs : v.state.runs = w.runs
  sends : InMemoryOutboxRepository.Sends (requestedEvent w.clock input) w.outbox v.state.outbox

theorem emit_ends (valid : input.valid = true) (h : w.outbox.Consistent) :
    (runAlone (exec d) (emit fun now => createTenantProvisioningWorkflowOutboxCommand now input)).Ends
      ⟨w, []⟩ (Emitted w input) := by
  have built : createTenantProvisioningWorkflowOutboxCommand w.clock input =
      .ok (requestedEvent w.clock input) := if_pos valid
  have put : (exec d (.enqueue (requestedEvent w.clock input))).Ends ⟨w, []⟩ (Emitted w input) := by
    refine Store.Ends.calm (onOutbox_ends (InMemoryOutboxRepository.enqueue_sends h w.clock
      (requestedEvent_valid valid w.clock))) ?_
    rintro x v ⟨y, ⟨⟨event, rfl⟩, sends⟩, rfl, same⟩
    exact ⟨⟨event, rfl⟩, rfl, by rw [same], sends⟩
  unfold Store.Ends at put ⊢
  rw [CallbackRetries.emit_run built]
  exact put

/-- With no fault in store a valid request is accepted: its event is put to the
outbox and its run recorded, where runs are recorded. -/
theorem requested_ends (configured : d.outboxRepository = true) (valid : input.valid = true)
    (h : w.outbox.Consistent) :
    (runAlone (exec d) (requestProvisioning d input)).Ends ⟨w, []⟩ fun x v =>
      (∃ event, x = .ok event) ∧ v.faults = [] ∧
      InMemoryOutboxRepository.Sends (requestedEvent w.clock input) w.outbox v.state.outbox ∧
      ∀ run ∈ v.state.runs.runs.values, run ∈ w.runs.runs.values ∨
        run.tenantId = input.tenantId ∧ run.workflowId = input.workflowId := by
  unfold requestProvisioning require
  rw [if_pos configured, if_pos valid]
  by_cases recorded : d.workflowRunRepository = true
  · rw [if_pos recorded]
    refine Store.Ends.bind (R := fun x v => (∃ run, x = .ok run) ∧ v.faults = [] ∧
      v.state.clock = w.clock ∧ v.state.outbox = w.outbox ∧
      ∀ run ∈ v.state.runs.runs.values, run ∈ w.runs.runs.values ∨
        run.tenantId = input.tenantId ∧ run.workflowId = input.workflowId) ?_ ?_ ?_
    · refine Store.Ends.calm (onRuns_ends (upsert_ends valid w.clock w.runs)) ?_
      rintro x v ⟨y, ⟨⟨run, rfl⟩, kept⟩, rfl, same⟩
      exact ⟨⟨run, rfl⟩, rfl, by rw [same], by rw [same], kept⟩
    · rintro e v ⟨⟨run, ⟨⟩⟩, _⟩
    · rintro run ⟨v, faults⟩ ⟨_, rfl, clock, outbox, kept⟩
      refine (emit_ends valid (outbox ▸ h)).weaken ?_
      rintro x u emitted
      refine ⟨emitted.answered, emitted.calm, ?_, emitted.runs ▸ kept⟩
      have sends := emitted.sends
      rwa [outbox, clock] at sends
  · rw [if_neg recorded]
    refine (emit_ends valid h).weaken fun x v emitted => ?_
    exact ⟨emitted.answered, emitted.calm, emitted.sends, fun run member => Or.inl (emitted.runs ▸ member)⟩

/-- A request that is not valid is refused and changes nothing. -/
theorem refused_run (invalid : ¬ input.valid = true) (v : Faulty World) :
    ∃ e, (runAlone (exec d) (requestProvisioning d input)).run v = (.error e, v) := by
  unfold requestProvisioning require
  by_cases configured : d.outboxRepository = true
  · rw [if_pos configured, if_neg invalid]
    exact ⟨_, rfl⟩
  · rw [if_neg configured]
    exact ⟨_, rfl⟩

/-- What the requests served so far left behind: an event for every tenant and
dedupe key, that of the first request with them. -/
structure Served (done : List Request) (v : Faulty World) : Prop where
  calm : v.faults = []
  consistent : v.state.outbox.Consistent
  events : ∀ e ∈ v.state.outbox.events, ∃ now r,
    done.find? (keyed e.tenantId e.idempotencyKey) = some r ∧
      e.toEnqueueOutboxEvent = requestedEvent now r.2
  covered : ∀ r ∈ done, r.2.valid = true → ∃ e ∈ v.state.outbox.events,
    e.tenantId = r.2.tenantId ∧ e.idempotencyKey = r.2.dedupeKey
  runs : ∀ run ∈ v.state.runs.runs.values, ∃ r ∈ done, r.2.valid = true ∧
    run.tenantId = r.2.tenantId ∧ run.workflowId = r.2.workflowId

theorem fresh_served (clock : Instant) : Served [] (fresh clock) :=
  ⟨rfl, InMemoryOutboxRepository.empty_consistent, by rintro e ⟨⟩, by rintro r ⟨⟩, by rintro run ⟨⟩⟩

theorem post_run (r : Request) (v : Faulty World) :
    (post d r).run v = (runAlone (exec d) (requestProvisioning d r.2)).run
      { v with state := { v.state with clock := v.state.clock + r.1 } } := rfl

theorem find_grows {done : List Request} {p : Request → Bool} {r first : Request}
    (found : done.find? p = some first) : (done ++ [r]).find? p = some first := by
  rw [List.find?_append, found]
  rfl

/-- A step of the invariant: the first request of a key makes its event. -/
theorem served_step (configured : d.outboxRepository = true) {done : List Request} {v : Faulty World}
    (h : Served done v) (r : Request) :
    Served (done ++ [r]) ((post d r).run v).2 ∧
      (r.2.valid = true ↔ ∃ event, ((post d r).run v).1 = .ok event) := by
  obtain ⟨w, faults⟩ := v
  obtain rfl : faults = [] := h.calm
  rw [post_run]
  by_cases valid : r.2.valid = true
  · obtain ⟨answered, calm, sends, runs⟩ := requested_ends (d := d)
      (w := { w with clock := w.clock + r.1 }) configured valid h.consistent
    refine ⟨⟨calm, sends.consistent, ?_, ?_, ?_⟩, iff_of_true valid answered⟩
    · intro e member
      have old : e ∈ w.outbox.events → ∃ now first,
          (done ++ [r]).find? (keyed e.tenantId e.idempotencyKey) = some first ∧
            e.toEnqueueOutboxEvent = requestedEvent now first.2 := by
        intro stored
        obtain ⟨now, first, found, same⟩ := h.events e stored
        exact ⟨now, first, find_grows found, same⟩
      rcases sends.events with ⟨same, _⟩ | ⟨new, grown, command, _, unkeyed⟩
      · exact old (same ▸ member)
      · rw [grown] at member
        rcases List.mem_append.mp member with stored | now
        · exact old stored
        · cases List.mem_singleton.mp now
          refine ⟨_, r, ?_, command⟩
          have named : e.tenantId = r.2.tenantId ∧ e.idempotencyKey = r.2.dedupeKey :=
            ⟨congrArg EnqueueOutboxEvent.tenantId command,
              congrArg EnqueueOutboxEvent.idempotencyKey command⟩
          have unseen : done.find? (keyed e.tenantId e.idempotencyKey) = none := by
            refine List.find?_eq_none.mpr fun q member hit => ?_
            simp only [keyed, Bool.and_eq_true, beq_iff_eq] at hit
            obtain ⟨other, stored, tenant, key⟩ := h.covered q member hit.1.1
            obtain ⟨_, _, _, same⟩ := h.events other stored
            refine unkeyed other stored ⟨tenant.trans (hit.1.2.trans named.1), ?_,
              key.trans (hit.2.trans named.2)⟩
            show other.eventType = requestedType
            exact congrArg EnqueueOutboxEvent.eventType same
          rw [List.find?_append, unseen]
          simp [keyed, valid, named]
    · intro q member hq
      have keeps : ∀ e ∈ w.outbox.events, e ∈ ((runAlone (exec d) (requestProvisioning d r.2)).run
          ⟨{ w with clock := w.clock + r.1 }, []⟩).2.state.outbox.events := by
        intro e stored
        rcases sends.events with ⟨same, _⟩ | ⟨new, grown, _⟩
        · rw [same]
          exact stored
        · rw [grown]
          exact List.mem_append_left _ stored
      rcases List.mem_append.mp member with earlier | now
      · obtain ⟨e, stored, named⟩ := h.covered q earlier hq
        exact ⟨e, keeps e stored, named⟩
      · cases List.mem_singleton.mp now
        rcases sends.events with ⟨_, e, stored, same⟩ | ⟨e, grown, command, _⟩
        · exact ⟨e, keeps e stored, same.1, same.2.2⟩
        · refine ⟨e, ?_, congrArg EnqueueOutboxEvent.tenantId command,
            congrArg EnqueueOutboxEvent.idempotencyKey command⟩
          rw [grown]
          exact List.mem_append_right _ (List.mem_singleton_self e)
    · intro run member
      rcases runs run member with old | new
      · obtain ⟨q, earlier, hq⟩ := h.runs run old
        exact ⟨q, List.mem_append_left _ earlier, hq⟩
      · exact ⟨r, List.mem_append_right _ (List.mem_singleton_self r), valid, new⟩
  · obtain ⟨e, run⟩ := refused_run (d := d) valid ⟨{ w with clock := w.clock + r.1 }, []⟩
    rw [run]
    refine ⟨⟨rfl, h.consistent, ?_, ?_, ?_⟩, iff_of_false valid (by rintro ⟨event, ⟨⟩⟩)⟩
    · intro e stored
      obtain ⟨now, first, found, same⟩ := h.events e stored
      exact ⟨now, first, find_grows found, same⟩
    · intro q member hq
      rcases List.mem_append.mp member with earlier | now
      · exact h.covered q earlier hq
      · cases List.mem_singleton.mp now
        exact absurd hq valid
    · intro run member
      obtain ⟨q, earlier, hq⟩ := h.runs run member
      exact ⟨q, List.mem_append_left _ earlier, hq⟩

theorem served (configured : d.outboxRepository = true) (clock : Instant) (requests : List Request) :
    Served requests (serve d (fresh clock) requests) := by
  induction requests using List.reverseRecOn with
  | nil => exact fresh_served clock
  | append_singleton requests r ih =>
    unfold serve at ih ⊢
    rw [runs_append]
    exact (served_step configured ih r).1

/-- The event of a tenant and dedupe key names the workflow it was first used
for. -/
theorem Served.startable {done : List Request} {v : Faulty World} (h : Served done v)
    (tenantId workflowId : String) :
    Startable v.state tenantId workflowId ↔ ∃ dedupeKey first,
      done.find? (keyed tenantId dedupeKey) = some first ∧ first.2.workflowId = workflowId := by
  constructor
  · rintro ⟨e, stored, rfl, _, named⟩
    obtain ⟨now, first, found, same⟩ := h.events e stored
    refine ⟨e.idempotencyKey, first, found, ?_⟩
    have payload := congrArg EnqueueOutboxEvent.payload same
    rw [payload] at named
    exact Option.some.inj named
  · rintro ⟨dedupeKey, first, found, rfl⟩
    have hit := List.find?_some found
    simp only [keyed, Bool.and_eq_true, beq_iff_eq] at hit
    obtain ⟨e, stored, tenant, key⟩ := h.covered first (List.mem_of_find?_eq_some found) hit.1.1
    obtain ⟨now, r, again, same⟩ := h.events e stored
    rw [tenant, key, hit.1.2, hit.2, found] at again
    cases again
    refine ⟨e, stored, tenant.trans hit.1.2, congrArg EnqueueOutboxEvent.eventType same, ?_⟩
    have payload := congrArg EnqueueOutboxEvent.payload same
    rw [payload]
    rfl

/-- Requests for provisioning are all answered with an event of their own
exactly where each workflow was the first to use some dedupe key. -/
theorem accepted_requests_startable_iff (d : Deployment) (configured : d.outboxRepository = true)
    (clock : Instant) (requests : List Request) :
    AllStartable d clock requests ↔ Covered requests := by
  have final := served configured clock requests
  constructor
  · intro all r member valid
    obtain ⟨a, b, rfl⟩ := List.append_of_mem member
    obtain ⟨event, answered⟩ := (served_step configured (served configured clock a) r).2.mp valid
    exact (final.startable _ _).mp (all.accepted a r b event _ rfl (Prod.ext answered rfl))
  · intro covered
    refine ⟨?_, ?_⟩
    · intro a r b event v split answered
      have valid := (served_step configured (served configured clock a) r).2.mpr
        ⟨event, congrArg Prod.fst answered⟩
      exact (final.startable _ _).mpr (covered r (split ▸ by simp) valid)
    · intro run member _
      obtain ⟨r, there, valid, tenant, workflow⟩ := final.runs run member
      rw [tenant, workflow]
      exact (final.startable _ _).mpr (covered r there valid)

end

def deployment : Deployment where
  backend := .postgres
  uuid := ProposalLifecycle.countedUuids
  hmac _ _ := ""
  jsonParse _ := none
  zodMessage := ""

/-- Two workflows of a tenant that were requested under one dedupe key. -/
def shared : List Request := [(0, onboarding "key-1"), (5, { onboarding "key-1" with workflowId := "wf-2" })]

/-- The second of them, requested again under a key of its own. -/
def repaired : List Request := shared ++ [(5, { onboarding "key-2" with workflowId := "wf-2" })]

theorem repaired_startable : AllStartable deployment 0 repaired := by
  refine (accepted_requests_startable_iff deployment rfl 0 repaired).mpr ?_
  have covered : ∀ r ∈ repaired, ((repaired.find? (keyed r.2.tenantId "key-1")).any
      (·.2.workflowId == r.2.workflowId) || (repaired.find? (keyed r.2.tenantId "key-2")).any
        (·.2.workflowId == r.2.workflowId)) = true := by decide
  intro r member _
  have used : ∀ key, (repaired.find? (keyed r.2.tenantId key)).any
      (·.2.workflowId == r.2.workflowId) = true → ∃ dedupeKey first,
        repaired.find? (keyed r.2.tenantId dedupeKey) = some first ∧
          first.2.workflowId = r.2.workflowId := by
    intro key hit
    cases found : repaired.find? (keyed r.2.tenantId key) with
    | none => simp [found] at hit
    | some first => exact ⟨key, first, found, by simpa [found] using hit⟩
  rcases Bool.or_eq_true_iff.mp (covered r member) with first | second
  · exact used "key-1" first
  · exact used "key-2" second

theorem shared_key_not_startable : ¬ ∀ requests, AllStartable deployment 0 requests := by
  intro all
  have second := (all shared).accepted [(0, onboarding "key-1")]
    (5, { onboarding "key-1" with workflowId := "wf-2" }) [] _ _ rfl rfl
  obtain ⟨e, stored, _, _, named⟩ := second
  have others : (serve deployment (fresh 0) shared).state.outbox.events.all
      (fun e => e.payload.text "workflow_id" == some "wf-1") = true := by decide
  have first := List.all_eq_true.mp others e stored
  rw [named] at first
  cases first

end VantGrowth.Proofs.AcceptedRequests
