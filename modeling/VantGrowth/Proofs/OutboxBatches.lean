import VantGrowth.Proofs.PublisherLogs

namespace VantGrowth.Proofs.OutboxBatches
open Db Lib Publisher Prog ActionSteps PublisherSteps PublisherAwaits PublisherLogs

/-- The program with nothing else in between. -/
abbrev alone (d : Deployment) (m : Handler α) : Store PublisherError (Faulty World) α :=
  runAlone (exec d) m

/-- Nothing but the events in `ids` was consumed, and nothing was put back. -/
structure Marks (ids : Nat → Prop) (w v : Faulty World) : Prop where
  stays : ∀ id, w.state.outbox.Consumed id → v.state.outbox.Consumed id
  only : ∀ id, v.state.outbox.Consumed id → w.state.outbox.Consumed id ∨ ids id

section
variable {d : Deployment} {p : OutboxPublisher} {event : StoredOutboxEvent} {ids : Nat → Prop}
  {u v w : Faulty World}

theorem Marks.refl (w : Faulty World) : Marks ids w w := ⟨fun _ h => h, fun _ h => Or.inl h⟩

theorem Marks.trans (first : Marks ids u v) (second : Marks ids v w) : Marks ids u w := by
  refine ⟨fun id h => second.stays id (first.stays id h), fun id h => ?_⟩
  rcases second.only id h with before | now
  · exact first.only id before
  · exact Or.inr now

theorem Marks.imp {ids' : Nat → Prop} (marks : Marks ids u v) (sub : ∀ id, ids id → ids' id) :
    Marks ids' u v :=
  ⟨marks.stays, fun id h => (marks.only id h).imp_right (sub id)⟩

theorem Marks.none (marks : Marks (fun _ => False) u v) (id : Nat)
    (h : v.state.outbox.Consumed id) : u.state.outbox.Consumed id :=
  (marks.only id h).resolve_right False.elim

theorem exec_marks (op : Op) (h : Stored w.state.actions) :
    (exec d op).Ends w fun x v => (Stored v.state.actions ∧
      Marks (fun id => ∃ tenantId, op = .markConsumed tenantId id) w v) ∧
      Tells op w.state v.state x := by
  refine (exec_ends (d := d) op h).weaken ?_
  rintro x v ⟨next, tells⟩
  have stored := next.stored h
  refine ⟨⟨stored, ?_⟩, tells⟩
  rcases next.outbox with grows | ⟨tenantId, id, rfl, consumes⟩
  · obtain ⟨_, keeps, unread⟩ := grows h.outbox
    refine ⟨fun id ⟨e, found, consumed⟩ => ⟨e, keeps id e found, consumed⟩, ?_⟩
    rintro id ⟨e, found, consumed⟩
    rcases unread e ((InsertionMap.mem_values _ e).mpr ⟨id, found⟩) with old | new
    · obtain ⟨i, there⟩ := (InsertionMap.mem_values _ e).mp old
      obtain ⟨rfl, _⟩ := stored.outbox.stored id e found
      obtain ⟨rfl, _⟩ := h.outbox.stored i e there
      exact Or.inl ⟨e, there, consumed⟩
    · exact absurd new consumed
  · obtain ⟨e', at_, found', owner, set⟩ := consumes.event
    refine ⟨?_, ?_⟩
    · rintro i ⟨e, found, consumed⟩
      by_cases same : i = id
      · subst same
        exact ⟨_, by rw [set]; exact InsertionMap.get_set_self _ _ _, by simp⟩
      · refine ⟨e, ?_, consumed⟩
        rw [set]
        exact (InsertionMap.get_set_other _ same _).trans found
    · rintro i ⟨e, found, consumed⟩
      by_cases same : i = id
      · subst same
        exact Or.inr ⟨tenantId, rfl⟩
      · rw [set, InsertionMap.get_set_other _ same] at found
        exact Or.inl ⟨e, found, consumed⟩

/-- A program that marks only events in `ids`. -/
theorem alone_marks {h : List (Did Res)} {Q : List (Did Res) → α → Prop} {m : Handler α}
    (meets : Meets (fun _ op => ∀ tenantId id, op = .markConsumed tenantId id → ids id) Q h m)
    (stored : Stored w.state.actions) :
    (alone d m).Ends w fun x v => Stored v.state.actions ∧ Marks ids w v ∧
      ∀ a, x = .ok a → ∃ k, Q k a := by
  refine runAlone_ends (I := fun w => Stored w.state.actions) (R := Marks ids) .refl
    (fun _ _ _ => .trans) ?_ meets stored
  intro h op w allowed stored
  refine (exec_marks op stored).weaken ?_
  rintro x v ⟨⟨stored, marks⟩, _⟩
  refine ⟨stored, marks.imp ?_⟩
  rintro id ⟨tenantId, rfl⟩
  exact allowed tenantId id rfl

/-- Any start that is no cycle. -/
def direct : Start := .claimDispatch ⟨⟨"", "", ""⟩, "", .nan, none⟩

theorem meets_marking {h : List (Did Res)} {Q : List (Did Res) → α → Prop} {m : Handler α}
    (meets : Meets (Asks d direct) Q h m) :
    Meets (fun _ op => ∀ tenantId id, op = .markConsumed tenantId id → False) Q h m := by
  refine meets_ops meets ?_
  rintro k op asks tenantId id rfl
  obtain ⟨_, _, _, _, cycle, _⟩ := asks
  cases cycle

theorem handleEvent_marking {h : List (Did Res)} :
    Meets (fun _ op => ∀ tenantId id, op = .markConsumed tenantId id → False)
      (fun _ disposition => event.eventType ≠ externalActionOutboxEventType →
        disposition = .consumed) h (handleEvent d p event) := by
  refine meets_bind (meets_marking persistOperationalState_meets) fun k _ _ => ?_
  refine meets_ite (fun dispatch => ?_) fun other => ?_
  · refine meets_weaken (meets_marking (dispatchN8nAction_meets event.payload)) ?_
    exact fun _ _ _ other => absurd dispatch other
  · refine meets_bind (tenantScopedSubject_meets _ _) fun k subject _ => ?_
    refine meets_perform_bind (by rintro tenantId id ⟨⟩) fun _ => meets_pure fun _ => rfl

theorem handleEvent_ends (stored : Stored w.state.actions) :
    (alone d (handleEvent d p event)).Ends w fun x v => Stored v.state.actions ∧
      Marks (fun _ => False) w v ∧ ∀ disposition, x = .ok disposition →
        event.eventType ≠ externalActionOutboxEventType → disposition = .consumed := by
  refine (alone_marks (h := []) handleEvent_marking stored).weaken ?_
  rintro x v ⟨stored, marks, answer⟩
  refine ⟨stored, marks, fun disposition ok => ?_⟩
  obtain ⟨_, told⟩ := answer disposition ok
  exact told

theorem drainEvent_ends (stored : Stored w.state.actions) :
    (alone d (drainEvent d p event)).Ends w fun x v => Stored v.state.actions ∧
      Marks (· = event.id) w v ∧ ∀ b, x = .ok b →
        event.eventType ≠ externalActionOutboxEventType → v.state.outbox.Consumed event.id := by
  unfold alone drainEvent
  rw [runAlone_bind]
  refine Store.Ends.bind (handleEvent_ends stored) ?_ ?_
  · rintro e v ⟨stored, marks, _⟩
    exact ⟨stored, marks.imp fun _ h => h.elim, by rintro b ⟨⟩⟩
  · rintro disposition v ⟨stored, marks, answer⟩
    have marks : Marks (· = event.id) w v := marks.imp fun _ h => h.elim
    cases disposition with
    | deferred =>
      refine Store.Ends.pure ⟨stored, marks, fun _ _ other => ?_⟩
      cases answer .deferred rfl other
    | consumed =>
      refine Store.Ends.bind (exec_marks (.markConsumed event.tenantId event.id) stored) ?_ ?_
      · rintro e x ⟨⟨stored, more⟩, _⟩
        refine ⟨stored, marks.trans (more.imp ?_), by rintro b ⟨⟩⟩
        rintro id ⟨tenantId, same⟩
        cases same
        rfl
      · rintro r x ⟨⟨stored, more⟩, told⟩
        refine Store.Ends.pure ⟨stored, marks.trans (more.imp ?_), fun _ _ _ => told⟩
        rintro id ⟨tenantId, same⟩
        cases same
        rfl

theorem drainEvents_ends (pending : List StoredOutboxEvent) (count : Nat)
    (stored : Stored w.state.actions) :
    (alone d (drainEvents d p pending count)).Ends w fun x v => Stored v.state.actions ∧
      Marks (fun id => ∃ e ∈ pending, e.id = id) w v ∧ ∀ n, x = .ok n → ∀ e ∈ pending,
        e.eventType ≠ externalActionOutboxEventType → v.state.outbox.Consumed e.id := by
  induction pending generalizing w count with
  | nil => exact Store.Ends.pure ⟨stored, .refl w, by simp⟩
  | cons event pending ih =>
    have first : ∀ id, id = event.id → ∃ e ∈ event :: pending, e.id = id := by
      rintro id rfl
      exact ⟨event, List.mem_cons_self, rfl⟩
    unfold alone drainEvents
    rw [runAlone_bind]
    refine Store.Ends.bind (drainEvent_ends stored) ?_ ?_
    · rintro e v ⟨stored, marks, _⟩
      exact ⟨stored, marks.imp first, by rintro n ⟨⟩⟩
    · rintro consumed v ⟨stored, marks, answer⟩
      refine (ih (count + consumed.toNat) stored).weaken ?_
      rintro x t ⟨stored, more, rest⟩
      refine ⟨stored, (marks.imp first).trans (more.imp ?_), ?_⟩
      · rintro id ⟨e, member, same⟩
        exact ⟨e, List.mem_cons_of_mem event member, same⟩
      · intro n ok e member other
        rcases List.mem_cons.mp member with rfl | later
        · exact more.stays _ (answer consumed rfl other)
        · exact rest n ok e later other

theorem stored_reached (d : Deployment) (clock : Instant) (labels : List (Machine.Label Op Start)) :
    Stored (runs (machine d).step (Machine.initial (fresh clock)) labels).state.state.actions := by
  rw [(runs_valid d clock labels).2]
  exact stored_after _

/-- A computation that is known to end so. -/
theorem ran {m : Store PublisherError (Faulty World) α} {Q : Except PublisherError α → Faulty World → Prop}
    {x : Except PublisherError α} (ends : m.Ends u Q) (run : m.run u = (x, v)) : Q x v := by
  unfold Store.Ends at ends
  rwa [run] at ends

/-- An event other than a dispatch request waits in the outbox of the tenant. -/
structure Waiting (w : World) (tenantId : String) (e : StoredOutboxEvent) : Prop where
  stored : e ∈ w.outbox.events
  owner : e.tenantId = tenantId
  unconsumed : e.consumedAt = none
  other : e.eventType ≠ externalActionOutboxEventType

theorem listUnconsumed_answer {tenantId : String} {limit : Nat} (stored : Stored w.state.actions) :
    (exec d (.listUnconsumed tenantId limit)).Ends w fun x v => Stored v.state.actions ∧
      Marks (fun _ => False) w v ∧ ∀ pending, x = .ok pending →
        pending = w.state.outbox.listUnconsumed tenantId limit := by
  refine (exec_marks (.listUnconsumed tenantId limit) stored).weaken ?_
  rintro x v ⟨⟨stored, marks⟩, told⟩
  refine ⟨stored, marks.imp (by rintro id ⟨tenantId, ⟨⟩⟩), ?_⟩
  rintro pending rfl
  exact told

theorem publishPendingForTenant_ends {tenantId : String} {limit : Nat}
    (stored : Stored w.state.actions) :
    (alone d (publishPendingForTenant d p tenantId limit)).Ends w fun x v =>
      Stored v.state.actions ∧
      Marks (fun id => ∃ e ∈ w.state.outbox.listUnconsumed tenantId limit, e.id = id) w v ∧
      ∀ n, x = .ok n → ∀ e ∈ w.state.outbox.listUnconsumed tenantId limit,
        e.eventType ≠ externalActionOutboxEventType → v.state.outbox.Consumed e.id := by
  refine Store.Ends.bind (listUnconsumed_answer stored) ?_ ?_
  · rintro e v ⟨stored, marks, _⟩
    exact ⟨stored, marks.imp fun _ h => h.elim, by rintro n ⟨⟩⟩
  · rintro pending v ⟨stored, marks, answer⟩
    obtain rfl := answer pending rfl
    refine (drainEvents_ends _ 0 stored).weaken ?_
    rintro x t ⟨stored, more, rest⟩
    exact ⟨stored, (marks.imp fun _ h => h.elim).trans more, rest⟩

/-- A call that returns consumes an event other than a dispatch request exactly
where the batch it lists holds one. -/
theorem batch_progress_iff (d : Deployment) (clock : Instant)
    (labels : List (Machine.Label Op Start)) (p : OutboxPublisher) (tenantId : String) (limit n : Nat)
    (v : Faulty World)
    (returned : (alone d (publishPendingForTenant d p tenantId limit)).run
      (runs (machine d).step (Machine.initial (fresh clock)) labels).state = (.ok n, v)) :
    let w := (runs (machine d).step (Machine.initial (fresh clock)) labels).state.state
    (∃ e, Waiting w tenantId e ∧ v.state.outbox.Consumed e.id) ↔
      ∃ e ∈ w.outbox.listUnconsumed tenantId limit, e.eventType ≠ externalActionOutboxEventType := by
  have stored := stored_reached d clock labels
  intro w
  obtain ⟨_, marks, rest⟩ := ran (publishPendingForTenant_ends stored) returned
  constructor
  · rintro ⟨e, waiting, consumed⟩
    have found : w.outbox.eventsById.get e.id = some e := stored.outbox.event waiting.stored
    rcases marks.only e.id consumed with ⟨e', found', before⟩ | ⟨e', member, same⟩
    · rw [found] at found'
      cases found'
      exact absurd waiting.unconsumed before
    · have found' : w.outbox.eventsById.get e'.id = some e' :=
        stored.outbox.event (InMemoryOutboxRepository.mem_listUnconsumed member).1
      rw [same, found] at found'
      cases found'
      exact ⟨e, member, waiting.other⟩
  · rintro ⟨e, member, other⟩
    obtain ⟨there, owner, unconsumed⟩ := InMemoryOutboxRepository.mem_listUnconsumed member
    exact ⟨e, ⟨there, owner, unconsumed, other⟩, rest n rfl e member other⟩

end

def updated : EnqueueOutboxEvent :=
  { tenantId := acme, eventType := "learning.playbook.updated.v1", idempotencyKey := "v2",
    payload := [] }

/-- A first cycle leaves the dispatch of `ping` waiting for its retry; another
event is behind it. -/
def retryAhead : List (Machine.Label Op Start) :=
  [.outside (.enqueueRequested ping), .outside (.enqueue updated),
    .outside (.prepare [.failure (some 503) (.ofString "unavailable") true]),
    .spawn (.publishCycle publisher [acme] 1)] ++ turns 0 4

theorem deferred_head_starves :
    let w := (runs (machine (deployed .inMemory)).step (Machine.initial (fresh 0)) retryAhead).state
    (∃ e, Waiting w.state acme e) ∧
    ¬ ∀ n v, (alone (deployed .inMemory)
        (publishPendingForTenant (deployed .inMemory) publisher acme 1)).run w = (.ok n, v) →
      ∃ e, Waiting w.state acme e ∧ v.state.outbox.Consumed e.id := by
  intro w
  have ran : w.state.outbox.events.any (fun e => e.tenantId == acme && e.consumedAt == none &&
        e.eventType != externalActionOutboxEventType) = true ∧
      ((alone (deployed .inMemory) (publishPendingForTenant (deployed .inMemory) publisher
        acme 1)).run w).1 = .ok 0 ∧
      ((alone (deployed .inMemory) (publishPendingForTenant (deployed .inMemory) publisher
        acme 1)).run w).2.state.outbox.events.all (·.consumedAt == none) = true := by
    decide +kernel
  obtain ⟨waiting, returned, untouched⟩ := ran
  refine ⟨?_, fun claim => ?_⟩
  · obtain ⟨e, member, fits⟩ := List.any_eq_true.mp waiting
    simp only [Bool.and_eq_true, beq_iff_eq, bne_iff_ne] at fits
    exact ⟨e, member, fits.1.1, fits.1.2, fits.2⟩
  · obtain ⟨e, _, e', found, consumed⟩ := claim 0 _ (Prod.ext returned rfl)
    have unread := List.all_eq_true.mp untouched e' ((InsertionMap.mem_values _ e').mpr ⟨_, found⟩)
    exact consumed (by simpa using unread)

/-- With room for two the batch reaches past the waiting dispatch. -/
theorem wider_batch_progress :
    let w := (runs (machine (deployed .inMemory)).step (Machine.initial (fresh 0)) retryAhead).state
    ∃ e, Waiting w.state acme e ∧ ((alone (deployed .inMemory) (publishPendingForTenant
      (deployed .inMemory) publisher acme 2)).run w).2.state.outbox.Consumed e.id := by
  intro w
  have ran : ((alone (deployed .inMemory)
        (publishPendingForTenant (deployed .inMemory) publisher acme 2)).run w).1 = .ok 1 ∧
      (w.state.outbox.listUnconsumed acme 2).any
        (fun e => e.eventType != externalActionOutboxEventType) = true := by decide +kernel
  obtain ⟨returned, listed⟩ := ran
  refine (batch_progress_iff (deployed .inMemory) 0 retryAhead publisher acme 2 1 _
    (Prod.ext returned rfl)).mpr ?_
  simpa using listed

end VantGrowth.Proofs.OutboxBatches
