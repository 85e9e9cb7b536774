import Mathlib.Data.List.Perm.Subperm
import VantGrowth.Lib.Along
import VantGrowth.Proofs.DispatchAwaits
import VantGrowth.Proofs.PublisherLogs
import VantGrowth.Publisher.OutboxPublisherRunner

namespace VantGrowth.Proofs.SinglePublication
open Db Lib Lib.Leases Publisher Prog ActionSteps PublisherAwaits PublisherLogs PublisherSteps DispatchAwaits
open Store (Along)

/-- What NATS is sent for an event. -/
def message (e : StoredOutboxEvent) : String × Payload := (subjectOf e, e.payload)

/-- The stored events that are published rather than dispatched. -/
def relayed (o : InMemoryOutboxRepository) : List StoredOutboxEvent :=
  o.events.filter (·.eventType != externalActionOutboxEventType)

def served (o : InMemoryOutboxRepository) : List StoredOutboxEvent :=
  (relayed o).filter (·.consumedAt.isSome)

/-- Each message is that of an event of its own, but for `n` at most. -/
def Covered (n : Nat) (published : List (String × Payload)) (events : List StoredOutboxEvent) : Prop :=
  ∃ extra : List (String × Payload), extra.length ≤ n ∧ published.Subperm (events.map message ++ extra)

section
variable {n k : Nat} {published : List (String × Payload)} {events later : List StoredOutboxEvent}

theorem Covered.mono (h : Covered n published events)
    (more : (events.map message).Subperm (later.map message)) (bound : n ≤ k) : Covered k published later := by
  obtain ⟨extra, short, covers⟩ := h
  exact ⟨extra, short.trans bound, covers.trans ((List.subperm_append_right extra).mpr more)⟩

theorem messages_subperm (distinct : events.Nodup) (sub : events ⊆ later) :
    (events.map message).Subperm (later.map message) := by
  obtain ⟨some_, perm, part⟩ := List.subperm_of_subset distinct sub
  exact ⟨some_.map message, perm.map message, part.map message⟩

theorem Covered.again (h : Covered n published events) (m : String × Payload) :
    Covered (n + 1) (published ++ [m]) events := by
  obtain ⟨extra, short, covers⟩ := h
  refine ⟨extra ++ [m], by simpa using short, ?_⟩
  rw [← List.append_assoc]
  exact (List.subperm_append_right [m]).mpr covers

theorem Covered.publish (h : Covered n published events) (e : StoredOutboxEvent) :
    Covered n (published ++ [message e]) (events ++ [e]) := by
  obtain ⟨extra, short, covers⟩ := h
  refine ⟨extra, short, ?_⟩
  have swap : (events.map message ++ extra ++ [message e]).Perm ((events ++ [e]).map message ++ extra) := by
    rw [List.map_append, List.append_assoc, List.append_assoc]
    exact (List.perm_append_left_iff _).mpr List.perm_append_comm
  exact ((List.subperm_append_right [message e]).mpr covers).trans swap.subperm

/-- Events that are left out of account make for more failed calls. -/
theorem Covered.drop (h : Covered n published (events ++ later)) : Covered (n + later.length) published events := by
  obtain ⟨extra, short, covers⟩ := h
  refine ⟨later.map message ++ extra, by simp; omega, ?_⟩
  rwa [List.map_append, List.append_assoc] at covers

end

/-- Neither publishes nor marks an event. -/
def plain : Op → Bool
  | .publish _ _ | .markConsumed _ _ => false
  | _ => true

theorem plain_of_still (op : Op) (silent : still op = true) : plain op = true := by
  cases op with
  | publish subject payload => cases silent
  | markConsumed tenantId id => cases silent
  | _ => rfl

def SamePublished (w v : World) : Prop := v.published = w.published

instance : IsPreorder World SamePublished where
  refl _ := rfl
  trans _ _ _ first second := second.trans first

theorem onActions_published (call : Instant → ActionStore α) : Along SamePublished (onActions call) := by
  apply Along.bind (Along.read _)
  intro clock
  exact Along.zoom (R := fun _ _ => True) (fun _ => trivial) fun _ _ _ => rfl

theorem onIncidents_published (call : Instant → Store DbError IncidentStore α) :
    Along SamePublished (onIncidents call) := by
  apply Along.bind (Along.read _)
  intro clock
  exact Along.zoom (R := fun _ _ => True) (fun _ => trivial) fun _ _ _ => rfl

theorem onHealth_published (call : Instant → Store DbError ComponentHealthStore α) :
    Along SamePublished (onHealth call) := by
  apply Along.bind (Along.read _)
  intro clock
  exact Along.zoom (R := fun _ _ => True) (fun _ => trivial) fun _ _ _ => rfl

theorem withIncident_published {uuid : Supply} {phase : FailurePhase}
    {settled : Store PublisherError World (Option ExternalActionRecord)}
    (same : Along SamePublished settled) : Along SamePublished (withIncident uuid phase settled) := by
  apply Along.bind same
  intro row
  cases row with
  | none => exact Along.pure none
  | some action => exact (onIncidents_published _).bind fun _ => .pure _

theorem answerDispatch_published : Along SamePublished answerDispatch := by
  apply Along.bind (Along.read _)
  intro answer
  have same : ∀ w : World, SamePublished w { w with n8n := w.n8n.tail } := fun _ => rfl
  apply Along.bind (Along.modify same)
  intro _
  cases answer with
  | none => exact Along.throw _
  | some result => exact Along.pure result

section
variable {d : Deployment}

theorem exec_published (op : Op) (other : ∀ subject payload, op ≠ .publish subject payload) :
    Along (fun w v : Faulty World => SamePublished w.state v.state) (exec d op) := by
  cases op with
  | now => exact Along.sound (Along.read _)
  | publish subject payload => exact absurd rfl (other subject payload)
  | createIncident tenantId params => exact Along.faulty (onIncidents_published _)
  | recordHealth tenantId params => exact Along.faulty (onHealth_published _)
  | dispatch request => exact Along.faulty answerDispatch_published
  | failRow at_ input => exact Along.faulty (withIncident_published (onActions_published _))
  | outcomeRow at_ input =>
    exact Along.faulty (Along.ite (onActions_published _) (withIncident_published (onActions_published _)))
  | tick ms => exact Along.sound (Along.modify fun _ => rfl)
  | disturb faults => exact Along.modify fun _ => rfl
  | prepare answers => exact Along.sound (Along.modify fun _ => rfl)
  | _ => exact Along.faulty (onActions_published _)

/-- What everything but publishing and marking does to the world. -/
structure Calm (w v : World) : Prop where
  stored : Stored v.actions
  grows : Grows w.outbox v.outbox
  published : v.published = w.published

def Calmly (w v : Faulty World) : Prop := Stored w.state.actions → Calm w.state v.state

theorem calmly_refl (w : Faulty World) : Calmly w w := fun stored => ⟨stored, .refl _, rfl⟩

theorem calmly_trans (u v w : Faulty World) (first : Calmly u v) (second : Calmly v w) : Calmly u w := by
  intro stored
  have here := first stored
  have there := second here.stored
  exact ⟨there.stored, here.grows.trans there.grows, there.published.trans here.published⟩

theorem plain_calm (op : Op) (calm : plain op = true) (w : Faulty World) : Calmly w ((exec d op).run w).2 := by
  intro stored
  obtain ⟨next, _⟩ := exec_ends (d := d) op stored
  refine ⟨next.stored stored, ?_, exec_published op (by rintro _ _ rfl; cases calm) w⟩
  rcases next.outbox with grows | ⟨tenantId, id, rfl, _⟩
  · exact grows
  · cases calm

end

/-- Between the cycles. -/
def Rest (n : Nat) (w : Faulty World) : Prop :=
  Stored w.state.actions ∧ Covered n w.state.published (served w.state.outbox)

/-- All along. -/
def Always (n : Nat) (w : Faulty World) : Prop :=
  Stored w.state.actions ∧ Covered n w.state.published (relayed w.state.outbox)

/-- In the loop of a cycle: the events that were sent and are still to be marked,
and those that are still to be sent. -/
structure Draining (n : Nat) (sent pending : List StoredOutboxEvent) (w : World) : Prop where
  stored : Stored w.actions
  covered : Covered n w.published
    (served w.outbox ++ sent.filter (·.eventType != externalActionOutboxEventType))
  distinct : (sent ++ pending).Nodup
  waiting : ∀ e ∈ sent ++ pending, e ∈ w.outbox.events ∧ e.consumedAt = none

section
variable {d : Deployment} {n k : Nat} {sent pending : List StoredOutboxEvent} {w v : World}

theorem mem_relayed {o : InMemoryOutboxRepository} {e : StoredOutboxEvent} :
    e ∈ relayed o ↔ e ∈ o.events ∧ e.eventType ≠ externalActionOutboxEventType := by
  simp [relayed]

theorem mem_served {o : InMemoryOutboxRepository} {e : StoredOutboxEvent} :
    e ∈ served o ↔ e ∈ relayed o ∧ e.consumedAt ≠ none := by
  rw [served, List.mem_filter, Option.isSome_iff_ne_none]

theorem served_nodup {o : InMemoryOutboxRepository} (h : o.Consistent) : (served o).Nodup :=
  (h.events_nodup.filter _).filter _

theorem grows_mem {o p : InMemoryOutboxRepository} (h : o.Consistent) (grows : Grows o p) {e : StoredOutboxEvent}
    (member : e ∈ o.events) : e ∈ p.events :=
  (InsertionMap.mem_values _ e).mpr ⟨e.id, (grows h).2.1 e.id e (h.event member)⟩

theorem relayed_grows {o p : InMemoryOutboxRepository} (h : o.Consistent) (grows : Grows o p) :
    relayed o ⊆ relayed p := by
  intro e member
  obtain ⟨there, type⟩ := mem_relayed.mp member
  exact mem_relayed.mpr ⟨grows_mem h grows there, type⟩

theorem served_grows {o p : InMemoryOutboxRepository} (h : o.Consistent) (grows : Grows o p) :
    served o ⊆ served p := by
  intro e member
  obtain ⟨there, consumed⟩ := mem_served.mp member
  exact mem_served.mpr ⟨relayed_grows h grows there, consumed⟩

theorem Rest.mono {w : Faulty World} (h : Rest n w) (bound : n ≤ k) : Rest k w :=
  ⟨h.1, h.2.mono (List.Subperm.refl _) bound⟩

theorem Rest.calm {u v : Faulty World} (h : Rest n u) (calm : Calmly u v) : Rest n v := by
  obtain ⟨stored, grows, published⟩ := calm h.1
  refine ⟨stored, ?_⟩
  rw [published]
  exact h.2.mono (messages_subperm (served_nodup h.1.outbox) (served_grows h.1.outbox grows)) (Nat.le_refl _)

theorem Always.calm {u v : Faulty World} (h : Always n u) (calm : Calmly u v) : Always n v := by
  obtain ⟨stored, grows, published⟩ := calm h.1
  refine ⟨stored, ?_⟩
  rw [published]
  exact h.2.mono (messages_subperm (h.1.outbox.events_nodup.filter _) (relayed_grows h.1.outbox grows))
    (Nat.le_refl _)

theorem Rest.always {w : Faulty World} (h : Rest n w) : Always n w :=
  ⟨h.1, h.2.mono (messages_subperm (served_nodup h.1.outbox) fun _ member => List.mem_of_mem_filter member) (Nat.le_refl _)⟩

theorem Draining.calm (h : Draining n sent pending w) (calm : Calm w v) : Draining n sent pending v := by
  refine ⟨calm.stored, ?_, h.distinct, ?_⟩
  · rw [calm.published]
    refine h.covered.mono ?_ (Nat.le_refl _)
    rw [List.map_append, List.map_append]
    exact (List.subperm_append_right _).mpr
      (messages_subperm (served_nodup h.stored.outbox) (served_grows h.stored.outbox calm.grows))
  · intro e member
    obtain ⟨there, waits⟩ := h.waiting e member
    exact ⟨grows_mem h.stored.outbox calm.grows there, waits⟩

theorem Draining.rest {w : Faulty World} (h : Draining n [] pending w.state) : Rest n w := by
  refine ⟨h.stored, ?_⟩
  have covered := h.covered
  rwa [List.filter_nil, List.append_nil] at covered

theorem Draining.always {w : Faulty World} (h : Draining n sent pending w.state) : Always n w := by
  refine ⟨h.stored, h.covered.mono (messages_subperm ?_ ?_) (Nat.le_refl _)⟩
  · refine List.nodup_append.mpr ⟨served_nodup h.stored.outbox, (List.Nodup.of_append_left h.distinct).filter _, ?_⟩
    rintro e consumed e' member rfl
    exact (mem_served.mp consumed).2 (h.waiting e (List.mem_append_left _ (List.mem_of_mem_filter member))).2
  · intro e member
    rcases List.mem_append.mp member with consumed | waits
    · exact (mem_served.mp consumed).1
    · obtain ⟨there, type⟩ := List.mem_filter.mp waits
      exact mem_relayed.mpr ⟨(h.waiting e (List.mem_append_left _ there)).1, by simpa using type⟩

/-- Calls that neither publish nor mark leave a cycle where it is. -/
theorem plain_outline {m : Handler α} (only : Only (plain · = true) m) {w : Faulty World}
    (h : Draining n sent pending w.state) :
    Outline (exec d) Calmly Always (fun k x v => n ≤ k ∧ (∀ a, x = .ok a → k = n) ∧
      Draining n sent pending v.state) n m w := by
  induction m generalizing w with
  | done a => exact ⟨Nat.le_refl n, fun _ _ => rfl, h⟩
  | fail e => exact ⟨Nat.le_refl n, nofun, h⟩
  | call op next ih =>
    refine ⟨h.always, fun v moved => ?_⟩
    have here := h.calm (moved h.stored)
    have there := here.calm (plain_calm (d := d) op only.1 v here.stored)
    cases ((exec d op).run v).1 with
    | ok r => exact ih r (only.2 r) there
    | error e => exact ⟨Nat.le_succ n, nofun, there⟩

/-- The end of a part of a cycle. -/
def Ended (P : Nat → α → Faulty World → Prop) (k : Nat) (x : Except PublisherError α) (v : Faulty World) : Prop :=
  onAnswer (fun a => P k a v) (fun _ => Rest k v) x

theorem ended_bind {P : Nat → α → Faulty World → Prop} {Q : Nat → β → Faulty World → Prop} {m : Handler α}
    {f : α → Handler β} {w : Faulty World} (first : Outline (exec d) Calmly Always (Ended P) n m w)
    (next : ∀ k a v, P k a v → Outline (exec d) Calmly Always (Ended Q) k (f a) v) :
    Outline (exec d) Calmly Always (Ended Q) n (m >>= f) w :=
  outline_bind first (fun _ _ _ rest => rest) next

theorem plain_ended {m : Handler α} (only : Only (plain · = true) m) {w : Faulty World}
    (h : Draining n [] pending w.state) :
    Outline (exec d) Calmly Always (Ended fun k _ v => Draining k [] pending v.state) n m w := by
  refine outline_weaken (plain_outline only h) ?_
  rintro k x v ⟨bound, same, draining⟩
  cases x with
  | ok a =>
    rw [← same a rfl] at draining
    exact draining
  | error e => exact draining.rest.mono bound

theorem dispatchN8nAction_only (p : OutboxPublisher) (payload : Payload) :
    Only (plain · = true) (dispatchN8nAction d p payload) := by
  unfold dispatchN8nAction
  apply only_bind (only_require _ _)
  intro _
  apply only_bind (only_require _ _)
  intro _
  apply only_bind (only_require _ _)
  intro _
  apply only_bind ((parsed_only _).mono plain_of_still)
  intro request
  apply only_bind ((positiveMs_only _ _).mono plain_of_still)
  intro _
  apply only_bind ((claimDispatch_only _).mono plain_of_still)
  intro claim
  cases claim with
  | claimed a =>
    refine only_bind (only_perform rfl) fun (result : N8n.N8nDispatchResult) => ?_
    exact (settleDispatch_only p request result).mono plain_of_still
  | deferred a => exact only_pure _
  | in_flight a => exact only_pure _
  | settled a => exact only_pure _

/-- A message goes out whole, and its answer may be lost. -/
theorem publish_sent (subject : String) (payload : Payload) (w : Faulty World) :
    (exec d (.publish subject payload)).Ends w fun x v =>
      (v.state = w.state ∧ (∀ a, x ≠ .ok a)) ∨
        v.state = { w.state with published := w.state.published ++ [(subject, payload)] } := by
  have whole : (Store.modify fun w : World =>
      { w with published := w.published ++ [(subject, payload)] } : Store PublisherError World Unit).Ends w.state
        fun _ v => v = { w.state with published := w.state.published ++ [(subject, payload)] } := rfl
  refine Store.Ends.faulty whole ?_ ?_ ?_
  · exact fun _ _ _ done => Or.inr done
  · exact fun _ _ => Or.inl ⟨rfl, nofun⟩
  · exact fun _ _ _ _ done => Or.inr done

theorem publish_outline {e : StoredOutboxEvent} (type : e.eventType ≠ externalActionOutboxEventType)
    {w : Faulty World} (h : Draining n [] (e :: pending) w.state) :
    Outline (exec d) Calmly Always (Ended fun k _ v => Draining k [e] pending v.state) n
      (await (.publish (subjectOf e) e.payload)) w := by
  refine outline_perform h.always fun v moved => ?_
  have here := h.calm (moved h.stored)
  refine (publish_sent (subjectOf e) e.payload v).weaken ?_
  have covered := here.rest.2
  rintro x u (⟨same, failed⟩ | sent)
  · cases x with
    | ok a => exact absurd rfl (failed a)
    | error e => exact ⟨by rw [same]; exact here.stored, by rw [same]; exact covered.mono (List.Subperm.refl _) (Nat.le_succ n)⟩
  · cases x with
    | ok a =>
      have alone : [e].filter (·.eventType != externalActionOutboxEventType) = [e] := by simpa using type
      refine ⟨by rw [sent]; exact here.stored, ?_, here.distinct, ?_⟩
      · rw [alone, sent]
        exact covered.publish e
      · rw [sent]
        exact here.waiting
    | error _ =>
      refine ⟨by rw [sent]; exact here.stored, ?_⟩
      rw [sent]
      exact covered.again _

/-- A dispatched event is not one that is published. -/
theorem Draining.dispatched {e : StoredOutboxEvent} (type : e.eventType = externalActionOutboxEventType)
    (h : Draining n [] (e :: pending) w) : Draining n [e] pending w := by
  have none_ : [e].filter (·.eventType != externalActionOutboxEventType) = [] := by simpa using type
  refine ⟨h.stored, ?_, h.distinct, h.waiting⟩
  rw [none_]
  exact h.covered

theorem handleEvent_outline (p : OutboxPublisher) (e : StoredOutboxEvent) {w : Faulty World}
    (h : Draining n [] (e :: pending) w.state) :
    Outline (exec d) Calmly Always (Ended fun k disposition v =>
      match disposition with
      | .deferred => Draining k [] pending v.state
      | .consumed => Draining k [e] pending v.state) n (handleEvent d p e) w := by
  refine ended_bind (plain_ended ((persistOperationalState_only p e).mono plain_of_still) h) ?_
  intro k _ v here
  by_cases type : e.eventType = externalActionOutboxEventType
  · rw [if_pos type]
    refine outline_weaken (plain_ended (dispatchN8nAction_only p e.payload) here) ?_
    rintro k' x u settled
    cases x with
    | error _ => exact settled
    | ok disposition =>
      have draining : Draining k' [] (e :: pending) u.state := settled
      cases disposition with
      | consumed => exact draining.dispatched type
      | deferred =>
        exact ⟨draining.stored, draining.covered, draining.distinct.of_cons,
          fun e' member => draining.waiting e' (List.mem_cons_of_mem e member)⟩
  · rw [if_neg type]
    unfold tenantScopedSubject
    split
    · exact here.rest
    · split
      · exact here.rest
      · exact ended_bind (publish_outline type here) fun k' _ u sent => sent

/-- What marking one event makes of the others. -/
theorem consumes_served {o p : InMemoryOutboxRepository} {e : StoredOutboxEvent} (h : o.Consistent)
    (there : e ∈ o.events) (waits : e.consumedAt = none)
    (consumes : InMemoryOutboxRepository.Consumes e.tenantId e.id o p) :
    (∀ e' ∈ o.events, e'.id ≠ e.id → e' ∈ p.events) ∧ served o ⊆ served p ∧
      ∃ at_, { e with consumedAt := some at_ } ∈ p.events := by
  obtain ⟨e', at_, stored, _, set⟩ := consumes.event
  rw [h.event there] at stored
  cases stored
  have others : ∀ e' ∈ o.events, e'.id ≠ e.id → e' ∈ p.events := by
    intro e' member other
    refine (InsertionMap.mem_values _ e').mpr ⟨e'.id, ?_⟩
    rw [set, InsertionMap.get_set_other _ other]
    exact h.event member
  refine ⟨others, ?_, at_, ?_⟩
  · intro e' member
    obtain ⟨relayed_, consumed⟩ := mem_served.mp member
    obtain ⟨member', type⟩ := mem_relayed.mp relayed_
    have other : e'.id ≠ e.id := by
      intro same
      have found := h.event member'
      rw [same, h.event there] at found
      cases found
      exact consumed waits
    exact mem_served.mpr ⟨mem_relayed.mpr ⟨others e' member' other, type⟩, consumed⟩
  · refine (InsertionMap.mem_values _ _).mpr ⟨e.id, ?_⟩
    rw [set]
    exact InsertionMap.get_set_self _ _ _

theorem Draining.marked {e : StoredOutboxEvent} (h : Draining n [e] pending w) (stored : Stored v.actions)
    (published : v.published = w.published)
    (consumes : InMemoryOutboxRepository.Consumes e.tenantId e.id w.outbox v.outbox) :
    Draining n [] pending v := by
  obtain ⟨there, waits⟩ := h.waiting e List.mem_cons_self
  obtain ⟨others, kept, at_, marked⟩ := consumes_served h.stored.outbox there waits consumes
  have distinct : (e :: pending).Nodup := h.distinct
  refine ⟨stored, ?_, distinct.of_cons, ?_⟩
  · rw [published, List.filter_nil, List.append_nil]
    have covered := h.covered
    by_cases type : e.eventType = externalActionOutboxEventType
    · have none_ : [e].filter (·.eventType != externalActionOutboxEventType) = [] := by simpa using type
      rw [none_, List.append_nil] at covered
      exact covered.mono (messages_subperm (served_nodup h.stored.outbox) kept) (Nat.le_refl _)
    · have alone : [e].filter (·.eventType != externalActionOutboxEventType) = [e] := by simpa using type
      rw [alone] at covered
      have same : (served w.outbox ++ [e]).map message =
          (served w.outbox ++ [{ e with consumedAt := some at_ }]).map message := by
        rw [List.map_append, List.map_append]
        rfl
      refine covered.mono ?_ (Nat.le_refl _)
      rw [same]
      refine messages_subperm ?_ ?_
      · refine List.nodup_append.mpr ⟨served_nodup h.stored.outbox, by simp, ?_⟩
        rintro e' consumed e'' member rfl
        rw [List.mem_singleton.mp member] at consumed
        have found := h.stored.outbox.event (mem_relayed.mp (mem_served.mp consumed).1).1
        rw [h.stored.outbox.event there] at found
        have same := congrArg StoredOutboxEvent.consumedAt (Option.some.inj found)
        rw [waits] at same
        cases same
      · intro e' member
        rcases List.mem_append.mp member with consumed | now
        · exact kept consumed
        · rw [List.mem_singleton.mp now]
          exact mem_served.mpr ⟨mem_relayed.mpr ⟨marked, type⟩, nofun⟩
  · intro e' member
    obtain ⟨there', waits'⟩ := h.waiting e' (List.mem_cons_of_mem e member)
    refine ⟨others e' there' ?_, waits'⟩
    intro same
    have found := h.stored.outbox.event there'
    rw [same, h.stored.outbox.event there] at found
    cases found
    exact (List.nodup_cons.mp distinct).1 member

theorem mark_outline {e : StoredOutboxEvent} {w : Faulty World} (h : Draining n [e] pending w.state) :
    Outline (exec d) Calmly Always (Ended fun k _ v => Draining k [] pending v.state) n
      (await (.markConsumed e.tenantId e.id)) w := by
  refine outline_perform h.always fun v moved => ?_
  have here := h.calm (moved h.stored)
  have published := exec_published (d := d) (.markConsumed e.tenantId e.id) nofun v
  have ends : (exec d (.markConsumed e.tenantId e.id)).Ends v fun x u =>
      (Next d (.markConsumed e.tenantId e.id) v.state u.state ∧
        Tells (.markConsumed e.tenantId e.id) v.state u.state x) ∧ SamePublished v.state u.state :=
    ⟨exec_ends (.markConsumed e.tenantId e.id) here.stored, published⟩
  refine ends.weaken ?_
  rintro x u ⟨⟨next, told⟩, published⟩
  have stored := next.stored here.stored
  have waits := here.waiting e List.mem_cons_self
  have consumes : Grows v.state.outbox u.state.outbox ∨
      InMemoryOutboxRepository.Consumes e.tenantId e.id v.state.outbox u.state.outbox := by
    rcases next.outbox with grows | ⟨tenantId, id, same, consumes⟩
    · exact Or.inl grows
    · cases same
      exact Or.inr consumes
  cases x with
  | ok _ =>
    rcases consumes with grows | consumes
    · obtain ⟨e', found, consumed⟩ : u.state.outbox.Consumed e.id := told
      have kept := (grows here.stored.outbox).2.1 e.id e (here.stored.outbox.event waits.1)
      rw [found] at kept
      cases kept
      exact absurd waits.2 consumed
    · exact here.marked stored published consumes
  | error _ =>
    have kept : served v.state.outbox ⊆ served u.state.outbox := by
      rcases consumes with grows | consumes
      · exact served_grows here.stored.outbox grows
      · exact (consumes_served here.stored.outbox waits.1 waits.2 consumes).2.1
    refine ⟨stored, ?_⟩
    rw [published]
    refine here.covered.drop.mono (messages_subperm (served_nodup here.stored.outbox) kept) ?_
    exact Nat.add_le_add_left (List.length_filter_le _ _) n

theorem drainEvent_outline (p : OutboxPublisher) (e : StoredOutboxEvent) {w : Faulty World}
    (h : Draining n [] (e :: pending) w.state) :
    Outline (exec d) Calmly Always (Ended fun k _ v => Draining k [] pending v.state) n (drainEvent d p e) w := by
  refine ended_bind (handleEvent_outline p e h) ?_
  intro k disposition v handled
  cases disposition with
  | deferred => exact handled
  | consumed => exact ended_bind (mark_outline handled) fun k' _ u marked => marked

theorem drainEvents_outline (p : OutboxPublisher) (pending : List StoredOutboxEvent) (count : Nat)
    {w : Faulty World} (h : Draining n [] pending w.state) :
    Outline (exec d) Calmly Always (Ended fun k _ v => Rest k v) n (drainEvents d p pending count) w := by
  induction pending generalizing n count w with
  | nil => exact h.rest
  | cons e pending ih => exact ended_bind (drainEvent_outline p e h) fun k _ v draining => ih _ draining

/-- What is listed waits in the outbox. -/
theorem Rest.listed {w : Faulty World} (h : Rest n w) (tenantId : String) (limit : Nat) :
    Draining n [] (w.state.outbox.listUnconsumed tenantId limit) w.state := by
  refine ⟨h.1, ?_, h.1.outbox.listed_nodup tenantId limit, ?_⟩
  · rw [List.filter_nil, List.append_nil]
    exact h.2
  · intro e member
    obtain ⟨there, _, waits⟩ := InMemoryOutboxRepository.mem_listUnconsumed member
    exact ⟨there, waits⟩

theorem publishPendingForTenant_outline (p : OutboxPublisher) (tenantId : String) (limit : Nat)
    {w : Faulty World} (h : Rest n w) :
    Outline (exec d) Calmly Always (Ended fun k _ v => Rest k v) n
      (publishPendingForTenant d p tenantId limit) w := by
  have listed : Outline (exec d) Calmly Always
      (Ended fun k (pending : List StoredOutboxEvent) v => Draining k [] pending v.state) n
      (await (.listUnconsumed tenantId limit)) w := by
    refine outline_perform h.always fun v moved => ?_
    have here := h.calm moved
    have ends : (exec d (.listUnconsumed tenantId limit)).Ends v fun x u =>
        Tells (.listUnconsumed tenantId limit) v.state u.state x ∧ Calm v.state u.state :=
      ⟨(exec_ends (.listUnconsumed tenantId limit) here.1).2,
        plain_calm (.listUnconsumed tenantId limit) rfl v here.1⟩
    refine ends.weaken ?_
    rintro x u ⟨told, calm⟩
    cases x with
    | ok pending =>
      have same : pending = v.state.outbox.listUnconsumed tenantId limit := told
      rw [same]
      exact (here.listed tenantId limit).calm calm
    | error e => exact ((here.listed tenantId limit).calm calm).rest.mono (Nat.le_succ n)
  exact ended_bind listed fun k pending v draining => drainEvents_outline p pending 0 draining

theorem publishCycle_outline (p : OutboxPublisher) (tenantIds : List String) (limit : Nat) {w : Faulty World}
    (h : Rest n w) :
    Outline (exec d) Calmly Always (Ended fun k _ v => Rest k v) n (publishCycle d p tenantIds limit) w := by
  unfold publishCycle
  generalize (⟨0, .empty⟩ : PublishCycleResult) = result
  induction tenantIds generalizing n result w with
  | nil => exact h
  | cons tenantId tenantIds ih =>
    exact ended_bind (publishPendingForTenant_outline p tenantId limit h) fun k count v rest => ih rest _

section
variable {config : CycleLeaseConfig}

/-- A cycle that holds the lease keeps what is between the cycles. -/
def Keeps (d : Deployment) (p : Process (List CycleReport)) : Prop :=
  ∀ n w, Rest n w → Keeping (exec d) Calmly Always Rest n p w

theorem closing_obeys {t : Standing} {n : Nat} {e : PublisherError} {f : Except PublisherError α → Process (List CycleReport)}
    (session : t.session = some n)
    (later : ∀ x, Obeys config.advisoryLockKey (plain · = true) (Keeps d) (.closed n) (f x)) :
    Obeys config.advisoryLockKey (plain · = true) (Keeps d) t (rollBack n e >>= f) := by
  refine ⟨session, fun x => ?_⟩
  cases x with
  | ok _ => exact later _
  | error e' => exact later _

theorem ending_obeys {t : Standing} {n : Nat} {x : Except PublisherError α}
    {f : Except PublisherError α → Process (List CycleReport)} (session : t.session = some n)
    (later : ∀ x, Obeys config.advisoryLockKey (plain · = true) (Keeps d) (.closed n) (f x)) :
    Obeys config.advisoryLockKey (plain · = true) (Keeps d) t (endTransaction n x >>= f) := by
  cases x with
  | error e => exact closing_obeys session later
  | ok a =>
    refine ⟨session, fun y => ?_⟩
    cases y with
    | ok _ => exact later _
    | error e => exact closing_obeys rfl later

/-- However the transaction ends, what is kept outlives the lease. -/
theorem ending_keeps {n k : Nat} {x : Except PublisherError α} {f : Except PublisherError α → Process (List CycleReport)}
    {w : Faulty World} (h : Rest k w) :
    Keeping (exec d) Calmly Always Rest k (endTransaction n x >>= f) w := by
  cases x with
  | ok a => exact h
  | error e => exact h

theorem leadCycle_eq (r : OutboxPublisherRunner) (guarded : r.leaseGuard = some config) :
    leadCycle d r = (awaitLease .begin >>= fun session =>
      awaitLease (.tryLock session config.advisoryLockKey) >>= fun acquired =>
        ifAcquired (owned (publishingCycle d r)) acquired >>= fun result =>
          endTransaction session result >>= fun result =>
            awaitLease (.leave r.id) >>= fun _ => pure (reportCycle r result)) := by
  unfold leadCycle guardedCycle
  rw [guarded]
  simp only [runWithLease, transaction, Prog.bind_assoc]

theorem leaving_obeys {n : Nat} (r : OutboxPublisherRunner) (x : Except PublisherError (Option PublishCycleResult)) :
    Obeys config.advisoryLockKey (plain · = true) (Keeps d) (.closed n)
      (awaitLease (.leave r.id) >>= fun _ => pure (reportCycle r x)) := by
  have open_ : ¬ (Standing.closed n).Locked := by
    rintro ⟨_, ⟨⟩⟩
  exact ⟨open_, fun _ => open_⟩

theorem acquired_eq (r : OutboxPublisherRunner)
    (f : Except PublisherError (Option PublishCycleResult) → Process (List CycleReport)) :
    ifAcquired (owned (publishingCycle d r)) (.ok true) >>= f =
      owned (publishingCycle d r) >>= fun result => f (result.map some) :=
  Prog.bind_assoc _ _ _

theorem acquired_keeps (r : OutboxPublisherRunner) {n : Nat} {w : Faulty World} (h : Rest n w)
    {f : Except PublisherError (Option PublishCycleResult) → Process (List CycleReport)}
    (later : ∀ k v x, Rest k v → Keeping (exec d) Calmly Always Rest k (f x) v) :
    Keeping (exec d) Calmly Always Rest n (ifAcquired (owned (publishingCycle d r)) (.ok true) >>= f) w := by
  rw [acquired_eq]
  refine keeping_owned (outline_weaken (publishCycle_outline r.publisher r.tenantIds _ h) ?_)
  intro k x v ended
  have rests : Rest k v := by
    cases x with
    | ok a => exact ended
    | error e => exact ended
  exact later k v _ rests

theorem acquired_obeys (r : OutboxPublisherRunner) {n : Nat} (acquired : Except PublisherError Bool)
    {f : Except PublisherError (Option PublishCycleResult) → Process (List CycleReport)}
    (later : ∀ t x, t.session = some n → Obeys config.advisoryLockKey (plain · = true) (Keeps d) t (f x)) :
    Obeys config.advisoryLockKey (plain · = true) (Keeps d) ((Standing.opened n).tried n acquired)
      (ifAcquired (owned (publishingCycle d r)) acquired >>= f) := by
  rcases acquired with e | acquired
  · exact later _ _ rfl
  · cases acquired with
    | false => exact later _ _ rfl
    | true =>
      rw [acquired_eq]
      exact obeys_owned fun x => later _ _ rfl

theorem runCycle_obeys (r : OutboxPublisherRunner) (guarded : r.leaseGuard = some config) :
    Obeys config.advisoryLockKey (plain · = true) (Keeps d) .idle (runCycle d r) := by
  have outside_ : ¬ Standing.idle.Locked := by
    rintro ⟨_, ⟨⟩⟩
  have leads : Obeys config.advisoryLockKey (plain · = true) (Keeps d) .idle (leadCycle d r) := by
    rw [leadCycle_eq r guarded]
    refine ⟨rfl, fun session => ⟨rfl, rfl, ?_, fun acquired => ?_⟩⟩
    · exact fun n w rest => acquired_keeps r rest fun k v x rests => ending_keeps rests
    · exact acquired_obeys r acquired fun t x own => ending_obeys own fun y => leaving_obeys r y
  refine ⟨outside_, fun cycleInFlight => ?_⟩
  cases cycleInFlight with
  | true => exact outside_
  | false => exact leads

theorem handler_only (s : Start) (direct : s.direct = true) :
    Only (plain · = true) (s.handler d) := by
  have calls {α : Type} {m : Handler α} (only : Only (still · = true) m) :
      Only (plain · = true) (m >>= fun _ => pure ()) :=
    only_bind (only.mono plain_of_still) fun _ => only_pure ()
  cases s with
  | publishCycle p tenantIds limit => cases direct
  | claimDispatch input => exact calls (claimDispatch_only input)
  | recordDispatchAccepted input => exact calls (recordDispatchAccepted_only input)
  | scheduleDispatchRetry input => exact calls (scheduleDispatchRetry_only input)
  | failDispatch input => exact calls (failDispatch_only input)
  | recordOutcome input => exact calls (recordOutcome_only input)

/-- Every program of a fleet publishes under the lease only. -/
theorem launch_obeys (w : Faulty World) (s : FleetStart) (p : Process (List CycleReport))
    (launched : launch d config w s = some p) :
    Obeys config.advisoryLockKey (plain · = true) (Keeps d) .idle p := by
  have outside_ : ¬ Standing.idle.Locked := by
    rintro ⟨_, ⟨⟩⟩
  cases s with
  | runCycle r =>
    simp only [launch] at launched
    split at launched
    · rename_i guarded
      cases launched
      exact runCycle_obeys r guarded
    · cases launched
  | call s =>
    simp only [launch] at launched
    split at launched
    · rename_i admitted
      cases launched
      exact obeys_freed outside_ (handler_only s admitted.1) fun _ => outside_
    · cases launched

theorem outside_plain (op : Op) (allowed : outside op = true) : plain op = true := by
  cases op with
  | publish subject payload => cases allowed
  | markConsumed tenantId id => cases allowed
  | _ => rfl

theorem fresh_rest (clock : Instant) : Rest 0 (fresh clock) := ⟨empty_stored, [], Nat.le_refl _, List.nil_subperm⟩

end

end

/-- Where every runner holds the same lease while it publishes and no session is
lost, NATS gets no event twice but for the calls that failed in between: all
messages but as many are those of stored events, each of an event of its own. -/
theorem events_published_once (d : Deployment) (config : CycleLeaseConfig) (clock : Instant)
    (labels : List (Machine.Label (LeaseOp Op) FleetStart))
    (up : (runs (fleet d config).step (Leases.start (fresh clock)) labels).state.lost = []) :
    ∃ extra : List (String × Payload),
      extra.length ≤ mishaps (runs (fleet d config).step (Leases.start (fresh clock)) labels).log ∧
      (runs (fleet d config).step (Leases.start (fresh clock)) labels).state.state.state.published.Subperm
        ((relayed (runs (fleet d config).step (Leases.start (fresh clock)) labels).state.state.state.outbox).map
          message ++ extra) := by
  obtain ⟨n, bound, _, extra, short, covers⟩ := sections_keep calmly_refl calmly_trans
    (fun op w calm => plain_calm (d := d) op calm w) (fun _ _ _ rest moved => rest.calm moved)
    (fun _ _ _ always moved => always.calm moved) (fun _ _ rest => rest.always) launch_obeys outside_plain
    (fresh_rest clock) labels up
  exact ⟨extra, short.trans bound, covers⟩

def replica (id : Nat) : OutboxPublisherRunner where
  id
  publisher
  tenantIds := [acme]
  batchSizePerTenant := 10
  leaseGuard := some {}

/-- The first cycle cannot mark its event while a second runner gets no lease;
a third cycle publishes it again. -/
def contended : List (Machine.Label (LeaseOp Op) FleetStart) :=
  [.outside (.free (.enqueue
      { tenantId := acme, eventType := "signal.recorded.v1", idempotencyKey := "s-1", payload := [] })),
    .outside (.free (.disturb [none, none, some ⟨"closed", false⟩])),
    .spawn (.runCycle (replica 0)), .spawn (.runCycle (replica 1))] ++
  List.replicate 4 (.run 0) ++ List.replicate 5 (.run 1) ++ List.replicate 4 (.run 0) ++
  [.spawn (.runCycle (replica 0))] ++ List.replicate 8 (.run 2)

theorem contended_published_once :
    let c := runs (fleet (deployed .postgres) {}).step (Leases.start (fresh 0)) contended
    c.state.state.state.published.length = 2 ∧ mishaps c.log = 1 ∧
    ∃ extra : List (String × Payload), extra.length ≤ mishaps c.log ∧
      c.state.state.state.published.Subperm ((relayed c.state.state.state.outbox).map message ++ extra) := by
  have ran : (runs (fleet (deployed .postgres) {}).step (Leases.start (fresh 0)) contended).state.lost = [] ∧
      (runs (fleet (deployed .postgres) {}).step (Leases.start (fresh 0)) contended).state.state.state.published.length
        = 2 ∧
      mishaps (runs (fleet (deployed .postgres) {}).step (Leases.start (fresh 0)) contended).log = 1 := by
    decide +kernel
  exact ⟨ran.2.1, ran.2.2, events_published_once (deployed .postgres) {} 0 contended ran.1⟩

/-- The cycles of a fleet that loses no session follow one another: the calls of
the first, then those of the second, and so on. -/
theorem cycles_in_turn (d : Deployment) (config : CycleLeaseConfig) (clock : Instant)
    (labels : List (Machine.Label (LeaseOp Op) FleetStart))
    (up : (runs (fleet d config).step (Leases.start (fresh clock)) labels).state.lost = []) :
    ∃ blocks : List (Nat × Nat), (blocks.map Prod.fst).Nodup ∧
      owners (runs (fleet d config).step (Leases.start (fresh clock)) labels).log = inTurn blocks :=
  sections_ordered launch_obeys outside_plain (fresh clock) labels up

theorem contended_in_turn :
    let c := runs (fleet (deployed .postgres) {}).step (Leases.start (fresh 0)) contended
    owners c.log = [0, 0, 0, 2, 2, 2] ∧
    ∃ blocks : List (Nat × Nat), (blocks.map Prod.fst).Nodup ∧ owners c.log = inTurn blocks := by
  have ran : (runs (fleet (deployed .postgres) {}).step (Leases.start (fresh 0)) contended).state.lost = [] ∧
      owners (runs (fleet (deployed .postgres) {}).step (Leases.start (fresh 0)) contended).log =
        [0, 0, 0, 2, 2, 2] := by decide +kernel
  exact ⟨ran.2, cycles_in_turn (deployed .postgres) {} 0 contended ran.1⟩

end VantGrowth.Proofs.SinglePublication
