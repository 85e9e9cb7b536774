import Mathlib.Data.List.Sort
import VantGrowth.Db.Contracts
import VantGrowth.Lib.InsertionMap
import VantGrowth.Lib.Store
import VantGrowth.Lib.Text

namespace VantGrowth.Db
open Lib Lib.Text

/-- What a repository operation throws. -/
inductive DbError where
  /-- A schema refused its input. -/
  | zod
  /-- `ExternalActionNotFoundError` -/
  | notFound (message : String)
  /-- `ExternalActionConflictError` -/
  | conflict (message : String)
  /-- `ExternalActionStateError` -/
  | state (message : String)
  /-- A plain `Error`. -/
  | error (message : String)
  /-- A `RangeError` of the runtime. -/
  | range
deriving DecidableEq

def outboxIdempotencyKey (command : EnqueueOutboxEvent) : String :=
  join command.tenantId (join command.eventType command.idempotencyKey)

structure InMemoryOutboxRepository where
  eventsById : InsertionMap Nat StoredOutboxEvent
  idsByIdempotencyKey : InsertionMap String Nat
  sequence : Nat

namespace InMemoryOutboxRepository

def empty : InMemoryOutboxRepository := ⟨.empty, .empty, 0⟩

/-- The stored events, oldest first. -/
def events (o : InMemoryOutboxRepository) : List StoredOutboxEvent := o.eventsById.values

/-- The row a new command becomes; ids count up from one. -/
def newEvent (o : InMemoryOutboxRepository) (clock : Instant) (command : EnqueueOutboxEvent) :
    StoredOutboxEvent :=
  { command with id := o.sequence + 1, createdAt := clock, consumedAt := none }

def insert (o : InMemoryOutboxRepository) (event : StoredOutboxEvent) :
    InMemoryOutboxRepository where
  eventsById := o.eventsById.set event.id event
  idsByIdempotencyKey :=
    o.idsByIdempotencyKey.set (outboxIdempotencyKey event.toEnqueueOutboxEvent) event.id
  sequence := event.id

/-- `clock` is the value `new Date()` has during the call. -/
def enqueue (clock : Instant) (command : EnqueueOutboxEvent) :
    Store DbError InMemoryOutboxRepository StoredOutboxEvent := do
  Store.require (command.valid = true) .zod
  match ← Store.read (·.idsByIdempotencyKey.get (outboxIdempotencyKey command)) with
  | some existingId =>
    match ← Store.read (·.eventsById.get existingId) with
    | some existing => return existing
    | none =>
      Store.throw (.error ("Outbox idempotency index is corrupt for " ++ decimal existingId))
  | none =>
    let event ← Store.read (·.newEvent clock command)
    Store.modify (·.insert event)
    return event

def markConsumed (tenantId : String) (eventId : Nat) (consumedAt : Instant) :
    Store DbError InMemoryOutboxRepository StoredOutboxEvent := do
  match ← Store.read (·.eventsById.get eventId) with
  | none => Store.throw (.error ("Outbox event not found: " ++ decimal eventId))
  | some event =>
    Store.require (event.tenantId = tenantId)
      (.error ("Outbox event not found for tenant: " ++ decimal eventId))
    let consumed := { event with consumedAt := some consumedAt }
    Store.modify fun o => { o with eventsById := o.eventsById.set eventId consumed }
    return consumed

/-- Event ids count up in insertion order, so the sort by id keeps the order
of `events`. -/
def listUnconsumed (o : InMemoryOutboxRepository) (tenantId : String) (limit : Nat) :
    List StoredOutboxEvent :=
  ((o.events.filter fun e => e.tenantId == tenantId && e.consumedAt.isNone).insertionSort
    (fun a b => a.id ≤ b.id)).take limit

/-- Newest first. -/
def listByEventType (o : InMemoryOutboxRepository) (tenantId eventType : String) (limit : Nat) :
    List StoredOutboxEvent :=
  ((o.events.filter fun e => e.tenantId == tenantId && e.eventType == eventType).insertionSort
    (fun a b => b.id ≤ a.id)).take limit

theorem mem_listUnconsumed {o : InMemoryOutboxRepository} {tenantId : String} {limit : Nat}
    {e : StoredOutboxEvent} (listed : e ∈ o.listUnconsumed tenantId limit) :
    e ∈ o.events ∧ e.tenantId = tenantId ∧ e.consumedAt = none := by
  have sorted := (List.perm_insertionSort _ _).subset (List.take_subset _ _ listed)
  simpa using sorted

/-- The unique index of the outbox table: tenant, event type and key. -/
def SameKey (e : StoredOutboxEvent) (command : EnqueueOutboxEvent) : Prop :=
  e.tenantId = command.tenantId ∧ e.eventType = command.eventType ∧
    e.idempotencyKey = command.idempotencyKey

/-- The two maps agree: every index entry names a stored event of that key and
every stored event is indexed. Stored events passed their schema. -/
structure Consistent (o : InMemoryOutboxRepository) : Prop where
  indexed : ∀ k i, o.idsByIdempotencyKey.get k = some i →
    ∃ e, o.eventsById.get i = some e ∧ outboxIdempotencyKey e.toEnqueueOutboxEvent = k
  stored : ∀ i e, o.eventsById.get i = some e →
    e.id = i ∧ i ≤ o.sequence ∧ e.valid = true ∧
      o.idsByIdempotencyKey.get (outboxIdempotencyKey e.toEnqueueOutboxEvent) = some i

theorem empty_consistent : empty.Consistent :=
  ⟨by simp [empty], by simp [empty]⟩

theorem event_type_no_colon {s : String} (h : isOutboxEventType s = true) : ':' ∉ s.toList := by
  intro hc
  have hr : ':' ∈ s.toList.reverse := List.mem_reverse.mpr hc
  rw [← List.takeWhile_append_dropWhile (p := Char.isDigit) (l := s.toList.reverse)] at hr
  dsimp only [isOutboxEventType] at h
  split at h
  · rename_i d ds name ht hd
    rw [hd] at hr
    simp only [Bool.and_eq_true, List.all_eq_true] at h
    rcases List.mem_append.mp hr with hm | hm
    · exact absurd (List.all_eq_true.mp List.all_takeWhile ':' hm) (by decide)
    · simp only [List.mem_cons] at hm
      rcases hm with he | he | hm
      · exact absurd he (by decide)
      · exact absurd he (by decide)
      · exact absurd (h.2 ':' hm) (by decide)
  · cases h

/-- Equal composed keys of valid commands have equal parts. -/
theorem key_parts {c d : EnqueueOutboxEvent} (hc : c.valid = true) (hd : d.valid = true)
    (h : outboxIdempotencyKey c = outboxIdempotencyKey d) :
    c.tenantId = d.tenantId ∧ c.eventType = d.eventType ∧
      c.idempotencyKey = d.idempotencyKey := by
  simp only [EnqueueOutboxEvent.valid, Bool.and_eq_true] at hc hd
  obtain ⟨ht, hr⟩ := join_inj (uuid_no_colon hc.1.1) (uuid_no_colon hd.1.1) h
  obtain ⟨hy, hk⟩ := join_inj (event_type_no_colon hc.1.2) (event_type_no_colon hd.1.2) hr
  exact ⟨ht, hy, hk⟩

theorem Consistent.fresh_id {o : InMemoryOutboxRepository} (h : o.Consistent) :
    o.eventsById.get (o.sequence + 1) = none := by
  cases hg : o.eventsById.get (o.sequence + 1) with
  | none => rfl
  | some e =>
    have := (h.stored _ e hg).2.1
    omega

theorem insert_consistent {o : InMemoryOutboxRepository} (h : o.Consistent) (clock : Instant)
    {command : EnqueueOutboxEvent} (hv : command.valid = true)
    (hk : o.idsByIdempotencyKey.get (outboxIdempotencyKey command) = none) :
    (o.insert (o.newEvent clock command)).Consistent := by
  constructor
  · intro k i hi
    simp only [insert, newEvent, InsertionMap.get_set] at hi ⊢
    split at hi
    · rename_i hkey
      cases hi
      exact ⟨_, if_pos rfl, hkey.symm⟩
    · obtain ⟨e, he, hek⟩ := h.indexed k i hi
      have hne : i ≠ o.sequence + 1 := by
        have := (h.stored i e he).2.1
        omega
      exact ⟨e, by rw [if_neg hne]; exact he, hek⟩
  · intro i e hi
    simp only [insert, newEvent, InsertionMap.get_set] at hi ⊢
    split at hi
    · rename_i hid
      cases hi
      exact ⟨hid.symm, by omega, hv, by rw [if_pos rfl, hid]⟩
    · obtain ⟨hid, hle, hval, hidx⟩ := h.stored i e hi
      refine ⟨hid, by omega, hval, ?_⟩
      rw [if_neg, hidx]
      intro he
      rw [he, hk] at hidx
      cases hidx

/-- Every event of `o` is in `p` as it was. -/
def Keeps (o p : InMemoryOutboxRepository) : Prop :=
  ∀ i e, o.eventsById.get i = some e → p.eventsById.get i = some e

theorem insert_keeps {o : InMemoryOutboxRepository} (h : o.Consistent) (clock : Instant)
    (command : EnqueueOutboxEvent) : Keeps o (o.insert (o.newEvent clock command)) := by
  intro i e hi
  have below := (h.stored i e hi).2.1
  simp only [insert, newEvent, InsertionMap.get_set]
  rw [if_neg (by omega), hi]

/-- A valid command either finds the event of its key and writes nothing, or
appends exactly one unconsumed event. -/
theorem enqueue_cases {o : InMemoryOutboxRepository} (h : o.Consistent) (clock : Instant)
    {command : EnqueueOutboxEvent} (hv : command.valid = true) :
    (∃ e ∈ o.events, SameKey e command ∧ (enqueue clock command).run o = (.ok e, o)) ∨
    (∃ e o', (enqueue clock command).run o = (.ok e, o') ∧
      (∀ d ∈ o.events, ¬ SameKey d command) ∧ e.toEnqueueOutboxEvent = command ∧
      e.consumedAt = none ∧ o'.events = o.events ++ [e] ∧ o'.Consistent ∧ Keeps o o') := by
  cases hk : o.idsByIdempotencyKey.get (outboxIdempotencyKey command) with
  | some i =>
    obtain ⟨e, he, hkey⟩ := h.indexed _ i hk
    refine Or.inl ⟨e, (o.eventsById.mem_values e).mpr ⟨i, he⟩,
      key_parts (h.stored i e he).2.2.1 hv hkey, ?_⟩
    simp [enqueue, Store.run_bind, hv, hk, he]
  | none =>
    refine Or.inr ⟨o.newEvent clock command, o.insert (o.newEvent clock command), ?_, ?_, rfl, rfl,
      InsertionMap.values_set_fresh h.fresh_id _, insert_consistent h clock hv hk,
      insert_keeps h clock command⟩
    · simp [enqueue, Store.run_bind, hv, hk]
    · intro d hd hs
      obtain ⟨i, hi⟩ := (o.eventsById.mem_values d).mp hd
      have hidx := (h.stored i d hi).2.2.2
      have hsame : outboxIdempotencyKey d.toEnqueueOutboxEvent = outboxIdempotencyKey command := by
        simp only [outboxIdempotencyKey, hs.1, hs.2.1, hs.2.2]
      rw [hsame, hk] at hidx
      cases hidx

/-- The outbox `p` after a command was enqueued on `o`. -/
structure Sends (command : EnqueueOutboxEvent) (o p : InMemoryOutboxRepository) : Prop where
  consistent : p.Consistent
  events : (p = o ∧ ∃ e ∈ o.events, SameKey e command) ∨
    ∃ e, p.events = o.events ++ [e] ∧ e.toEnqueueOutboxEvent = command ∧ e.consumedAt = none ∧
      ∀ d ∈ o.events, ¬ SameKey d command
  keeps : Keeps o p

theorem enqueue_sends {o : InMemoryOutboxRepository} (h : o.Consistent) (clock : Instant)
    {command : EnqueueOutboxEvent} (hv : command.valid = true) :
    (enqueue clock command).Ends o fun x p => (∃ e, x = .ok e) ∧ Sends command o p := by
  rcases enqueue_cases h clock hv with
    ⟨e, he, same, run⟩ | ⟨e, p, run, fresh, hc, unread, grown, consistent, keeps⟩
  · unfold Store.Ends
    rw [run]
    exact ⟨⟨e, rfl⟩, h, Or.inl ⟨rfl, e, he, same⟩, fun _ _ hi => hi⟩
  · unfold Store.Ends
    rw [run]
    exact ⟨⟨e, rfl⟩, consistent, Or.inr ⟨e, grown, hc, unread, fresh⟩, keeps⟩

theorem Sends.holds {command : EnqueueOutboxEvent} {o p : InMemoryOutboxRepository}
    (h : Sends command o p) : ∃ e ∈ p.events, SameKey e command := by
  rcases h.events with ⟨same, e, there, key⟩ | ⟨e, grown, written, _, _⟩
  · exact ⟨e, same ▸ there, key⟩
  · refine ⟨e, grown ▸ List.mem_append_right _ (List.mem_singleton_self e), ?_⟩
    rw [← written]
    exact ⟨rfl, rfl, rfl⟩

/-- Whatever the command, an outbox stays consistent and keeps its events. -/
theorem enqueue_ends {o : InMemoryOutboxRepository} (h : o.Consistent) (clock : Instant)
    (command : EnqueueOutboxEvent) :
    (enqueue clock command).Ends o fun _ p => p = o ∨ Sends command o p := by
  by_cases hv : command.valid = true
  · exact (enqueue_sends h clock hv).weaken fun _ _ sent => Or.inr sent.2
  · exact Store.Ends.require_bind (fun _ => Or.inl rfl) fun valid => absurd valid hv

/-- An event that a call brought in is the command it was called with. -/
theorem enqueue_new (o : InMemoryOutboxRepository) (clock : Instant) (command : EnqueueOutboxEvent) :
    (enqueue clock command).Ends o fun _ p => ∀ e ∈ p.events, e ∉ o.events →
      e.toEnqueueOutboxEvent = command ∧ command.valid = true := by
  refine Store.Ends.require_bind (fun _ e there new => absurd there new) fun valid => ?_
  refine Store.Ends.read_bind ?_
  split
  · refine Store.Ends.read_bind ?_
    split
    · exact Store.Ends.pure fun e there new => absurd there new
    · exact Store.Ends.throw fun e there new => absurd there new
  · refine Store.Ends.read_bind (Store.Ends.modify_bind (Store.Ends.pure fun e there new => ?_))
    obtain ⟨i, found⟩ := (InsertionMap.mem_values _ e).mp there
    simp only [insert, InsertionMap.get_set] at found
    split at found
    · cases found
      exact ⟨rfl, valid⟩
    · exact absurd ((o.eventsById.mem_values e).mpr ⟨i, found⟩) new

/-- The outbox `p` after the event `id` of a tenant was marked consumed. -/
structure Consumes (tenantId : String) (id : Nat) (o p : InMemoryOutboxRepository) : Prop where
  consistent : p.Consistent
  event : ∃ e at_, o.eventsById.get id = some e ∧ e.tenantId = tenantId ∧
    p.eventsById = o.eventsById.set id { e with consumedAt := some at_ }

theorem markConsumed_ends {o : InMemoryOutboxRepository} (h : o.Consistent) (tenantId : String)
    (id : Nat) (at_ : Instant) :
    (markConsumed tenantId id at_).Ends o fun _ p => p = o ∨ Consumes tenantId id o p := by
  refine Store.Ends.read_bind ?_
  split
  · exact Store.Ends.throw (Or.inl rfl)
  · rename_i e he
    refine Store.Ends.require_bind (fun _ => Or.inl rfl) fun owner => ?_
    refine Store.Ends.modify_bind (Store.Ends.pure (Or.inr ⟨⟨?_, ?_⟩, e, at_, he, owner, rfl⟩))
    · intro k i hi
      obtain ⟨d, hd, hk⟩ := h.indexed k i hi
      by_cases hid : i = id
      · subst hid
        rw [he] at hd
        cases hd
        exact ⟨_, InsertionMap.get_set_self _ _ _, hk⟩
      · exact ⟨d, by rw [InsertionMap.get_set, if_neg hid, hd], hk⟩
    · intro i d hd
      rw [InsertionMap.get_set] at hd
      split at hd
      · rename_i hid
        cases hd
        obtain ⟨eid, bound, valid, indexed⟩ := h.stored id e he
        exact ⟨eid.trans hid.symm, hid ▸ bound, valid, hid ▸ indexed⟩
      · exact h.stored i d hd

theorem Consistent.event {o : InMemoryOutboxRepository} (h : o.Consistent) {e : StoredOutboxEvent}
    (member : e ∈ o.events) : o.eventsById.get e.id = some e := by
  obtain ⟨i, found⟩ := (o.eventsById.mem_values e).mp member
  obtain ⟨rfl, _⟩ := h.stored i e found
  exact found

/-- The unique index: two stored events of one key are one. -/
theorem Consistent.unique {o : InMemoryOutboxRepository} (h : o.Consistent) {a b : StoredOutboxEvent}
    (ha : a ∈ o.events) (hb : b ∈ o.events) (same : SameKey a b.toEnqueueOutboxEvent) : a = b := by
  have first := (h.stored a.id a (h.event ha)).2.2.2
  have second := (h.stored b.id b (h.event hb)).2.2.2
  have key : outboxIdempotencyKey a.toEnqueueOutboxEvent =
      outboxIdempotencyKey b.toEnqueueOutboxEvent := by
    simp only [outboxIdempotencyKey, same.1, same.2.1, same.2.2]
  rw [key, second] at first
  have stored := h.event ha
  rw [← Option.some.inj first, h.event hb] at stored
  exact (Option.some.inj stored).symm

theorem Consistent.events_nodup {o : InMemoryOutboxRepository} (h : o.Consistent) : o.events.Nodup :=
  InsertionMap.values_nodup (f := StoredOutboxEvent.id) fun i e found => (h.stored i e found).1

theorem Consistent.listed_nodup {o : InMemoryOutboxRepository} (h : o.Consistent) (tenantId : String)
    (limit : Nat) : (o.listUnconsumed tenantId limit).Nodup := by
  refine List.Nodup.sublist (List.take_sublist _ _) ?_
  exact (List.perm_insertionSort _ _).nodup_iff.mpr (h.events_nodup.filter _)

/-- An event is stored and consumed. -/
def Consumed (o : InMemoryOutboxRepository) (id : Nat) : Prop :=
  ∃ e, o.eventsById.get id = some e ∧ e.consumedAt ≠ none

theorem markConsumed_answer (o : InMemoryOutboxRepository) (tenantId : String) (id : Nat)
    (at_ : Instant) :
    (markConsumed tenantId id at_).Ends o fun x p => ∀ e, x = .ok e → Consumed p id := by
  refine Store.Ends.read_bind ?_
  split
  · exact Store.Ends.throw (by rintro e ⟨⟩)
  · refine Store.Ends.require_bind (fun _ => by rintro e ⟨⟩) fun owner => ?_
    refine Store.Ends.modify_bind (Store.Ends.pure fun _ _ => ?_)
    exact ⟨_, InsertionMap.get_set_self _ _ _, by simp⟩

end InMemoryOutboxRepository

end VantGrowth.Db
