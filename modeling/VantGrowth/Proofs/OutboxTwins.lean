import Mathlib.Data.List.Nodup
import VantGrowth.Db.PostgresOutbox
import VantGrowth.Proofs.OutboxRuns

namespace VantGrowth.Proofs.OutboxTwins
open Db Lib Lib.Text

/-! What an outbox is for, without ids: a list that letters are added to once a
key and marked in, each known by its place. -/

structure Letter extends EnqueueOutboxEvent where
  createdAt : Instant
  consumedAt : Option Instant

abbrev Mailbox := List Letter

inductive Refusal where
  | invalid | missing

abbrev Answer := Except Refusal (List (Letter × Nat))

namespace Mailbox

def named (command : EnqueueOutboxEvent) (l : Letter) : Bool :=
  l.tenantId == command.tenantId && l.eventType == command.eventType &&
    l.idempotencyKey == command.idempotencyKey

def perform (clock : Instant) (b : Mailbox) : OutboxRepositoryCall → Answer × Mailbox
  | .enqueue command =>
    if command.valid then
      match b.zipIdx.find? fun l => named command l.1 with
      | some l => (.ok [l], b)
      | none => (.ok [(⟨command, clock, none⟩, b.length)], b ++ [⟨command, clock, none⟩])
    else (.error .invalid, b)
  | .markConsumed tenantId place consumedAt =>
    match b[place]? with
    | some l =>
      if l.tenantId = tenantId then
        (.ok [({ l with consumedAt := some consumedAt }, place)],
          b.set place { l with consumedAt := some consumedAt })
      else (.error .missing, b)
    | none => (.error .missing, b)
  | .listUnconsumed tenantId limit =>
    (.ok ((b.zipIdx.filter fun l => l.1.tenantId == tenantId && l.1.consumedAt.isNone).take limit), b)
  | .listByEventType tenantId eventType limit =>
    (.ok ((b.zipIdx.filter fun l => l.1.tenantId == tenantId && l.1.eventType == eventType).reverse.take limit), b)

end Mailbox

def letter (e : StoredOutboxEvent) : Letter := { e with }

/-- The place of an id among the stored events. -/
def placeOf (events : List StoredOutboxEvent) (id : Nat) : Nat := events.findIdx (·.id == id)

def refusal : DbError → Refusal
  | .zod => .invalid
  | _ => .missing

/-- An answer without its ids, as it is seen beside the events stored by then. -/
def seen (events : List StoredOutboxEvent) (answer : Except DbError (List StoredOutboxEvent)) : Answer :=
  match answer with
  | .ok listed => .ok (listed.map fun e => (letter e, placeOf events e.id))
  | .error e => .error (refusal e)

/-- Ids start at one and count up in the order of storing. -/
structure Numbered (events : List StoredOutboxEvent) : Prop where
  positive : ∀ e ∈ events, 0 < e.id
  increasing : events.Pairwise (·.id < ·.id)

section
variable {events : List StoredOutboxEvent}

theorem Numbered.placeOf (h : Numbered events) {i : Nat} {e : StoredOutboxEvent} (at_ : events[i]? = some e) :
    placeOf events e.id = i := by
  obtain ⟨bound, rfl⟩ := List.getElem?_eq_some_iff.mp at_
  refine List.findIdx_eq bound |>.mpr ⟨by simp, fun j before => ?_⟩
  have less := List.pairwise_iff_getElem.mp h.increasing j i (before.trans bound) bound before
  simpa using Nat.ne_of_lt less

theorem Numbered.seen_all (h : Numbered events) :
    (events.map fun e => (letter e, OutboxTwins.placeOf events e.id)) = (events.map letter).zipIdx := by
  refine List.ext_getElem (by simp) fun i left right => ?_
  have bound : i < events.length := by simpa using left
  simp [h.placeOf (List.getElem?_eq_getElem bound)]

/-- What is chosen by what a letter says is chosen by it in the mailbox. -/
theorem Numbered.seen_filter (h : Numbered events) (p : Letter → Bool) :
    ((events.filter fun e => p (letter e)).map fun e => (letter e, OutboxTwins.placeOf events e.id)) =
      (events.map letter).zipIdx.filter fun l => p l.1 := by
  rw [← h.seen_all, List.filter_map]
  rfl

theorem Numbered.append (h : Numbered events) {e : StoredOutboxEvent} (positive : 0 < e.id)
    (greatest : ∀ d ∈ events, d.id < e.id) : Numbered (events ++ [e]) := by
  constructor
  · intro d member
    rcases List.mem_append.mp member with old | new
    · exact h.positive d old
    · rw [List.mem_singleton.mp new]
      exact positive
  · refine List.pairwise_append.mpr ⟨h.increasing, List.pairwise_singleton _ _, fun d member f last => ?_⟩
    rw [List.mem_singleton.mp last]
    exact greatest d member

/-- The events with those under an id marked. -/
def marked (events : List StoredOutboxEvent) (id : Nat) (consumedAt : Instant) : List StoredOutboxEvent :=
  events.map fun e => if e.id = id then { e with consumedAt := some consumedAt } else e

theorem Numbered.marked (h : Numbered events) (id : Nat) (consumedAt : Instant) :
    Numbered (marked events id consumedAt) := by
  constructor
  · intro d member
    obtain ⟨e, there, rfl⟩ := List.mem_map.mp member
    split <;> exact h.positive e there
  · refine h.increasing.map _ fun a b less => ?_
    split <;> split <;> exact less

theorem Numbered.marked_at (h : Numbered events) {i : Nat} {e : StoredOutboxEvent} (at_ : events[i]? = some e)
    (consumedAt : Instant) : OutboxTwins.marked events e.id consumedAt =
      events.set i { e with consumedAt := some consumedAt } := by
  obtain ⟨bound, rfl⟩ := List.getElem?_eq_some_iff.mp at_
  refine List.ext_getElem (by simp [OutboxTwins.marked]) fun j left right => ?_
  have inside : j < events.length := by simpa [OutboxTwins.marked] using left
  simp only [OutboxTwins.marked, List.getElem_map, List.getElem_set]
  by_cases same : i = j
  · subst same
    simp
  · have apart : events[j].id ≠ events[i].id := by
      rcases Nat.lt_or_gt_of_ne same with less | greater
      · exact Nat.ne_of_gt (List.pairwise_iff_getElem.mp h.increasing i j bound inside less)
      · exact Nat.ne_of_lt (List.pairwise_iff_getElem.mp h.increasing j i inside bound greater)
    simp [same, apart]

end

/-- A call has answered and left these events as the mailbox would. -/
structure Steps (answer : Except DbError (List StoredOutboxEvent)) (later : List StoredOutboxEvent)
    (told : Answer × Mailbox) : Prop where
  answer : seen later answer = told.1
  mailbox : later.map letter = told.2
  numbered : Numbered later

section
variable {events : List StoredOutboxEvent} {command : EnqueueOutboxEvent} {e : StoredOutboxEvent}

theorem find_seen (h : Numbered events) (command : EnqueueOutboxEvent) :
    ((events.map letter).zipIdx.find? fun l => Mailbox.named command l.1) =
      (events.find? fun e => Mailbox.named command (letter e)).map fun e => (letter e, placeOf events e.id) := by
  rw [← h.seen_all, List.find?_map]
  rfl

theorem steps_refused (h : Numbered events) (clock : Instant) (invalid : ¬ command.valid = true) :
    Steps (.error .zod) events (Mailbox.perform clock (events.map letter) (.enqueue command)) := by
  simp only [Mailbox.perform, invalid]
  exact ⟨rfl, rfl, h⟩

theorem steps_found (h : Numbered events) (clock : Instant) (valid : command.valid = true)
    (found : (events.find? fun e => Mailbox.named command (letter e)) = some e) :
    Steps (.ok [e]) events (Mailbox.perform clock (events.map letter) (.enqueue command)) := by
  simp only [Mailbox.perform, valid, find_seen h, found]
  exact ⟨rfl, rfl, h⟩

theorem steps_new (h : Numbered events) (clock : Instant) (valid : command.valid = true)
    (fresh : (events.find? fun e => Mailbox.named command (letter e)) = none)
    (made : letter e = ⟨command, clock, none⟩) (positive : 0 < e.id) (greatest : ∀ d ∈ events, d.id < e.id) :
    Steps (.ok [e]) (events ++ [e]) (Mailbox.perform clock (events.map letter) (.enqueue command)) := by
  have later := h.append positive greatest
  have last := later.placeOf (i := events.length) (e := e) (by simp)
  simp only [Mailbox.perform, valid, find_seen h, fresh]
  exact ⟨by simp [seen, last, made], by simp [made], later⟩

theorem steps_marked (h : Numbered events) (clock : Instant) {tenantId : String} {place : Nat}
    (at_ : events[place]? = some e) (owner : e.tenantId = tenantId) (consumedAt : Instant) :
    Steps (.ok [{ e with consumedAt := some consumedAt }]) (marked events e.id consumedAt)
      (Mailbox.perform clock (events.map letter) (.markConsumed tenantId place consumedAt)) := by
  have later := h.marked e.id consumedAt
  have bound := (List.getElem?_eq_some_iff.mp at_).1
  have here := later.placeOf (i := place) (e := { e with consumedAt := some consumedAt }) (by
    rw [h.marked_at at_, List.getElem?_set_self bound])
  simp only [Mailbox.perform, List.getElem?_map, at_, Option.map_some, show (letter e).tenantId = tenantId from owner]
  refine ⟨by simp [seen, here, letter], ?_, later⟩
  rw [h.marked_at at_, List.map_set]
  rfl

theorem steps_missing (h : Numbered events) (clock : Instant) {tenantId : String} {place : Nat}
    (none_ : ∀ e, events[place]? = some e → e.tenantId ≠ tenantId) (consumedAt : Instant) (message : String) :
    Steps (.error (.error message)) events
      (Mailbox.perform clock (events.map letter) (.markConsumed tenantId place consumedAt)) := by
  simp only [Mailbox.perform, List.getElem?_map]
  cases at_ : events[place]? with
  | none => exact ⟨rfl, rfl, h⟩
  | some e =>
    have foreign : (letter e).tenantId ≠ tenantId := none_ e at_
    simp only [Option.map_some, foreign]
    exact ⟨rfl, rfl, h⟩

theorem steps_unconsumed (h : Numbered events) (clock : Instant) (tenantId : String) (limit : Nat) :
    Steps (.ok ((events.filter fun e => e.tenantId == tenantId && e.consumedAt.isNone).take limit)) events
      (Mailbox.perform clock (events.map letter) (.listUnconsumed tenantId limit)) := by
  refine ⟨?_, rfl, h⟩
  have chosen := h.seen_filter fun l => l.tenantId == tenantId && l.consumedAt.isNone
  simp only [seen, Mailbox.perform, List.map_take, ← chosen]
  rfl

theorem steps_type (h : Numbered events) (clock : Instant) (tenantId eventType : String) (limit : Nat) :
    Steps (.ok ((events.filter fun e => e.tenantId == tenantId && e.eventType == eventType).reverse.take limit))
      events (Mailbox.perform clock (events.map letter) (.listByEventType tenantId eventType limit)) := by
  refine ⟨?_, rfl, h⟩
  have chosen := h.seen_filter fun l => l.tenantId == tenantId && l.eventType == eventType
  simp only [seen, Mailbox.perform, List.map_take, List.map_reverse, ← chosen]
  rfl

end

section
variable {events : List StoredOutboxEvent}

theorem Numbered.same (h : Numbered events) {a b : StoredOutboxEvent} (first : a ∈ events) (second : b ∈ events)
    (id : a.id = b.id) : a = b := by
  obtain ⟨i, left, rfl⟩ := List.mem_iff_getElem.mp first
  obtain ⟨j, right, rfl⟩ := List.mem_iff_getElem.mp second
  have places := (h.placeOf (List.getElem?_eq_getElem left)).symm.trans
    (id ▸ h.placeOf (List.getElem?_eq_getElem right))
  subst places
  rfl

theorem Numbered.filter (h : Numbered events) (p : StoredOutboxEvent → Bool) : Numbered (events.filter p) :=
  ⟨fun e member => h.positive e (List.mem_filter.mp member).1, h.increasing.filter p⟩

theorem Numbered.oldest (h : Numbered events) : (events.insertionSort fun a b => a.id ≤ b.id) = events :=
  List.Pairwise.insertionSort_eq (h.increasing.imp fun less => Nat.le_of_lt less)

/-- Sorting from the greatest on by what grows with the ids turns the list. -/
theorem Numbered.newest (h : Numbered events) {r : StoredOutboxEvent → StoredOutboxEvent → Prop} [DecidableRel r]
    [Std.Total r] [IsTrans _ r] (grows : events.Pairwise fun a b => r b a)
    (ties : ∀ a b, r a b → r b a → a.id = b.id) : events.insertionSort r = events.reverse := by
  have sorted : (events.insertionSort r).Pairwise r := List.pairwise_insertionSort r events
  have reversed : events.reverse.Pairwise r := List.pairwise_reverse.mpr grows
  have same := (List.perm_insertionSort r events).trans (List.reverse_perm events).symm
  refine List.Perm.eq_of_pairwise (fun a b first second above below => ?_) sorted reversed same
  exact h.same ((List.perm_insertionSort _ _).subset first) (List.mem_reverse.mp second) (ties a b above below)

end

/-- Rewriting the row of an id marks the events under it. -/
theorem values_marked {rows : InsertionMap Nat StoredOutboxEvent} {e : StoredOutboxEvent}
    (named : ∀ id row, rows.get id = some row → row.id = id) (stored : rows.get e.id = some e) (consumedAt : Instant) :
    (rows.set e.id { e with consumedAt := some consumedAt }).values = marked rows.values e.id consumedAt := by
  rw [InsertionMap.values_set_stored named stored]
  refine List.map_congr_left fun d there => ?_
  by_cases same : d.id = e.id
  · obtain ⟨id, found⟩ := (rows.mem_values d).mp there
    have here := named id d found
    rw [← here, same, stored] at found
    cases found
    rfl
  · rw [if_neg same, if_neg same]

/-! The repository in memory. -/

section
variable {o : InMemoryOutboxRepository}

/-- A call, seen beside the events it leaves. -/
def memory (clock : Instant) (o : InMemoryOutboxRepository) (call : OutboxRepositoryCall) :
    Answer × InMemoryOutboxRepository :=
  let (answer, later) := o.perform clock call
  (seen later.events answer, later)

theorem single_run (m : Store DbError σ StoredOutboxEvent) (s : σ) :
    (single m).run s = (((m.run s).1).map fun e => [e], (m.run s).2) := by
  unfold single
  rw [Store.run_bind]
  rcases m.run s with ⟨x, t⟩
  cases x <;> rfl

theorem memory_find (h : o.Consistent) {command : EnqueueOutboxEvent} (valid : command.valid = true) :
    (o.idsByIdempotencyKey.get (outboxIdempotencyKey command)).bind o.eventsById.get =
      o.events.find? fun e => Mailbox.named command (letter e) := by
  cases index : o.idsByIdempotencyKey.get (outboxIdempotencyKey command) with
  | some id =>
    obtain ⟨e, stored, key⟩ := h.indexed _ id index
    have there : e ∈ o.events := (o.eventsById.mem_values e).mpr ⟨id, stored⟩
    obtain ⟨tenant, type, text⟩ := InMemoryOutboxRepository.key_parts (h.stored id e stored).2.2.1 valid key
    have own : Mailbox.named command (letter e) = true := by simp [Mailbox.named, letter, tenant, type, text]
    rw [Option.bind_some, stored]
    cases found : o.events.find? fun e => Mailbox.named command (letter e) with
    | none => exact absurd own (List.find?_eq_none.mp found e there)
    | some d =>
      have named := List.find?_some found
      simp only [Mailbox.named, letter, Bool.and_eq_true, beq_iff_eq] at named
      have same := h.unique (List.mem_of_find?_eq_some found) there
        ⟨named.1.1.trans tenant.symm, named.1.2.trans type.symm, named.2.trans text.symm⟩
      rw [same]
  | none =>
    refine (List.find?_eq_none.mpr fun e there named => ?_).symm
    simp only [Mailbox.named, letter, Bool.and_eq_true, beq_iff_eq] at named
    have indexed := (h.stored e.id e (h.event there)).2.2.2
    have key : outboxIdempotencyKey e.toEnqueueOutboxEvent = outboxIdempotencyKey command := by
      simp only [outboxIdempotencyKey, named]
    rw [key, index] at indexed
    cases indexed

theorem mark_consistent (h : o.Consistent) (tenantId : String) (id : Nat) (consumedAt : Instant) :
    ((InMemoryOutboxRepository.markConsumed tenantId id consumedAt).run o).2.Consistent := by
  have ends := InMemoryOutboxRepository.markConsumed_ends h tenantId id consumedAt
  unfold Store.Ends at ends
  rcases ends with same | consumes
  · rw [same]
    exact h
  · exact consumes.consistent

/-- A call in memory answers as the mailbox does. -/
theorem memory_steps (h : o.Consistent) (numbered : Numbered o.events) (clock : Instant)
    (call : OutboxRepositoryCall) :
    (o.perform clock call).2.Consistent ∧ Steps (o.perform clock call).1 (o.perform clock call).2.events
      (Mailbox.perform clock (o.events.map letter) call) := by
  cases call with
  | enqueue command =>
    simp only [InMemoryOutboxRepository.perform, single_run]
    by_cases valid : command.valid = true
    · have find := memory_find h valid
      cases index : o.idsByIdempotencyKey.get (outboxIdempotencyKey command) with
      | some id =>
        obtain ⟨e, stored, _⟩ := h.indexed _ id index
        rw [index, Option.bind_some, stored] at find
        have ran : (InMemoryOutboxRepository.enqueue clock command).run o = (.ok e, o) := by
          simp [InMemoryOutboxRepository.enqueue, Store.run_bind, valid, index, stored]
        rw [ran]
        exact ⟨h, steps_found numbered clock valid find.symm⟩
      | none =>
        rw [index, Option.bind_none] at find
        have ran : (InMemoryOutboxRepository.enqueue clock command).run o =
            (.ok (o.newEvent clock command), o.insert (o.newEvent clock command)) := by
          simp [InMemoryOutboxRepository.enqueue, Store.run_bind, valid, index]
        have grown : (o.insert (o.newEvent clock command)).events = o.events ++ [o.newEvent clock command] :=
          InsertionMap.values_set_fresh h.fresh_id _
        rw [ran]
        refine ⟨InMemoryOutboxRepository.insert_consistent h clock valid index, ?_⟩
        dsimp only
        rw [grown]
        refine steps_new numbered clock valid find.symm rfl (Nat.succ_pos _) fun d there => ?_
        exact Nat.lt_succ_of_le (h.stored d.id d (h.event there)).2.1
    · have ran : (InMemoryOutboxRepository.enqueue clock command).run o = (.error .zod, o) := by
        simp [InMemoryOutboxRepository.enqueue, Store.run_bind, valid]
      rw [ran]
      exact ⟨h, steps_refused numbered clock valid⟩
  | markConsumed tenantId place consumedAt =>
    simp only [InMemoryOutboxRepository.perform, single_run]
    cases at_ : o.events[place]? with
    | none =>
      have unknown : o.eventsById.get 0 = none := by
        by_contra known
        obtain ⟨e, stored⟩ := Option.ne_none_iff_exists'.mp known
        have positive := numbered.positive e ((o.eventsById.mem_values e).mpr ⟨0, stored⟩)
        rw [(h.stored 0 e stored).1] at positive
        exact absurd positive (Nat.lt_irrefl 0)
      have ran : (InMemoryOutboxRepository.markConsumed tenantId (idAt o.events place) consumedAt).run o =
          (.error (.error ("Outbox event not found: " ++ decimal 0)), o) := by
        simp [InMemoryOutboxRepository.markConsumed, Store.run_bind, idAt, at_, unknown]
      rw [ran]
      exact ⟨h, steps_missing numbered clock (by simp [at_]) consumedAt _⟩
    | some e =>
      have stored : o.eventsById.get e.id = some e := h.event (List.mem_of_getElem? at_)
      by_cases owner : e.tenantId = tenantId
      · have ran : (InMemoryOutboxRepository.markConsumed tenantId (idAt o.events place) consumedAt).run o =
            (.ok { e with consumedAt := some consumedAt },
              { o with eventsById := o.eventsById.set e.id { e with consumedAt := some consumedAt } }) := by
          simp [InMemoryOutboxRepository.markConsumed, Store.run_bind, idAt, at_, stored, owner]
        have named : ∀ id row, o.eventsById.get id = some row → row.id = id := fun id row there =>
          (h.stored id row there).1
        have later := mark_consistent h tenantId (idAt o.events place) consumedAt
        rw [ran] at later ⊢
        refine ⟨later, ?_⟩
        simp only [InMemoryOutboxRepository.events, values_marked named stored]
        exact steps_marked numbered clock at_ owner consumedAt
      · have ran : (InMemoryOutboxRepository.markConsumed tenantId (idAt o.events place) consumedAt).run o =
            (.error (.error ("Outbox event not found for tenant: " ++ decimal e.id)), o) := by
          simp [InMemoryOutboxRepository.markConsumed, Store.run_bind, idAt, at_, stored, owner]
        rw [ran]
        refine ⟨h, steps_missing numbered clock (fun d same => ?_) consumedAt _⟩
        rw [at_] at same
        cases same
        exact owner
  | listUnconsumed tenantId limit =>
    have listed := steps_unconsumed numbered clock tenantId limit
    rw [← (numbered.filter _).oldest] at listed
    exact ⟨h, listed⟩
  | listByEventType tenantId eventType limit =>
    have listed := steps_type numbered clock tenantId eventType limit
    have chosen := numbered.filter fun e => e.tenantId == tenantId && e.eventType == eventType
    rw [← chosen.newest (r := fun a b => b.id ≤ a.id) (chosen.increasing.imp fun less => Nat.le_of_lt less)
      fun a b above below => Nat.le_antisymm below above] at listed
    exact ⟨h, listed⟩

end

/-! The repository on Postgres. -/

/-- Rows are under ids that the sequence has given, in the order of storing and
of their times, none later than `now`. -/
structure Tabled (now : Instant) (t : OutboxTable) : Prop where
  stored : ∀ id row, t.rows.get id = some row → row.id = id ∧ id ≤ t.sequence
  numbered : Numbered (PostgresOutboxRepository.events t)
  ordered : (PostgresOutboxRepository.events t).Pairwise (·.createdAt ≤ ·.createdAt)
  past : ∀ e ∈ PostgresOutboxRepository.events t, e.createdAt ≤ now

/-- Tenants are spelled as their column keeps them. -/
def Proper : OutboxRepositoryCall → Prop
  | .enqueue command => command.valid = true → uuidColumn command.tenantId = command.tenantId
  | .markConsumed tenantId _ _ => isUuid tenantId = true ∧ uuidColumn tenantId = tenantId
  | .listUnconsumed tenantId _ => isUuid tenantId = true ∧ uuidColumn tenantId = tenantId
  | .listByEventType tenantId _ _ => isUuid tenantId = true ∧ uuidColumn tenantId = tenantId

section
variable {now clock : Instant} {t : OutboxTable}

theorem Tabled.later (h : Tabled now t) (passed : now ≤ clock) : Tabled clock t :=
  ⟨h.stored, h.numbered, h.ordered, fun e there => (h.past e there).trans passed⟩

theorem Tabled.row (h : Tabled now t) {e : StoredOutboxEvent} (there : e ∈ PostgresOutboxRepository.events t) :
    t.rows.get e.id = some e := by
  obtain ⟨id, found⟩ := (t.rows.mem_values e).mp there
  obtain ⟨rfl, _⟩ := h.stored id e found
  exact found

/-- A number the sequence gives is lost to the rows. -/
theorem Tabled.nextval (h : Tabled now t) : Tabled now { t with sequence := t.sequence + 1 } :=
  ⟨fun id row found => ⟨(h.stored id row found).1, Nat.le_succ_of_le (h.stored id row found).2⟩,
    h.numbered, h.ordered, h.past⟩

theorem Tabled.notified (h : Tabled now t) (notified : List (String × Nat)) : Tabled now { t with notified } :=
  ⟨h.stored, h.numbered, h.ordered, h.past⟩

theorem Tabled.fresh (h : Tabled now t) : t.rows.get (t.sequence + 1) = none := by
  cases found : t.rows.get (t.sequence + 1) with
  | none => rfl
  | some row => exact absurd (h.stored _ row found).2 (Nat.not_succ_le_self t.sequence)

theorem Tabled.insert (h : Tabled clock t) (row : StoredOutboxEvent) (id : row.id = t.sequence + 1)
    (time : row.createdAt = clock) :
    Tabled clock { t with
      rows := t.rows.set row.id row
      sequence := t.sequence + 1 } := by
  have grown : (t.rows.set row.id row).values = t.rows.values ++ [row] := InsertionMap.values_set_fresh (id ▸ h.fresh) _
  refine ⟨fun id' row' found => ?_, ?_, ?_, ?_⟩
  · dsimp only at found ⊢
    rw [InsertionMap.get_set] at found
    split at found
    · rename_i same
      cases found
      exact ⟨same.symm, (same.trans id).le⟩
    · exact ⟨(h.stored id' row' found).1, Nat.le_succ_of_le (h.stored id' row' found).2⟩
  · simp only [PostgresOutboxRepository.events, grown]
    refine h.numbered.append (id ▸ Nat.succ_pos _) fun d there => ?_
    rw [id]
    exact Nat.lt_succ_of_le (h.stored d.id d (h.row there)).2
  · simp only [PostgresOutboxRepository.events, grown]
    refine List.pairwise_append.mpr ⟨h.ordered, List.pairwise_singleton _ _, fun d there e last => ?_⟩
    rw [List.mem_singleton.mp last, time]
    exact h.past d there
  · simp only [PostgresOutboxRepository.events, grown]
    intro e there
    rcases List.mem_append.mp there with old | new
    · exact h.past e old
    · rw [List.mem_singleton.mp new, time]

theorem Tabled.mark (h : Tabled now t) {e : StoredOutboxEvent} (stored : t.rows.get e.id = some e)
    (consumedAt : Instant) :
    Tabled now { t with rows := t.rows.set e.id { e with consumedAt := some consumedAt } } := by
  have values := values_marked (fun id row found => (h.stored id row found).1) stored consumedAt
  refine ⟨fun id row found => ?_, ?_, ?_, ?_⟩
  · dsimp only at found ⊢
    rw [InsertionMap.get_set] at found
    split at found
    · rename_i same
      cases found
      exact ⟨same.symm, same ▸ (h.stored e.id e stored).2⟩
    · exact h.stored id row found
  · simp only [PostgresOutboxRepository.events, values]
    exact h.numbered.marked e.id consumedAt
  · simp only [PostgresOutboxRepository.events, values]
    refine h.ordered.map _ fun a b less => ?_
    split <;> split <;> exact less
  · simp only [PostgresOutboxRepository.events, values]
    intro d there
    obtain ⟨c, old, rfl⟩ := List.mem_map.mp there
    split <;> exact h.past c old

end

theorem newer_iff (a b : StoredOutboxEvent) : PostgresOutboxRepository.newer a b = true ↔
    b.createdAt < a.createdAt ∨ a.createdAt = b.createdAt ∧ b.id ≤ a.id := by
  simp [PostgresOutboxRepository.newer]

instance : Std.Total fun a b => PostgresOutboxRepository.newer a b = true where
  total a b := by
    simp only [newer_iff]
    rcases lt_trichotomy a.createdAt b.createdAt with less | same | greater
    · exact Or.inr (Or.inl less)
    · rcases Nat.le_total a.id b.id with below | above
      · exact Or.inr (Or.inr ⟨same.symm, below⟩)
      · exact Or.inl (Or.inr ⟨same, above⟩)
    · exact Or.inl (Or.inl greater)

instance : IsTrans _ fun a b => PostgresOutboxRepository.newer a b = true where
  trans a b c first second := by
    rw [newer_iff] at first second ⊢
    rcases first with less | ⟨same, below⟩
    · rcases second with later | ⟨time, _⟩
      · exact Or.inl (later.trans less)
      · exact Or.inl (time ▸ less)
    · rcases second with later | ⟨time, under⟩
      · exact Or.inl (same ▸ later)
      · exact Or.inr ⟨same.trans time, under.trans below⟩

theorem newer_ties {a b : StoredOutboxEvent} (above : PostgresOutboxRepository.newer a b = true)
    (below : PostgresOutboxRepository.newer b a = true) : a.id = b.id := by
  rw [newer_iff] at above below
  rcases above with less | ⟨same, under⟩
  · rcases below with more | ⟨same, _⟩
    · exact absurd more less.asymm
    · exact absurd same less.ne
  · rcases below with more | ⟨_, ids⟩
    · exact absurd same more.ne
    · exact Nat.le_antisymm ids under

section
variable {now clock : Instant} {t : OutboxTable}

/-- A row that is stored later, not before the others in time, comes first in a
listing by time. -/
theorem Tabled.grows (h : Tabled now t) :
    (PostgresOutboxRepository.events t).Pairwise fun a b => PostgresOutboxRepository.newer b a = true := by
  refine (h.ordered.and h.numbered.increasing).imp fun {a b} both => ?_
  refine (newer_iff b a).mpr ?_
  rcases both.1.lt_or_eq with less | same
  · exact Or.inl less
  · exact Or.inr ⟨same.symm, both.2.le⟩

theorem parse_tenant {tenantId : String} (uuid : isUuid tenantId = true) (s : σ) :
    (parseSchema (uuidText tenantId) : Store DbError σ String).run s = (.ok tenantId, s) := by
  simp [uuidText, uuid, parseSchema]

theorem run_transaction (m : Store ε σ α) (s : σ) : (Store.transaction m).run s =
    match m.run s with
    | (.ok a, t) => (.ok a, t)
    | (.error e, _) => (.error e, s) := rfl

/-- The row a command becomes under the next id. -/
def newRow (clock : Instant) (t : OutboxTable) (command : EnqueueOutboxEvent) : StoredOutboxEvent :=
  { command with
    id := t.sequence + 1
    createdAt := clock
    consumedAt := none }

section
variable {command : EnqueueOutboxEvent}

theorem insert_run (row : StoredOutboxEvent) (t : OutboxTable) :
    (PostgresOutboxRepository.insert row).run t = (.ok (),
      if (PostgresOutboxRepository.events t).any (PostgresOutboxRepository.sameEvent row.toEnqueueOutboxEvent) then t
      else { t with rows := t.rows.set row.id row }) := by
  simp only [PostgresOutboxRepository.insert, Store.run_bind, Store.run_read, Store.run_ite]
  split <;> rfl

/-- Whatever the insert did, the row of the key is read back and notified. -/
theorem enqueue_run (valid : command.valid = true) (kept : uuidColumn command.tenantId = command.tenantId)
    {u : OutboxTable} {e : StoredOutboxEvent}
    (inserted : (PostgresOutboxRepository.insert (newRow clock t command)).run
      { t with sequence := t.sequence + 1 } = (.ok (), u))
    (found : (PostgresOutboxRepository.events u).find? (PostgresOutboxRepository.sameEvent command) = some e) :
    (PostgresOutboxRepository.enqueue clock command).run t =
      (.ok e, { u with notified := u.notified ++ [(command.tenantId, e.id)] }) := by
  have same : ({ command with tenantId := uuidColumn command.tenantId } : EnqueueOutboxEvent) = command := by
    rw [kept]
  simp only [newRow] at inserted
  simp only [PostgresOutboxRepository.enqueue, same, PostgresOutboxRepository.nextval, Store.run_bind,
    Store.run_require, valid, Store.run_read, Store.run_modify, Store.run_pure, run_transaction, if_true, inserted,
    found]

/-- The unique index keeps the insert out; its number is spent. -/
theorem enqueue_found (valid : command.valid = true) (kept : uuidColumn command.tenantId = command.tenantId)
    {e : StoredOutboxEvent}
    (found : (PostgresOutboxRepository.events t).find? (fun e => Mailbox.named command (letter e)) = some e) :
    (PostgresOutboxRepository.enqueue clock command).run t = (.ok e, { t with
      sequence := t.sequence + 1
      notified := t.notified ++ [(command.tenantId, e.id)] }) := by
  have there : (PostgresOutboxRepository.events t).any (PostgresOutboxRepository.sameEvent command) = true :=
    List.any_eq_true.mpr ⟨e, List.mem_of_find?_eq_some found, List.find?_some found⟩
  refine enqueue_run valid kept (u := { t with sequence := t.sequence + 1 }) ?_ found
  rw [insert_run]
  exact congrArg (Prod.mk _) (if_pos there)

theorem enqueue_new (fresh : t.rows.get (t.sequence + 1) = none) (valid : command.valid = true)
    (kept : uuidColumn command.tenantId = command.tenantId)
    (unknown : (PostgresOutboxRepository.events t).find? (fun e => Mailbox.named command (letter e)) = none) :
    (PostgresOutboxRepository.enqueue clock command).run t = (.ok (newRow clock t command), { t with
      rows := t.rows.set (t.sequence + 1) (newRow clock t command)
      sequence := t.sequence + 1
      notified := t.notified ++ [(command.tenantId, t.sequence + 1)] }) := by
  have absent : ¬ (PostgresOutboxRepository.events t).any (PostgresOutboxRepository.sameEvent command) = true := by
    intro there
    obtain ⟨e, stored, named⟩ := List.any_eq_true.mp there
    exact List.find?_eq_none.mp unknown e stored named
  have grown : (t.rows.set (t.sequence + 1) (newRow clock t command)).values =
      t.rows.values ++ [newRow clock t command] := InsertionMap.values_set_fresh fresh _
  refine enqueue_run valid kept (u := { t with
    rows := t.rows.set (t.sequence + 1) (newRow clock t command)
    sequence := t.sequence + 1 }) ?_ ?_
  · rw [insert_run]
    exact congrArg (Prod.mk _) (if_neg absent)
  · have own : PostgresOutboxRepository.sameEvent command (newRow clock t command) = true := by
      simp [PostgresOutboxRepository.sameEvent, newRow]
    simp only [PostgresOutboxRepository.events, grown, List.find?_append]
    rw [show t.rows.values.find? (PostgresOutboxRepository.sameEvent command) = none from unknown]
    simp [own]

end

/-- A call on Postgres answers as the mailbox does. -/
theorem postgres_steps (h : Tabled now t) (passed : now ≤ clock) {call : OutboxRepositoryCall}
    (proper : Proper call) :
    Tabled clock (PostgresOutboxRepository.perform clock t call).2 ∧
      Steps (PostgresOutboxRepository.perform clock t call).1
        (PostgresOutboxRepository.events (PostgresOutboxRepository.perform clock t call).2)
        (Mailbox.perform clock ((PostgresOutboxRepository.events t).map letter) call) := by
  have table := h.later passed
  cases call with
  | enqueue command =>
    simp only [PostgresOutboxRepository.perform, single_run]
    by_cases valid : command.valid = true
    · cases found : (PostgresOutboxRepository.events t).find? fun e => Mailbox.named command (letter e) with
      | some e =>
        rw [enqueue_found valid (proper valid) found]
        exact ⟨table.nextval.notified _, steps_found h.numbered clock valid found⟩
      | none =>
        have grown : (t.rows.set (t.sequence + 1) (newRow clock t command)).values =
            PostgresOutboxRepository.events t ++ [newRow clock t command] :=
          InsertionMap.values_set_fresh h.fresh _
        have inserted := table.insert (newRow clock t command) rfl rfl
        rw [enqueue_new h.fresh valid (proper valid) found]
        refine ⟨inserted.notified _, ?_⟩
        simp only [PostgresOutboxRepository.events, grown]
        refine steps_new h.numbered clock valid found rfl (Nat.succ_pos _) fun d there => ?_
        exact Nat.lt_succ_of_le (h.stored d.id d (h.row there)).2
    · have ran : (PostgresOutboxRepository.enqueue clock command).run t = (.error .zod, t) := by
        simp [PostgresOutboxRepository.enqueue, Store.run_bind, valid]
      rw [ran]
      exact ⟨table, steps_refused h.numbered clock valid⟩
  | markConsumed tenantId place consumedAt =>
    simp only [PostgresOutboxRepository.perform, single_run]
    cases at_ : (PostgresOutboxRepository.events t)[place]? with
    | none =>
      have unknown : t.rows.get 0 = none := by
        by_contra known
        obtain ⟨e, stored⟩ := Option.ne_none_iff_exists'.mp known
        have positive := h.numbered.positive e ((t.rows.mem_values e).mpr ⟨0, stored⟩)
        rw [(h.stored 0 e stored).1] at positive
        exact absurd positive (Nat.lt_irrefl 0)
      have ran : (PostgresOutboxRepository.markConsumed tenantId (idAt (PostgresOutboxRepository.events t) place)
          consumedAt).run t = (.error (.error ("Outbox event not found for tenant: " ++ decimal 0)), t) := by
        simp [PostgresOutboxRepository.markConsumed, Store.run_bind, parse_tenant proper.1, run_transaction, idAt,
          at_, unknown]
      rw [ran]
      exact ⟨table, steps_missing h.numbered clock (by simp [at_]) consumedAt _⟩
    | some e =>
      have stored : t.rows.get e.id = some e := h.row (List.mem_of_getElem? at_)
      by_cases owner : e.tenantId = tenantId
      · have ran : (PostgresOutboxRepository.markConsumed tenantId (idAt (PostgresOutboxRepository.events t) place)
            consumedAt).run t = (.ok { e with consumedAt := some consumedAt },
              { t with rows := t.rows.set e.id { e with consumedAt := some consumedAt } }) := by
          simp [PostgresOutboxRepository.markConsumed, Store.run_bind, parse_tenant proper.1, run_transaction, idAt,
            at_, stored, Option.filter, owner, proper.2]
        rw [ran]
        have values := values_marked (fun id row found => (h.stored id row found).1) stored consumedAt
        refine ⟨table.mark stored consumedAt, ?_⟩
        simp only [PostgresOutboxRepository.events, values]
        exact steps_marked h.numbered clock at_ owner consumedAt
      · have ran : (PostgresOutboxRepository.markConsumed tenantId (idAt (PostgresOutboxRepository.events t) place)
            consumedAt).run t = (.error (.error ("Outbox event not found for tenant: " ++ decimal e.id)), t) := by
          simp [PostgresOutboxRepository.markConsumed, Store.run_bind, parse_tenant proper.1, run_transaction, idAt,
            at_, stored, Option.filter, owner, proper.2]
        rw [ran]
        refine ⟨table, steps_missing h.numbered clock (fun d same => ?_) consumedAt _⟩
        rw [at_] at same
        cases same
        exact owner
  | listUnconsumed tenantId limit =>
    have listed := steps_unconsumed h.numbered clock tenantId limit
    rw [← (h.numbered.filter _).oldest] at listed
    simp only [PostgresOutboxRepository.perform, PostgresOutboxRepository.listUnconsumed, Store.run_bind,
      parse_tenant proper.1, proper.2, Store.run_read, Store.run_pure]
    exact ⟨table, listed⟩
  | listByEventType tenantId eventType limit =>
    have listed := steps_type h.numbered clock tenantId eventType limit
    have chosen := h.numbered.filter fun e => e.tenantId == tenantId && e.eventType == eventType
    rw [← chosen.newest (r := fun a b => PostgresOutboxRepository.newer a b = true) (h.grows.filter _)
      fun a b above below => newer_ties above below] at listed
    simp only [PostgresOutboxRepository.perform, PostgresOutboxRepository.listByEventType, Store.run_bind,
      parse_tenant proper.1, proper.2, Store.run_read, Store.run_pure]
    exact ⟨table, listed⟩

end

/-! Whole runs of calls, one after another. -/

/-- A call, seen beside the events it leaves. -/
def postgres (clock : Instant) (t : OutboxTable) (call : OutboxRepositoryCall) : Answer × OutboxTable :=
  let (answer, later) := PostgresOutboxRepository.perform clock t call
  (seen (PostgresOutboxRepository.events later) answer, later)

/-- What the calls of a log answer, each made at its time. -/
def answers (step : Instant → σ → OutboxRepositoryCall → Answer × σ) (s : σ) :
    List (Instant × OutboxRepositoryCall) → List Answer
  | [] => []
  | (clock, call) :: log => (step clock s call).1 :: answers step (step clock s call).2 log

section
variable {step : Instant → σ → OutboxRepositoryCall → Answer × σ}
  {told : Instant → τ → OutboxRepositoryCall → Answer × τ}
  {R : Instant → σ → τ → Prop} {Allowed : OutboxRepositoryCall → Prop}
  (each : ∀ now clock s t call, R now s t → now ≤ clock → Allowed call →
    (step clock s call).1 = (told clock t call).1 ∧ R clock (step clock s call).2 (told clock t call).2)
include each

theorem answers_from (log : List (Instant × OutboxRepositoryCall)) (ordered : log.Pairwise fun a b => a.1 ≤ b.1)
    (allowed : ∀ c ∈ log, Allowed c.2) (now : Instant) (passed : ∀ c ∈ log, now ≤ c.1) (s : σ) (t : τ)
    (related : R now s t) : answers step s log = answers told t log := by
  induction log generalizing now s t with
  | nil => rfl
  | cons c log ih =>
    obtain ⟨clock, call⟩ := c
    obtain ⟨above, ordered⟩ := List.pairwise_cons.mp ordered
    obtain ⟨answer, later⟩ := each now clock s t call related (passed _ List.mem_cons_self)
      (allowed _ List.mem_cons_self)
    have rest := ih ordered (fun c member => allowed c (List.mem_cons_of_mem _ member)) clock above _ _ later
    simp only [answers, answer, rest]

/-- Two outboxes that stay related answer alike for as long as their clock does
not turn back. -/
theorem answers_alike (log : List (Instant × OutboxRepositoryCall)) (ordered : log.Pairwise fun a b => a.1 ≤ b.1)
    (allowed : ∀ c ∈ log, Allowed c.2) (s : σ) (t : τ) (related : ∀ now, R now s t) :
    answers step s log = answers told t log := by
  cases log with
  | nil => rfl
  | cons c log =>
    have passed : ∀ d ∈ c :: log, c.1 ≤ d.1 := by
      intro d member
      rcases List.mem_cons.mp member with rfl | later
      · exact le_rfl
      · exact (List.pairwise_cons.mp ordered).1 d later
    exact answers_from each (c :: log) ordered allowed c.1 passed s t (related c.1)

end

theorem numbered_nil : Numbered [] := ⟨fun _ member => (List.not_mem_nil member).elim, List.Pairwise.nil⟩

theorem tabled_empty (now : Instant) : Tabled now PostgresOutboxRepository.empty where
  stored id row found := by cases found
  numbered := numbered_nil
  ordered := List.Pairwise.nil
  past _ member := (List.not_mem_nil member).elim

/-- Both outboxes answer every run of calls as the mailbox does, so one stands
in for the other. -/
theorem outboxes_agree (log : List (Instant × OutboxRepositoryCall)) (ordered : log.Pairwise fun a b => a.1 ≤ b.1)
    (proper : ∀ c ∈ log, Proper c.2) :
    answers memory .empty log = answers Mailbox.perform [] log ∧
      answers postgres PostgresOutboxRepository.empty log = answers Mailbox.perform [] log := by
  constructor
  · refine answers_alike (R := fun _ o b => o.Consistent ∧ Numbered o.events ∧ o.events.map letter = b)
      (fun now clock o b call related passed allowed => ?_) log ordered proper _ _ fun now =>
        ⟨InMemoryOutboxRepository.empty_consistent, numbered_nil, rfl⟩
    obtain ⟨consistent, numbered, rfl⟩ := related
    obtain ⟨later, steps⟩ := memory_steps consistent numbered clock call
    exact ⟨steps.answer, later, steps.numbered, steps.mailbox⟩
  · refine answers_alike (R := fun now t b => Tabled now t ∧ (PostgresOutboxRepository.events t).map letter = b)
      (fun now clock t b call related passed allowed => ?_) log ordered proper _ _ fun now => ⟨tabled_empty now, rfl⟩
    obtain ⟨table, rfl⟩ := related
    obtain ⟨later, steps⟩ := postgres_steps table passed allowed
    exact ⟨steps.answer, later, steps.mailbox⟩

def tenant : String := "00000000-0000-4000-8000-000000000001"

def pinging : EnqueueOutboxEvent := ⟨tenant, "ping.v1", "k", []⟩

/-- An event is queued twice, marked, and listed before and after. -/
def pings : List (Instant × OutboxRepositoryCall) :=
  [(1, .enqueue pinging), (2, .enqueue pinging), (2, .listUnconsumed tenant 10), (3, .markConsumed tenant 0 3),
    (4, .listUnconsumed tenant 10)]

theorem pings_agree :
    answers memory .empty pings = answers Mailbox.perform [] pings ∧
      answers postgres PostgresOutboxRepository.empty pings = answers Mailbox.perform [] pings := by
  have column : uuidColumn tenant = tenant := by decide
  have uuid : isUuid tenant = true := by decide
  refine outboxes_agree pings (by decide) fun c member => ?_
  simp only [pings, List.mem_cons, List.not_mem_nil, or_false] at member
  rcases member with rfl | rfl | rfl | rfl | rfl
  · exact fun _ => column
  · exact fun _ => column
  · exact ⟨uuid, column⟩
  · exact ⟨uuid, column⟩
  · exact ⟨uuid, column⟩

end VantGrowth.Proofs.OutboxTwins
