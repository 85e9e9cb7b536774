import VantGrowth.Db.Outbox
import VantGrowth.Lib.Firsts
import VantGrowth.Lib.Runs

namespace VantGrowth.Proofs.OutboxRuns
open Db Db.InMemoryOutboxRepository Lib

inductive OutboxCall where
  | enqueue (clock : Instant) (command : EnqueueOutboxEvent)
  | markConsumed (tenantId : String) (eventId : Nat) (consumedAt : Instant)
  | listUnconsumed (tenantId : String) (limit : Nat)
  | listByEventType (tenantId eventType : String) (limit : Nat)

/-- The outbox a call leaves, whether it returned or threw. -/
def perform (o : InMemoryOutboxRepository) : OutboxCall → InMemoryOutboxRepository
  | .enqueue clock command => ((InMemoryOutboxRepository.enqueue clock command).run o).2
  | .markConsumed tenantId eventId consumedAt =>
    ((InMemoryOutboxRepository.markConsumed tenantId eventId consumedAt).run o).2
  | .listUnconsumed _ _ => o
  | .listByEventType _ _ _ => o

/-- The commands that were enqueued, in order; the schema refuses the others. -/
def enqueued (calls : List OutboxCall) : List EnqueueOutboxEvent :=
  calls.filterMap fun
    | .enqueue _ command => if command.valid = true then some command else none
    | _ => none

def triple (command : EnqueueOutboxEvent) : String × String × String :=
  (command.tenantId, command.eventType, command.idempotencyKey)

theorem same_key_iff {e : StoredOutboxEvent} {command : EnqueueOutboxEvent} :
    SameKey e command ↔ triple e.toEnqueueOutboxEvent = triple command := by
  simp [SameKey, triple]

/-- The stored events are the first commands of their triples in the order they
came, and their ids count up. -/
structure Recorded (calls : List OutboxCall) (o : InMemoryOutboxRepository) : Prop where
  consistent : o.Consistent
  commands : o.events.map (·.toEnqueueOutboxEvent) = firsts triple (enqueued calls)
  ids : o.events.Pairwise (·.id < ·.id)

section
variable {calls : List OutboxCall} {o : InMemoryOutboxRepository}

theorem Recorded.known (h : Recorded calls o) (command : EnqueueOutboxEvent) :
    (∃ e ∈ o.events, SameKey e command) ↔
      triple command ∈ (firsts triple (enqueued calls)).map triple := by
  rw [← h.commands, List.map_map]
  constructor
  · intro ⟨e, member, same⟩
    exact List.mem_map.mpr ⟨e, member, same_key_iff.mp same⟩
  · intro there
    obtain ⟨e, member, same⟩ := List.mem_map.mp there
    exact ⟨e, member, same_key_iff.mpr same⟩

/-- An event that a call brought in has the next id. -/
theorem enqueue_numbered (o : InMemoryOutboxRepository) (clock : Instant) (command : EnqueueOutboxEvent) :
    (enqueue clock command).Ends o fun _ p => ∀ e ∈ p.events, e ∉ o.events →
      e.id = o.sequence + 1 := by
  apply Store.Ends.require_bind
  · intro _ e there new
    exact absurd there new
  · intro valid
    apply Store.Ends.read_bind
    split
    · apply Store.Ends.read_bind
      split
      · exact Store.Ends.pure fun e there new => absurd there new
      · exact Store.Ends.throw fun e there new => absurd there new
    · apply Store.Ends.read_bind
      apply Store.Ends.modify_bind
      apply Store.Ends.pure
      intro e there new
      obtain ⟨i, found⟩ := (InsertionMap.mem_values _ e).mp there
      simp only [InMemoryOutboxRepository.insert, InsertionMap.get_set] at found
      split at found
      · cases found
        rfl
      · exact absurd ((o.eventsById.mem_values e).mpr ⟨i, found⟩) new

theorem Recorded.enqueue (h : Recorded calls o) (clock : Instant) (command : EnqueueOutboxEvent) :
    Recorded (calls ++ [.enqueue clock command]) (perform o (.enqueue clock command)) := by
  change Recorded _ ((InMemoryOutboxRepository.enqueue clock command).run o).2
  by_cases valid : command.valid = true
  · have grown : enqueued (calls ++ [.enqueue clock command]) = enqueued calls ++ [command] := by
      simp [enqueued, valid]
    have numbered := enqueue_numbered o clock command
    unfold Store.Ends at numbered
    rcases enqueue_cases h.consistent clock valid with
      ⟨e, member, same, ran⟩ | ⟨e, p, ran, fresh, written, unread, events, consistent, keeps⟩
    · rw [ran]
      have known := (h.known command).mp ⟨e, member, same⟩
      constructor
      · exact h.consistent
      · rw [grown, firsts_snoc, if_pos known]
        exact h.commands
      · exact h.ids
    · rw [ran] at numbered ⊢
      have unknown : triple command ∉ (firsts triple (enqueued calls)).map triple := by
        intro known
        obtain ⟨d, member, same⟩ := (h.known command).mpr known
        exact fresh d member same
      have absent : e ∉ o.events := by
        intro member
        apply fresh e member
        rw [← written]
        exact ⟨rfl, rfl, rfl⟩
      have id : e.id = o.sequence + 1 := by
        apply numbered e _ absent
        simp [events]
      constructor
      · exact consistent
      · rw [grown, firsts_snoc, if_neg unknown, events, List.map_append, h.commands, ← written]
        rfl
      · rw [events, List.pairwise_append]
        refine ⟨h.ids, List.pairwise_singleton _ _, ?_⟩
        intro d member later last
        rw [List.mem_singleton.mp last, id]
        have bound := (h.consistent.stored d.id d (h.consistent.event member)).2.1
        omega
  · have refused : enqueued (calls ++ [.enqueue clock command]) = enqueued calls := by
      simp [enqueued, valid]
    have ran : (InMemoryOutboxRepository.enqueue clock command).run o = (.error .zod, o) := by
      simp [InMemoryOutboxRepository.enqueue, Store.run_bind, valid]
    rw [ran]
    constructor
    · exact h.consistent
    · rw [refused]
      exact h.commands
    · exact h.ids

/-- Marking an event rewrites it in place. -/
theorem consumes_events (h : o.Consistent) {tenantId : String} {id : Nat} {p : InMemoryOutboxRepository}
    (consumes : Consumes tenantId id o p) : ∃ at_, p.events =
      o.events.map fun e => if e.id = id then { e with consumedAt := some at_ } else e := by
  obtain ⟨e, at_, found, _, rows⟩ := consumes.event
  refine ⟨at_, ?_⟩
  have named : ∀ k v, o.eventsById.get k = some v → StoredOutboxEvent.id v = k := fun k v stored =>
    (h.stored k v stored).1
  unfold events
  rw [rows, InsertionMap.values_set_stored named found]
  apply List.map_congr_left
  intro d member
  split
  · rename_i same
    have stored := h.event member
    rw [same, found] at stored
    cases stored
    rfl
  · rfl

theorem Recorded.marked (h : Recorded calls o) (tenantId : String) (eventId : Nat)
    (consumedAt : Instant) : Recorded (calls ++ [.markConsumed tenantId eventId consumedAt])
      (perform o (.markConsumed tenantId eventId consumedAt)) := by
  have commands : enqueued (calls ++ [.markConsumed tenantId eventId consumedAt]) = enqueued calls := by
    simp [enqueued]
  have ends := markConsumed_ends h.consistent tenantId eventId consumedAt
  unfold Store.Ends at ends
  change Recorded _ ((InMemoryOutboxRepository.markConsumed tenantId eventId consumedAt).run o).2
  rcases ends with same | consumes
  · rw [same]
    exact ⟨h.consistent, commands ▸ h.commands, h.ids⟩
  · obtain ⟨at_, events⟩ := consumes_events h.consistent consumes
    constructor
    · exact consumes.consistent
    · rw [commands, ← h.commands, events, List.map_map]
      apply List.map_congr_left
      intro e _
      simp only [Function.comp_apply]
      split <;> rfl
    · rw [events]
      apply h.ids.map
      intro a b less
      split <;> split <;> exact less

/-- A listing changes nothing. -/
theorem Recorded.read (h : Recorded calls o) (call : OutboxCall)
    (nothing : enqueued (calls ++ [call]) = enqueued calls) : Recorded (calls ++ [call]) o :=
  ⟨h.consistent, nothing ▸ h.commands, h.ids⟩

theorem recorded (calls : List OutboxCall) : Recorded calls (runs perform empty calls) := by
  induction calls using List.reverseRecOn with
  | nil => exact ⟨empty_consistent, rfl, List.Pairwise.nil⟩
  | append_singleton calls call ih =>
    rw [runs_append]
    cases call with
    | enqueue clock command => exact ih.enqueue clock command
    | markConsumed tenantId eventId consumedAt => exact ih.marked tenantId eventId consumedAt
    | listUnconsumed tenantId limit => exact ih.read _ (by simp [enqueued])
    | listByEventType tenantId eventType limit => exact ih.read _ (by simp [enqueued])

theorem Recorded.oldest (h : Recorded calls o) (tenantId : String) (limit : Nat) :
    o.listUnconsumed tenantId limit =
      (o.events.filter fun e => e.tenantId == tenantId && e.consumedAt.isNone).take limit := by
  unfold listUnconsumed
  rw [List.Pairwise.insertionSort_eq]
  exact (h.ids.imp fun less => Nat.le_of_lt less).filter _

theorem Recorded.newest (h : Recorded calls o) (tenantId eventType : String) (limit : Nat) :
    o.listByEventType tenantId eventType limit =
      ((o.events.filter fun e => e.tenantId == tenantId && e.eventType == eventType).reverse).take
        limit := by
  unfold listByEventType
  have chosen := h.ids.filter fun e => e.tenantId == tenantId && e.eventType == eventType
  generalize rows : (o.events.filter fun e => e.tenantId == tenantId && e.eventType == eventType) =
    events at chosen
  apply congrArg (List.take limit)
  have sorted : (events.insertionSort fun a b => b.id ≤ a.id).Pairwise fun a b => b.id ≤ a.id :=
    List.pairwise_insertionSort (fun a b : StoredOutboxEvent => b.id ≤ a.id) events
  have reversed : events.reverse.Pairwise fun a b => b.id ≤ a.id :=
    List.pairwise_reverse.mpr (chosen.imp fun less => Nat.le_of_lt less)
  have same := (List.perm_insertionSort (fun a b : StoredOutboxEvent => b.id ≤ a.id) events).trans
    (List.reverse_perm events).symm
  apply List.Perm.eq_of_pairwise _ sorted reversed same
  intro a b first second above below
  -- ids tell the events apart
  have member : ∀ e ∈ events, o.eventsById.get e.id = some e := by
    intro e there
    rw [← rows] at there
    exact h.consistent.event (List.mem_filter.mp there).1
  have left := member a ((List.perm_insertionSort _ _).subset first)
  have right := member b (List.mem_reverse.mp second)
  rw [Nat.le_antisymm below above, right] at left
  exact (Option.some.inj left).symm

theorem Recorded.one (h : Recorded calls o) {command : EnqueueOutboxEvent}
    (came : command ∈ enqueued calls) : ∃! e, e ∈ o.events ∧ SameKey e command := by
  have key : triple command ∈ (firsts triple (enqueued calls)).map triple :=
    (mem_firsts_keys triple _ _).mpr (List.mem_map_of_mem came)
  obtain ⟨e, member, same⟩ := (h.known command).mpr key
  refine ⟨e, ⟨member, same⟩, ?_⟩
  intro d ⟨there, alike⟩
  apply h.consistent.unique there member
  rw [same_key_iff] at alike same ⊢
  rw [alike, same]

/-- Once consumed an event stays consumed. -/
theorem consumed_stays (h : Recorded calls o) {id : Nat} (consumed : Consumed o id)
    (call : OutboxCall) : Consumed (perform o call) id := by
  obtain ⟨e, stored, at_⟩ := consumed
  cases call with
  | enqueue clock command =>
    have ends := enqueue_ends h.consistent clock command
    unfold Store.Ends at ends
    change Consumed ((InMemoryOutboxRepository.enqueue clock command).run o).2 id
    rcases ends with same | sent
    · rw [same]
      exact ⟨e, stored, at_⟩
    · exact ⟨e, sent.keeps id e stored, at_⟩
  | markConsumed tenantId eventId consumedAt =>
    have ends := markConsumed_ends h.consistent tenantId eventId consumedAt
    unfold Store.Ends at ends
    change Consumed ((InMemoryOutboxRepository.markConsumed tenantId eventId consumedAt).run o).2 id
    rcases ends with same | consumes
    · rw [same]
      exact ⟨e, stored, at_⟩
    · obtain ⟨d, again, _, _, rows⟩ := consumes.event
      unfold Consumed
      rw [rows, InsertionMap.get_set]
      split
      · exact ⟨_, rfl, by simp⟩
      · exact ⟨e, stored, at_⟩
  | listUnconsumed tenantId limit => exact ⟨e, stored, at_⟩
  | listByEventType tenantId eventType limit => exact ⟨e, stored, at_⟩

theorem consumed_run {id : Nat} (calls later : List OutboxCall)
    (consumed : Consumed (runs perform empty calls) id) :
    Consumed (runs perform empty (calls ++ later)) id := by
  induction later using List.reverseRecOn with
  | nil => simpa using consumed
  | append_singleton later call ih =>
    rw [← List.append_assoc, runs_append]
    exact consumed_stays (recorded _) ih call

/-- After every sequence of calls the outbox holds one event for each triple
that was enqueued, as it was enqueued first and in that order; the oldest
unconsumed ones are listed, and what is consumed is never listed again. -/
theorem outbox_runs (calls later : List OutboxCall) :
    (∀ command ∈ enqueued calls, ∃! e, e ∈ (runs perform empty calls).events ∧ SameKey e command) ∧
    (runs perform empty calls).events.map (·.toEnqueueOutboxEvent) = firsts triple (enqueued calls) ∧
    (∀ tenantId limit, (runs perform empty calls).listUnconsumed tenantId limit =
      ((runs perform empty calls).events.filter fun e =>
        e.tenantId == tenantId && e.consumedAt.isNone).take limit) ∧
    ∀ id, Consumed (runs perform empty calls) id → ∀ tenantId limit,
      ∀ e ∈ (runs perform empty (calls ++ later)).listUnconsumed tenantId limit, e.id ≠ id := by
  have h := recorded calls
  refine ⟨fun command came => h.one came, h.commands, h.oldest, ?_⟩
  intro id consumed tenantId limit e listed same
  obtain ⟨d, stored, at_⟩ := consumed_run calls later consumed
  obtain ⟨member, _, unread⟩ := mem_listUnconsumed listed
  have found := (recorded (calls ++ later)).consistent.event member
  rw [same, stored] at found
  cases found
  exact at_ unread

end

end VantGrowth.Proofs.OutboxRuns
