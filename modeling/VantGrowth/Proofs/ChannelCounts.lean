import Mathlib.Data.Finset.Card
import Mathlib.Data.List.Induction
import VantGrowth.Attribution.Rollup

namespace VantGrowth.Proofs.ChannelCounts
open Lib Lib.JsObject Attribution

/-! What a rollup says about the channels of its touchpoints. -/

structure CountsRight (channels : List JsString) (rollup : RollupCounts) : Prop where
  total : rollup.totalTouchpoints = channels.length
  unique : rollup.uniqueChannels = channels.toFinset.card
  empty : rollup.topChannel = none ↔ channels = []
  top : ∀ top, rollup.topChannel = some top →
    top ∈ channels ∧ ∀ c ∈ channels, channels.count c ≤ channels.count top

def namesFunction (channel : JsString) : Bool := (inheritedFunctions.lookup channel).isSome

/-- The channels that an object can list, in its order. -/
def listedChannels (channels : List JsString) : List JsString :=
  arrange id (channels.filter (· ≠ protoName)).eraseDups

/-- The channels that are counted in numbers all occur equally often. -/
def Level (channels : List JsString) : Prop :=
  ∀ c ∈ channels, ∀ c' ∈ channels, c ≠ protoName → c' ≠ protoName → namesFunction c = false →
    namesFunction c' = false → channels.count c = channels.count c'

/-- No channel names an inherited function and one that is not `__proto__` occurs
no less often than that; or all channels that are counted in numbers occur
equally often, and none more often than the one that is listed first. -/
def Countable (channels : List JsString) : Prop :=
  channels = [] ∨
  ((∀ c ∈ channels, namesFunction c = false) ∧
    ∃ c ∈ channels, c ≠ protoName ∧ channels.count protoName ≤ channels.count c) ∨
  ((∃ c ∈ channels, namesFunction c = true) ∧ Level channels ∧
    ∃ first, (listedChannels channels).head? = some first ∧
      ∀ c ∈ channels, channels.count c ≤ channels.count first)

section
variable {α : Type} [BEq α] [LawfulBEq α]

theorem eraseDups_there {l : List α} {a : α} (there : a ∈ l) :
    (l ++ [a]).eraseDups = l.eraseDups := by
  simp [List.eraseDups_append, List.removeAll, there]

theorem eraseDups_fresh {l : List α} {a : α} (fresh : a ∉ l) :
    (l ++ [a]).eraseDups = l.eraseDups ++ [a] := by
  simp [List.eraseDups_append, List.removeAll, fresh, List.eraseDups_cons]

theorem nodup_eraseDups (l : List α) : l.eraseDups.Nodup := by
  induction l using List.reverseRecOn with
  | nil => exact List.nodup_nil
  | append_singleton l a ih =>
    by_cases there : a ∈ l
    · rw [eraseDups_there there]
      exact ih
    · rw [eraseDups_fresh there]
      refine List.nodup_append'.mpr ⟨ih, List.nodup_singleton a, ?_⟩
      intro b old new
      rw [List.mem_singleton.mp new] at old
      exact there (List.mem_eraseDups.mp old)

theorem length_eraseDups [DecidableEq α] (l : List α) : l.eraseDups.length = l.toFinset.card := by
  rw [← List.toFinset_card_of_nodup (nodup_eraseDups l)]
  congr 1
  ext a
  simp

end

section
variable {channels : List JsString}

theorem counts_snoc (channels : List JsString) (c : JsString) :
    counts (channels ++ [c]) = countChannel (counts channels) c := by
  simp [counts]

theorem counts_keys (channels : List JsString) :
    (counts channels).entries.map Prod.fst = (channels.filter (· ≠ protoName)).eraseDups := by
  induction channels using List.reverseRecOn with
  | nil => rfl
  | append_singleton channels c ih =>
    rw [counts_snoc, countChannel, List.filter_append]
    by_cases proto : c = protoName
    · simp [proto, ih]
    · have kept : [c].filter (· ≠ protoName) = [c] := by simp [proto]
      rw [if_neg proto, kept, InsertionMap.set, InsertionMap.place_keys, ih]
      simp only [List.mem_eraseDups]
      split
      · rename_i there
        rw [eraseDups_there there]
      · rename_i fresh
        rw [eraseDups_fresh fresh]

theorem counts_step (channels : List JsString) {c d : JsString} (plain : c ≠ protoName) :
    (counts (channels ++ [d])).get c =
      if c = d then some (readTally (counts channels) c).plusOne else (counts channels).get c := by
  rw [counts_snoc, countChannel]
  by_cases proto : d = protoName
  · have apart : c ≠ d := fun same => plain (same.trans proto)
    rw [if_pos proto, if_neg apart]
  · rw [if_neg proto, InsertionMap.get_set]
    split
    · rename_i same
      rw [same]
    · rfl

/-- A channel that names no function is counted. -/
theorem counts_number (channels : List JsString) {c : JsString} (plain : c ≠ protoName)
    (own : namesFunction c = false) : (counts channels).get c =
      if c ∈ channels then some (.count (channels.count c)) else none := by
  have unnamed : inheritedFunctions.lookup c = none := by
    simpa [namesFunction] using own
  induction channels using List.reverseRecOn with
  | nil => rfl
  | append_singleton channels d ih =>
    rw [counts_step channels plain]
    by_cases same : c = d
    · subst same
      by_cases there : c ∈ channels
      · simp [readTally, ih, there, Tally.plusOne]
      · simp [readTally, ih, there, unnamed, Tally.plusOne, List.count_eq_zero.mpr there]
    · simp [same, ih, Ne.symm same]

/-- One that does holds a text, once it occurs. -/
theorem counts_text (channels : List JsString) {c : JsString} (plain : c ≠ protoName)
    (inherited : namesFunction c = true) :
    (c ∉ channels → (counts channels).get c = none) ∧
      (c ∈ channels → ∃ s, (counts channels).get c = some (.text s)) := by
  obtain ⟨shown, named⟩ := Option.isSome_iff_exists.mp inherited
  induction channels using List.reverseRecOn with
  | nil => exact ⟨fun _ => rfl, fun there => by cases there⟩
  | append_singleton channels d ih =>
    rw [counts_step channels plain]
    by_cases same : c = d
    · subst same
      refine ⟨fun absent => absurd (by simp) absent, fun _ => ?_⟩
      by_cases there : c ∈ channels
      · obtain ⟨s, held⟩ := ih.2 there
        exact ⟨s ++ "1", by simp [readTally, held, Tally.plusOne]⟩
      · exact ⟨shown ++ "1", by simp [readTally, ih.1 there, named, Tally.plusOne]⟩
    · simpa [same] using ih

theorem mem_entries {own : InsertionMap JsString Tally} {c : JsString} {v : Tally} :
    (c, v) ∈ entries own ↔ own.get c = some v := by
  rw [entries, (arrange_perm _ _).mem_iff, InsertionMap.get_eq_some_iff]

theorem entries_listed (channels : List JsString) :
    (entries (counts channels)).map Prod.fst = listedChannels channels := by
  have named := arrange_map Prod.fst id (counts channels).entries
  rw [counts_keys] at named
  exact named

theorem mem_listed {c : JsString} : c ∈ listedChannels channels ↔ c ∈ channels ∧ c ≠ protoName := by
  rw [listedChannels, (arrange_perm _ _).mem_iff]
  simp [List.mem_eraseDups]

theorem entry_channel {e : JsString × Tally} (member : e ∈ entries (counts channels)) :
    e.1 ∈ channels ∧ e.1 ≠ protoName := by
  rw [← mem_listed, ← entries_listed]
  exact List.mem_map_of_mem member

/-- An entry of a channel that names no function holds its number. -/
theorem entry_number {e : JsString × Tally} (member : e ∈ entries (counts channels))
    (own : namesFunction e.1 = false) : e.2 = .count (channels.count e.1) := by
  obtain ⟨there, plain⟩ := entry_channel member
  have held : (counts channels).get e.1 = some e.2 := mem_entries.mp member
  rw [counts_number channels plain own, if_pos there] at held
  exact (Option.some.inj held).symm

theorem number_entry {c : JsString} (there : c ∈ channels) (plain : c ≠ protoName)
    (own : namesFunction c = false) :
    (c, .count (channels.count c)) ∈ entries (counts channels) := by
  rw [mem_entries, counts_number channels plain own, if_pos there]

theorem text_entry {c : JsString} (there : c ∈ channels) (plain : c ≠ protoName)
    (inherited : namesFunction c = true) : ∃ s, (c, .text s) ∈ entries (counts channels) := by
  obtain ⟨s, held⟩ := (counts_text channels plain inherited).2 there
  exact ⟨s, mem_entries.mpr held⟩

theorem function_plain {c : JsString} (inherited : namesFunction c = true) : c ≠ protoName := by
  rintro rfl
  revert inherited
  decide

/-- The number of an entry, as far as it has one. -/
def number (e : JsString × Tally) : Int :=
  match e.2 with
  | .count n => n
  | .text _ => 0

theorem compare_numbers {a b : JsString × Tally} {m n : Nat} (left : a.2 = .count m)
    (right : b.2 = .count n) : compareCounts a b = number b - number a := by
  simp [compareCounts, number, left, right]

/-- Where no channel names a function, entries are compared by their numbers. -/
theorem plain_compare (plain : ∀ c ∈ channels, namesFunction c = false) :
    ∀ a ∈ entries (counts channels), ∀ b ∈ entries (counts channels),
      compareCounts a b = number b - number a := by
  intro a ha b hb
  exact compare_numbers (entry_number ha (plain a.1 (entry_channel ha).1))
    (entry_number hb (plain b.1 (entry_channel hb).1))

/-- The first of the sorted entries is of a channel that occurs most often. -/
theorem plain_first (plain : ∀ c ∈ channels, namesFunction c = false)
    {sorted : List (JsString × Tally)}
    (sorts : SortsTo compareCounts (entries (counts channels)) sorted) {top : JsString}
    (first : sorted.head?.map Prod.fst = some top) : top ∈ channels ∧ top ≠ protoName ∧
      ∀ c ∈ channels, c ≠ protoName → channels.count c ≤ channels.count top := by
  obtain ⟨e, head, rfl⟩ := Option.map_eq_some_iff.mp first
  obtain ⟨rest, rfl⟩ : ∃ rest, sorted = e :: rest := by
    cases sorted with
    | nil => cases head
    | cons d rest =>
      cases head
      exact ⟨rest, rfl⟩
  have member : e ∈ entries (counts channels) := sorts.perm.mem_iff.mp (by simp)
  have ordered := sorts.ordered (.of_measure (plain_compare plain))
  obtain ⟨there, unproto⟩ := entry_channel member
  refine ⟨there, unproto, fun c occurs apart => ?_⟩
  have entry := number_entry occurs apart (plain c occurs)
  have own := entry_number member (plain e.1 there)
  have compared := compare_numbers (b := (c, .count (channels.count c))) own rfl
  have below : compareCounts e (c, .count (channels.count c)) ≤ 0 := by
    rcases List.mem_cons.mp (sorts.perm.mem_iff.mpr entry) with same | later
    · rw [compared, ← same]
      omega
    · exact (List.pairwise_cons.mp ordered).1 _ later
  rw [compared] at below
  simp only [number, own] at below
  omega

theorem sorted_empty {sorted : List (JsString × Tally)}
    (sorts : SortsTo compareCounts (entries (counts channels)) sorted) :
    sorted.head?.map Prod.fst = none ↔ ∀ c ∈ channels, c = protoName := by
  rw [Option.map_eq_none_iff, List.head?_eq_none_iff]
  constructor
  · rintro rfl c there
    by_contra plain
    have member := mem_listed.mpr ⟨there, plain⟩
    rw [← entries_listed, List.mem_map] at member
    obtain ⟨e, inside, _⟩ := member
    cases sorts.perm.mem_iff.mpr inside
  · intro protos
    apply List.eq_nil_iff_forall_not_mem.mpr
    intro e member
    obtain ⟨there, plain⟩ := entry_channel (sorts.perm.mem_iff.mp member)
    exact plain (protos e.1 there)

/-- Where all numbers are equal no entry is before another. -/
theorem level_compare (level : Level channels) :
    ∀ a ∈ entries (counts channels), ∀ b ∈ entries (counts channels), compareCounts a b = 0 := by
  intro a ha b hb
  obtain ⟨aThere, aPlain⟩ := entry_channel ha
  obtain ⟨bThere, bPlain⟩ := entry_channel hb
  cases aFunction : namesFunction a.1 with
  | true =>
    obtain ⟨s, held⟩ := (counts_text channels aPlain aFunction).2 aThere
    have text := Option.some.inj ((mem_entries.mp ha).symm.trans held)
    simp [compareCounts, text]
  | false =>
    cases bFunction : namesFunction b.1 with
    | true =>
      obtain ⟨s, held⟩ := (counts_text channels bPlain bFunction).2 bThere
      have text := Option.some.inj ((mem_entries.mp hb).symm.trans held)
      simp only [compareCounts, text]
      split <;> simp_all
    | false =>
      have same := level a.1 aThere b.1 bThere aPlain bPlain aFunction bFunction
      simp [compareCounts, entry_number ha aFunction, entry_number hb bFunction, same]

/-- A text between two numbers that differ makes the comparison inconsistent. -/
theorem uneven_inconsistent {f : JsString} (there : f ∈ channels) (inherited : namesFunction f = true)
    (uneven : ¬ Level channels) :
    ¬ ConsistentOn compareCounts (entries (counts channels)) := by
  intro consistent
  apply uneven
  intro c hc c' hc' plain plain' own own'
  obtain ⟨s, text⟩ := text_entry there (function_plain inherited) inherited
  have entry := number_entry hc plain own
  have entry' := number_entry hc' plain' own'
  have equal := consistent.equal _ entry _ text _ entry' rfl rfl
  simp only [compareCounts] at equal
  omega

end

section
variable {touchpoints : List Touchpoint} {channels : List JsString}

/-- What each rollup says once its top channel is known. -/
theorem counts_right {sorted : List (JsString × Tally)} (of : touchpoints.map (·.channel) = channels)
    (empty : sorted.head?.map Prod.fst = none ↔ channels = [])
    (top : ∀ top, sorted.head?.map Prod.fst = some top →
      top ∈ channels ∧ ∀ c ∈ channels, channels.count c ≤ channels.count top) :
    CountsRight channels
      ⟨touchpoints.length, channels.eraseDups.length, sorted.head?.map Prod.fst⟩ := by
  refine ⟨?_, length_eraseDups channels, empty, top⟩
  rw [← of, List.length_map]

/-- Where a channel of the list occurs as often as `__proto__`, the top of the
others is the top of all. -/
theorem plain_right (of : touchpoints.map (·.channel) = channels)
    (plain : ∀ c ∈ channels, namesFunction c = false) :
    (∀ rollup, Synthesizes touchpoints rollup → CountsRight channels rollup) ↔
      channels = [] ∨ ∃ c ∈ channels, c ≠ protoName ∧ channels.count protoName ≤ channels.count c := by
  constructor
  · intro right
    have sorts := SortsTo.of_measure (plain_compare plain)
    have counted := right _ ⟨_, by rw [of]; exact sorts, rfl⟩
    by_cases none : channels = []
    · exact .inl none
    · obtain ⟨top, first⟩ := Option.ne_none_iff_exists'.mp fun absent => none (counted.empty.mp absent)
      obtain ⟨there, most⟩ := counted.top top first
      have unproto := (plain_first plain sorts first).2.1
      refine .inr ⟨top, there, unproto, ?_⟩
      by_cases proto : protoName ∈ channels
      · exact most protoName proto
      · rw [List.count_eq_zero.mpr proto]
        exact Nat.zero_le _
  · rintro often rollup ⟨sorted, sorts, rfl⟩
    rw [of] at sorts ⊢
    apply counts_right of
    · rw [sorted_empty sorts]
      constructor
      · intro protos
        rcases often with none | ⟨c, there, apart, _⟩
        · exact none
        · exact absurd (protos c there) apart
      · rintro rfl c there
        cases there
    · intro top first
      obtain ⟨there, unproto, most⟩ := plain_first plain sorts first
      refine ⟨there, fun c occurs => ?_⟩
      by_cases proto : c = protoName
      · rcases often with none | ⟨d, inside, apart, more⟩
        · rw [none] at there
          cases there
        · rw [proto]
          exact more.trans (most d inside apart)
      · exact most c occurs proto

theorem level_right (of : touchpoints.map (·.channel) = channels) {f : JsString}
    (there : f ∈ channels) (inherited : namesFunction f = true) (level : Level channels) :
    (∀ rollup, Synthesizes touchpoints rollup → CountsRight channels rollup) ↔
      ∃ first, (listedChannels channels).head? = some first ∧
        ∀ c ∈ channels, channels.count c ≤ channels.count first := by
  have sorts : SortsTo compareCounts (entries (counts channels)) (entries (counts channels)) :=
    ⟨List.Perm.refl _, fun _ => List.pairwise_of_forall_mem_list fun a ha b hb =>
      (level_compare level a ha b hb).le, fun _ _ _ => rfl⟩
  have listed : (entries (counts channels)).head?.map Prod.fst = (listedChannels channels).head? := by
    rw [← entries_listed, List.head?_map]
  constructor
  · intro right
    have counted := right _ ⟨_, by rw [of]; exact sorts, rfl⟩
    obtain ⟨top, first⟩ := Option.ne_none_iff_exists'.mp fun absent => by
      rw [counted.empty.mp absent] at there
      cases there
    exact ⟨top, listed.symm.trans first, (counted.top top first).2⟩
  · rintro ⟨first, head, most⟩ rollup ⟨sorted, moved, rfl⟩
    rw [of] at moved ⊢
    have same := moved.level (level_compare level)
    rw [same]
    apply counts_right of
    · rw [sorted_empty sorts]
      constructor
      · intro protos
        exact absurd (protos f there) (function_plain inherited)
      · rintro rfl
        cases there
    · intro top topped
      rw [listed, head] at topped
      cases topped
      exact ⟨(mem_listed.mp (List.mem_of_head? head)).1, most⟩

/-- Where the numbers differ, a channel of a lesser one may come out on top. -/
theorem uneven_wrong (of : touchpoints.map (·.channel) = channels) {f : JsString}
    (there : f ∈ channels) (inherited : namesFunction f = true) (uneven : ¬ Level channels) :
    ¬ ∀ rollup, Synthesizes touchpoints rollup → CountsRight channels rollup := by
  intro right
  have most : ∀ c ∈ channels, c ≠ protoName → namesFunction c = false →
      ∀ c' ∈ channels, channels.count c' ≤ channels.count c := by
    intro c hc plain own
    obtain ⟨rest, sorts⟩ := SortsTo.any_first (uneven_inconsistent there inherited uneven)
      (number_entry hc plain own)
    have counted := right _ ⟨_, by rw [of]; exact sorts, rfl⟩
    exact (counted.top c rfl).2
  exact uneven fun c hc c' hc' plain plain' own own' =>
    le_antisymm (most c' hc' plain' own' c hc) (most c hc plain own c' hc')

end

/-- A rollup counts the channels right exactly where they are countable. -/
theorem counts_channels_iff (touchpoints : List Touchpoint) :
    (∀ rollup, Synthesizes touchpoints rollup →
      CountsRight (touchpoints.map (·.channel)) rollup) ↔
        Countable (touchpoints.map (·.channel)) := by
  generalize of : touchpoints.map (·.channel) = channels
  by_cases functions : ∃ c ∈ channels, namesFunction c = true
  · obtain ⟨f, there, inherited⟩ := functions
    have filled : channels ≠ [] := by
      rintro rfl
      cases there
    have unplain : ¬ ∀ c ∈ channels, namesFunction c = false := by
      intro plain
      rw [plain f there] at inherited
      cases inherited
    by_cases level : Level channels
    · rw [level_right of there inherited level]
      constructor
      · exact fun first => .inr (.inr ⟨⟨f, there, inherited⟩, level, first⟩)
      · rintro (none | ⟨plain, _⟩ | ⟨_, _, first⟩)
        · exact absurd none filled
        · exact absurd plain unplain
        · exact first
    · refine iff_of_false (uneven_wrong of there inherited level) ?_
      rintro (none | ⟨plain, _⟩ | ⟨_, even, _⟩)
      · exact filled none
      · exact unplain plain
      · exact level even
  · have plain : ∀ c ∈ channels, namesFunction c = false := by
      intro c there
      rw [← Bool.not_eq_true]
      exact fun inherited => functions ⟨c, there, inherited⟩
    rw [plain_right of plain]
    constructor
    · rintro (none | often)
      · exact .inl none
      · exact .inr (.inl ⟨plain, often⟩)
    · rintro (none | ⟨_, often⟩ | ⟨named, _⟩)
      · exact .inl none
      · exact .inr often
      · exact absurd named functions

/-- A touchpoint of the channel `__proto__` is counted nowhere, and two of
`constructor` come after one of another channel. -/
theorem inherited_uncounted :
    Synthesizes [⟨protoName⟩] ⟨1, 1, none⟩ ∧
      Synthesizes [⟨.ofString "email"⟩, ⟨.ofString "constructor"⟩, ⟨.ofString "constructor"⟩]
        ⟨3, 2, some (.ofString "email")⟩ ∧
      ¬ ∀ touchpoints rollup, validTouchpoints touchpoints = true → Synthesizes touchpoints rollup →
        CountsRight (touchpoints.map (·.channel)) rollup := by
  have proto : Synthesizes [⟨protoName⟩] ⟨1, 1, none⟩ :=
    ⟨[], ⟨by decide, fun _ => List.Pairwise.nil, fun _ _ member => by cases member⟩,
      by decide⟩
  have twice : Synthesizes
      [⟨.ofString "email"⟩, ⟨.ofString "constructor"⟩, ⟨.ofString "constructor"⟩]
      ⟨3, 2, some (.ofString "email")⟩ := by
    refine ⟨_, ⟨List.Perm.refl _, fun _ => ?_, fun _ _ _ => rfl⟩, by decide⟩
    decide
  refine ⟨proto, twice, fun claim => ?_⟩
  have right := claim _ _ (by decide) proto
  cases right.empty.mp rfl

end VantGrowth.Proofs.ChannelCounts
