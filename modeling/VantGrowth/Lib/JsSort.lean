import Mathlib.Data.List.Sort

/-! What `Array.prototype.sort` promises of a comparison function. -/

namespace VantGrowth.Lib

section
variable (cmp : α → α → Int)

/-- The comparison divides the elements into classes that it orders. Where it
does not, the order they are sorted into is up to the implementation. -/
structure ConsistentOn (l : List α) : Prop where
  self : ∀ a ∈ l, cmp a a = 0
  symm : ∀ a ∈ l, ∀ b ∈ l, cmp a b = 0 → cmp b a = 0
  equal : ∀ a ∈ l, ∀ b ∈ l, ∀ c ∈ l, cmp a b = 0 → cmp b c = 0 → cmp a c = 0
  below : ∀ a ∈ l, ∀ b ∈ l, ∀ c ∈ l, cmp a b < 0 → cmp b c < 0 → cmp a c < 0
  above : ∀ a ∈ l, ∀ b ∈ l, ∀ c ∈ l, 0 < cmp a b → 0 < cmp b c → 0 < cmp a c

/-- A result that `l.sort(cmp)` may have. -/
structure SortsTo (l sorted : List α) : Prop where
  perm : sorted.Perm l
  ordered : ConsistentOn cmp l → sorted.Pairwise fun a b => cmp a b ≤ 0
  stable : ConsistentOn cmp l → ∀ a ∈ l,
    sorted.filter (fun b => cmp a b == 0) = l.filter fun b => cmp a b == 0

variable {cmp}

/-- A comparison by differences of one measure is consistent. -/
theorem ConsistentOn.of_measure {l : List α} {f : α → Int}
    (measure : ∀ a ∈ l, ∀ b ∈ l, cmp a b = f b - f a) : ConsistentOn cmp l := by
  constructor
  · intro a ha
    rw [measure a ha a ha]
    omega
  · intro a ha b hb
    rw [measure a ha b hb, measure b hb a ha]
    omega
  · intro a ha b hb c hc
    rw [measure a ha b hb, measure b hb c hc, measure a ha c hc]
    omega
  · intro a ha b hb c hc
    rw [measure a ha b hb, measure b hb c hc, measure a ha c hc]
    omega
  · intro a ha b hb c hc
    rw [measure a ha b hb, measure b hb c hc, measure a ha c hc]
    omega

/-- An element is inserted behind none that measures the same. -/
theorem filter_orderedInsert {f : α → Int} {n : Int} (a : α) (l : List α) :
    (l.orderedInsert (fun a b => f b ≤ f a) a).filter (fun b => f b == n) =
      (a :: l).filter fun b => f b == n := by
  induction l with
  | nil => simp
  | cons b l ih =>
    rw [List.orderedInsert_cons]
    split
    · rfl
    · rename_i passed
      rw [List.filter_cons, ih]
      simp only [List.filter_cons, beq_iff_eq]
      by_cases ofA : f a = n <;> by_cases ofB : f b = n <;> simp only [ofA, ofB, if_true, if_false]
      omega

/-- The stable sort by a measure, greatest first, is a result. -/
theorem SortsTo.of_measure {l : List α} {f : α → Int}
    (measure : ∀ a ∈ l, ∀ b ∈ l, cmp a b = f b - f a) :
    SortsTo cmp l (l.insertionSort fun a b => f b ≤ f a) := by
  have perm := List.perm_insertionSort (fun a b => f b ≤ f a) l
  have pairwise : (l.insertionSort fun a b => f b ≤ f a).Pairwise fun a b => f b ≤ f a :=
    List.pairwise_insertionSort (fun a b : α => f b ≤ f a) l
  have classes : ∀ (n : Int) (l : List α),
      (l.insertionSort fun a b => f b ≤ f a).filter (fun b => f b == n) =
        l.filter fun b => f b == n := by
    intro n l
    induction l with
    | nil => rfl
    | cons a l ih =>
      rw [List.insertionSort_cons, filter_orderedInsert, List.filter_cons, List.filter_cons, ih]
  refine ⟨perm, fun _ => ?_, fun _ a member => ?_⟩
  · refine pairwise.imp_of_mem fun {a b} ha hb below => ?_
    rw [measure a (perm.mem_iff.mp ha) b (perm.mem_iff.mp hb)]
    omega
  · have same : ∀ b ∈ l, (cmp a b == 0) = (f b == f a) := by
      intro b inside
      rw [measure a member b inside, Bool.eq_iff_iff, beq_iff_eq, beq_iff_eq]
      omega
    rw [List.filter_congr fun b inside => same b (perm.mem_iff.mp inside), classes,
      List.filter_congr same]

/-- Where no element is before another, nothing is moved. -/
theorem SortsTo.level {l sorted : List α} (sorts : SortsTo cmp l sorted)
    (same : ∀ a ∈ l, ∀ b ∈ l, cmp a b = 0) : sorted = l := by
  cases l with
  | nil => exact sorts.perm.eq_nil
  | cons a l =>
    have consistent : ConsistentOn cmp (a :: l) :=
      ConsistentOn.of_measure (f := fun _ => 0) fun b hb c hc => same b hb c hc
    have stable := sorts.stable consistent a (by simp)
    have whole : ∀ b ∈ a :: l, (cmp a b == 0) = true := by
      intro b member
      rw [same a (by simp) b member]
      rfl
    rw [List.filter_eq_self.mpr whole,
      List.filter_eq_self.mpr fun b member => whole b (sorts.perm.mem_iff.mp member)] at stable
    exact stable

/-- An inconsistent comparison may leave any element first. -/
theorem SortsTo.any_first {l : List α} (inconsistent : ¬ ConsistentOn cmp l) {a : α} (member : a ∈ l) :
    ∃ rest, SortsTo cmp l (a :: rest) := by
  obtain ⟨before, after, rfl⟩ := List.append_of_mem member
  refine ⟨before ++ after, ?_, ?_, ?_⟩
  · exact List.perm_middle.symm
  · exact fun consistent => absurd consistent inconsistent
  · exact fun consistent => absurd consistent inconsistent

end

end VantGrowth.Lib
