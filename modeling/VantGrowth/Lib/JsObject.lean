import Mathlib.Data.List.Sort
import VantGrowth.Lib.InsertionMap
import VantGrowth.Lib.JsString

/-! Plain objects: the order in which one lists its properties, and `delete`. -/

namespace VantGrowth.Lib.JsObject

def isDigit (u : UInt16) : Bool := 0x30 ≤ u && u ≤ 0x39

/-- The value of a run of digits. -/
def digitsValue (digits : JsString) : Nat :=
  digits.foldl (fun n u => 10 * n + (u.toNat - 0x30)) 0

/-- The number that a name is an array index of: a decimal without leading
zeros that is below 2 ^ 32 - 1. -/
def arrayIndex (name : JsString) : Option Nat :=
  if name = [0x30] then some 0
  else if name ≠ [] ∧ name.head? ≠ some 0x30 ∧ name.all isDigit = true ∧
      digitsValue name < 4294967295 then some (digitsValue name)
  else none

/-- Array indices come first, in ascending order; the other names follow in the
order in which they were added. -/
def arrange (name : α → JsString) (l : List α) : List α :=
  (l.filter fun a => (arrayIndex (name a)).isSome).insertionSort
      (fun a b => (arrayIndex (name a)).getD 0 ≤ (arrayIndex (name b)).getD 0) ++
    l.filter fun a => (arrayIndex (name a)).isNone

theorem arrange_perm (name : α → JsString) (l : List α) : (arrange name l).Perm l := by
  unfold arrange
  refine ((List.perm_insertionSort _ _).append_right _).trans ?_
  have others : (fun a => (arrayIndex (name a)).isNone) = fun a => !(arrayIndex (name a)).isSome := by
    funext a
    cases arrayIndex (name a) <;> rfl
  rw [others]
  exact List.filter_append_perm _ l

theorem arrange_map {β : Type} (f : β → α) (name : α → JsString) (l : List β) :
    (arrange (fun b => name (f b)) l).map f = arrange name (l.map f) := by
  unfold arrange
  rw [List.map_append, List.filter_map, List.filter_map]
  congr 1
  exact List.map_insertionSort _ _ f _ fun a _ b _ => Iff.rfl

/-- `Object.entries` of an object with these own properties. -/
def entries (own : InsertionMap JsString ν) : List (JsString × ν) := arrange Prod.fst own.entries

end VantGrowth.Lib.JsObject

namespace VantGrowth.Lib.InsertionMap

section
variable {κ ν : Type} [DecidableEq κ]

/-- `delete` of a property. -/
def erase (m : InsertionMap κ ν) (k : κ) : InsertionMap κ ν where
  entries := m.entries.filter (·.1 ≠ k)
  unique := m.unique.sublist (List.filter_sublist.map Prod.fst)

theorem get_erase (m : InsertionMap κ ν) (j k : κ) :
    (m.erase k).get j = if j = k then none else m.get j := by
  apply Option.ext
  intro v
  rw [get_eq_some_iff, erase]
  split
  · rename_i same
    simp [same]
  · rename_i apart
    simp [apart, get_eq_some_iff]

/-- The entries of some of the keys. -/
def restrict (m : InsertionMap κ ν) (p : κ → Bool) : List (κ × ν) := m.entries.filter fun e => p e.1

theorem restrict_set_other {p : κ → Bool} (m : InsertionMap κ ν) {k : κ} (other : p k = false) (v : ν) :
    (m.set k v).restrict p = m.restrict p := by
  have placed : ∀ es : List (κ × ν),
      (place k v es).filter (fun e => p e.1) = es.filter fun e => p e.1 := by
    intro es
    induction es with
    | nil => simp [place, other]
    | cons e es ih =>
      by_cases here : e.1 = k
      · simp [place, here, other]
      · simp [place, here, List.filter_cons, ih]
  exact placed m.entries

theorem restrict_set {p : κ → Bool} {m n : InsertionMap κ ν} {k : κ} (own : p k = true)
    (same : m.restrict p = n.restrict p) (v : ν) :
    (m.set k v).restrict p = (n.set k v).restrict p := by
  have placed : ∀ es : List (κ × ν),
      (place k v es).filter (fun e => p e.1) = place k v (es.filter fun e => p e.1) := by
    intro es
    induction es with
    | nil => simp [place, own]
    | cons e es ih =>
      by_cases here : e.1 = k
      · simp [place, here, own]
      · by_cases kept : p e.1 = true
        · simp [place, here, kept, ih]
        · simp [place, here, kept, ih]
  unfold restrict at same ⊢
  rw [set, set, placed, placed, same]

theorem restrict_erase_other {p : κ → Bool} (m : InsertionMap κ ν) {k : κ} (other : p k = false) :
    (m.erase k).restrict p = m.restrict p := by
  unfold restrict erase
  rw [List.filter_filter]
  refine List.filter_congr fun e _ => ?_
  by_cases here : e.1 = k
  · simp [here, other]
  · simp [here]

theorem restrict_erase {p : κ → Bool} {m n : InsertionMap κ ν} {k : κ}
    (same : m.restrict p = n.restrict p) : (m.erase k).restrict p = (n.erase k).restrict p := by
  have swapped : ∀ m : InsertionMap κ ν,
      (m.erase k).restrict p = (m.restrict p).filter (·.1 ≠ k) := by
    intro m
    unfold restrict erase
    rw [List.filter_filter, List.filter_filter]
    exact List.filter_congr fun e _ => Bool.and_comm _ _
  rw [swapped, swapped, same]

theorem get_restrict {p : κ → Bool} {m n : InsertionMap κ ν} (same : m.restrict p = n.restrict p)
    {k : κ} (own : p k = true) : m.get k = n.get k := by
  apply Option.ext
  intro v
  have member := congrArg ((k, v) ∈ ·) same
  simpa [restrict, own, get_eq_some_iff] using member

end

end VantGrowth.Lib.InsertionMap
