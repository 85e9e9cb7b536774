import Mathlib.Data.List.Induction
import Mathlib.Data.List.Sort
import Mathlib.Data.List.TakeDrop
import Mathlib.Data.Prod.Lex
import Mathlib.Tactic.Common

/-! The first of the greatest elements of a list: the head of a stable sort,
and what a pass that replaces only by greater elements ends with; and what a
sort by two keys may put first. -/

namespace VantGrowth.Lib

section
variable {β : Type} [LinearOrder β] (f : α → β)

def leading : List α → Option α
  | [] => none
  | a :: l =>
    match leading l with
    | none => some a
    | some b => if f b ≤ f a then some a else some b

theorem leading_eq_none {l : List α} : leading f l = none ↔ l = [] := by
  cases l with
  | nil => simp [leading]
  | cons a l =>
    unfold leading
    cases leading f l with
    | none => simp
    | some b =>
      dsimp only
      split <;> simp

theorem leading_snoc (l : List α) (a : α) :
    leading f (l ++ [a]) =
      match leading f l with
      | none => some a
      | some b => if f b < f a then some a else some b := by
  induction l with
  | nil => rfl
  | cons c l ih =>
    rw [List.cons_append, leading, ih, leading]
    cases leading f l with
    | none =>
      dsimp only
      by_cases less : f c < f a
      · rw [if_pos less, if_neg (not_le.mpr less)]
      · rw [if_neg less, if_pos (not_lt.mp less)]
    | some b =>
      dsimp only
      by_cases less : f b < f a <;> by_cases le : f b ≤ f c <;> by_cases lt : f c < f a <;>
        simp only [less, le, lt, ↓reduceIte] <;> grind

theorem head_insertionSort (l : List α) :
    (l.insertionSort fun a b => f b ≤ f a).head? = leading f l := by
  induction l with
  | nil => rfl
  | cons a l ih =>
    rw [List.insertionSort_cons, leading, ← ih]
    cases l.insertionSort fun a b => f b ≤ f a with
    | nil => rfl
    | cons b rest =>
      rw [List.orderedInsert_cons, List.head?_cons]
      dsimp only
      split <;> rfl

theorem leading_cut {l : List α} {a : α} (leads : leading f l = some a) :
    ∃ before after, l = before ++ a :: after ∧ (∀ b ∈ before, f b < f a) ∧ ∀ b ∈ after, f b ≤ f a := by
  induction l using List.reverseRecOn generalizing a with
  | nil => cases leads
  | append_singleton l c ih =>
    rw [leading_snoc] at leads
    cases led : leading f l with
    | none =>
      rw [led] at leads
      cases leads
      have none := (leading_eq_none f).mp led
      exact ⟨[], [], by simp [none], by simp, by simp⟩
    | some b =>
      obtain ⟨before, after, split_, earlier, later⟩ := ih led
      simp only [led] at leads
      split at leads
      · rename_i less
        cases leads
        refine ⟨l, [], by simp, ?_, by simp⟩
        intro d member
        rw [split_] at member
        rcases List.mem_append.mp member with early | here
        · exact (earlier d early).trans less
        · rcases List.mem_cons.mp here with rfl | late
          · exact less
          · exact (later d late).trans_lt less
      · rename_i notLess
        cases leads
        refine ⟨before, after ++ [c], by simp [split_], earlier, ?_⟩
        intro d member
        rcases List.mem_append.mp member with late | last
        · exact later d late
        · rw [List.mem_singleton.mp last]
          exact not_lt.mp notLess

theorem cut_leading {before after : List α} {a : α} (earlier : ∀ b ∈ before, f b < f a)
    (later : ∀ b ∈ after, f b ≤ f a) : leading f (before ++ a :: after) = some a := by
  induction after using List.reverseRecOn with
  | nil =>
    rw [leading_snoc]
    cases led : leading f before with
    | none => rfl
    | some b =>
      obtain ⟨_, _, split, _⟩ := leading_cut f led
      have less : f b < f a := earlier b (by simp [split])
      simp only [less, ↓reduceIte]
  | append_singleton after c ih =>
    have led := ih fun b member => later b (List.mem_append_left _ member)
    have notLess : ¬ f a < f c := not_lt.mpr (later c (by simp))
    rw [← List.cons_append, ← List.append_assoc, leading_snoc, led]
    simp only [notLess, ↓reduceIte]

end

section
variable {β γ : Type} [LinearOrder β] [LinearOrder γ] (f : α → β) (g : α → γ)

/-- An element that a descending sort by `f`, then by `g`, may put first. -/
structure Latest (l : List α) (a : α) : Prop where
  member : a ∈ l
  greatest : ∀ b ∈ l, toLex (f b, g b) ≤ toLex (f a, g a)

theorem exists_latest {l : List α} (filled : l ≠ []) : ∃ a, Latest f g l a := by
  induction l with
  | nil => exact absurd rfl filled
  | cons c l ih =>
    by_cases alone : l = []
    · exact ⟨c, by simp, by simp [alone]⟩
    · obtain ⟨a, member, greatest⟩ := ih alone
      rcases le_total (toLex (f c, g c)) (toLex (f a, g a)) with below | above
      · refine ⟨a, List.mem_cons_of_mem _ member, ?_⟩
        simp only [List.forall_mem_cons]
        exact ⟨below, greatest⟩
      · refine ⟨c, by simp, ?_⟩
        simp only [List.forall_mem_cons]
        exact ⟨le_refl _, fun b inside => (greatest b inside).trans above⟩

/-- The latest element is the only one where it is strictly above the others. -/
theorem latest_only_iff {l : List α} {a : α} (latest : Latest f g l a) :
    (∀ b, Latest f g l b → b = a) ↔
      ∀ b ∈ l, b ≠ a → toLex (f b, g b) < toLex (f a, g a) := by
  constructor
  · intro only b member apart
    refine lt_of_le_of_ne (latest.greatest b member) fun same => apart (only b ⟨member, ?_⟩)
    rw [same]
    exact latest.greatest
  · intro above b other
    by_contra apart
    exact absurd (other.greatest a latest.member) (not_le.mpr (above b other.member apart))

end

end VantGrowth.Lib

/-! A list seen through a window: what is shown of its first elements, cut to
a size, against what should be shown of all. -/

namespace VantGrowth.Lib.Windows

section
variable {shown wanted : α → Bool}

theorem splits_cons {Q : List α → α → Prop} (y : α) (ys : List α) :
    (∀ before x after, y :: ys = before ++ x :: after → Q before x) ↔
      Q [] y ∧ ∀ before x after, ys = before ++ x :: after → Q (y :: before) x := by
  constructor
  · intro every
    exact ⟨every [] y ys rfl, fun before x after split => every (y :: before) x after (by rw [split]; rfl)⟩
  · rintro ⟨first, later⟩ before x after split
    cases before with
    | nil =>
      cases split
      exact first
    | cons z before =>
      obtain ⟨rfl, rest⟩ := List.cons.inj split
      exact later before x after rest

/-- The first `n` that are shown are wanted exactly when whatever is shown and
not wanted comes after `n` that are. -/
theorem first_wanted (sub : ∀ x, wanted x = true → shown x = true) (n : Nat) (xs : List α) :
    (∀ x ∈ (xs.filter shown).take n, wanted x = true) ↔
      ∀ before x after, xs = before ++ x :: after → shown x = true → wanted x = false →
        n ≤ (before.filter wanted).length := by
  induction xs generalizing n with
  | nil => simp
  | cons y ys ih =>
    rw [splits_cons (Q := fun before x => shown x = true → wanted x = false →
      n ≤ (before.filter wanted).length)]
    cases n with
    | zero => simp
    | succ n =>
      cases seen : shown y with
      | true =>
        cases want : wanted y with
        | true => simp [seen, want, ih]
        | false => simp [seen, want]
      | false =>
        have unwanted : wanted y = false := by
          cases want : wanted y with
          | false => rfl
          | true => rw [sub y want] at seen; cases seen
        simp [seen, unwanted, ih]

/-- What is shown has the right length and only what is wanted exactly when the
window holds enough that is wanted, and shows nothing else before it. -/
theorem window_exact (sub : ∀ x, wanted x = true → shown x = true) (w n : Nat) (xs : List α) :
    ((((xs.take w).filter shown).take n).length = min n (xs.filter wanted).length ∧
        ∀ x ∈ ((xs.take w).filter shown).take n, wanted x = true) ↔
      min n (xs.filter wanted).length ≤ ((xs.take w).filter wanted).length ∧
        ∀ before x after, xs.take w = before ++ x :: after → shown x = true → wanted x = false →
          n ≤ (before.filter wanted).length := by
  rw [← first_wanted sub]
  apply and_congr_left
  intro only
  have inside : ((xs.take w).filter wanted).length ≤ (xs.filter wanted).length :=
    ((List.take_sublist w xs).filter wanted).length_le
  have seen : ((xs.take w).filter wanted).length ≤ ((xs.take w).filter shown).length := by
    rw [← List.countP_eq_length_filter, ← List.countP_eq_length_filter]
    exact List.countP_mono_left fun x _ => sub x
  have few : (((xs.take w).filter shown).take n).length ≤ ((xs.take w).filter wanted).length := by
    have kept := ((List.take_sublist n ((xs.take w).filter shown)).filter wanted).length_le
    rw [List.filter_eq_self.mpr only, List.filter_filter] at kept
    have both : (fun x => wanted x && shown x) = wanted := by
      funext x
      cases want : wanted x with
      | false => rfl
      | true => rw [sub x want]; rfl
    rwa [both] at kept
  rw [List.length_take] at few ⊢
  omega

end

end VantGrowth.Lib.Windows
