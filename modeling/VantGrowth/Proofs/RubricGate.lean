import Mathlib.Algebra.BigOperators.Field
import Mathlib.Tactic.Linarith
import Mathlib.Tactic.Positivity
import VantGrowth.Content.Critique
import VantGrowth.Proofs.FallbackBriefs

namespace VantGrowth.Proofs.RubricGate
open Core Db Lib Content FallbackBriefs
open Learning (CritiqueVerdict LearnerRubricContent LearnerRubricCriterion PlaybookContent
  UpdatedRubricContent autoCriterion buildUpdatedRubricContent)

/-- A part of a whole; of nothing it is nothing. -/
def share (p t : ℚ) : ℚ := if 0 < t then p / t else 0

/-- The weight of what passed. -/
def earned (results : List CriterionResult) : ℚ :=
  (results.map fun c => if c.passed then c.weight else 0).sum

theorem foldl_add_eq {α : Type} (f : α → ℚ) (l : List α) (a : ℚ) :
    l.foldl (fun s c => s + f c) a = a + (l.map f).sum := by
  induction l generalizing a with
  | nil => simp
  | cons c rest ih => simp [ih, add_assoc]

theorem totalWeight_eq (results : List CriterionResult) :
    totalWeight results = (results.map (·.weight)).sum := by
  simp [totalWeight, foldl_add_eq]

theorem normalisedScore_eq (results : List CriterionResult) :
    normalisedScore results = share (earned results) (totalWeight results) := by
  have scaled : (results.map fun c => if c.passed then c.weight / totalWeight results else 0).sum =
      earned results / totalWeight results := by
    unfold earned
    rw [div_eq_mul_inv, ← List.sum_map_mul_right]
    refine congrArg List.sum (List.map_congr_left fun c _ => ?_)
    split
    · rw [div_eq_mul_inv]
    · rw [zero_mul]
  unfold normalisedScore share
  simp only [foldl_add_eq, zero_add, scaled]

section
variable {results : List CriterionResult}

theorem earned_nonneg (light : ∀ c ∈ results, 0 ≤ c.weight) : 0 ≤ earned results := by
  refine List.sum_nonneg fun x member => ?_
  obtain ⟨c, inside, rfl⟩ := List.mem_map.mp member
  split
  · exact light c inside
  · exact le_refl _

theorem earned_le (light : ∀ c ∈ results, 0 ≤ c.weight) : earned results ≤ totalWeight results := by
  rw [totalWeight_eq]
  refine List.sum_le_sum fun c inside => ?_
  split
  · exact le_refl _
  · exact light c inside

/-- All weight is earned where nothing of weight fails. -/
theorem earned_eq_iff (light : ∀ c ∈ results, 0 ≤ c.weight) :
    earned results = totalWeight results ↔ ∀ c ∈ results, c.passed = true ∨ c.weight = 0 := by
  rw [totalWeight_eq]
  induction results with
  | nil => simp [earned]
  | cons c rest ih =>
    have first := light c (by simp)
    have others : ∀ c ∈ rest, 0 ≤ c.weight := fun c member => light c (List.mem_cons_of_mem _ member)
    have below := earned_le others
    rw [totalWeight_eq] at below
    rw [List.forall_mem_cons, ← ih others]
    have split_ : earned (c :: rest) = (if c.passed then c.weight else 0) + earned rest := rfl
    rw [split_, List.map_cons, List.sum_cons]
    cases c.passed with
    | true => simp
    | false =>
      simp only [Bool.false_eq_true, ↓reduceIte, zero_add, false_or]
      constructor
      · intro h
        constructor <;> linarith
      · rintro ⟨weightless, same⟩
        rw [same, weightless, zero_add]

theorem totalWeight_pos_iff (light : ∀ c ∈ results, 0 ≤ c.weight) :
    0 < totalWeight results ↔ ∃ c ∈ results, 0 < c.weight := by
  rw [totalWeight_eq]
  induction results with
  | nil => simp
  | cons c rest ih =>
    have first := light c (by simp)
    have others : ∀ c ∈ rest, 0 ≤ c.weight := fun c member => light c (List.mem_cons_of_mem _ member)
    have rest_ : 0 ≤ (rest.map (·.weight)).sum :=
      List.sum_nonneg fun x member => by
        obtain ⟨c, inside, rfl⟩ := List.mem_map.mp member
        exact others c inside
    rw [List.exists_mem_cons_iff, ← ih others, List.map_cons, List.sum_cons]
    constructor
    · intro h
      by_contra neither
      rw [not_or, not_lt, not_lt] at neither
      linarith
    · rintro (heavy | heavy) <;> linarith

end

/-- The results of the criteria a text is held against. -/
def outcomes (r : Runtime) (rubric : LearnerRubricContent) (text : String) : List CriterionResult :=
  rubric.rubric.map fun c => resultOf c (evaluateCriterion r rubric text c.check)

theorem score_eq (results : List CriterionResult) (light : ∀ c ∈ results, 0 ≤ c.weight) :
    (rubricResult results).score = share (earned results) (totalWeight results) := by
  have below := earned_le light
  have least := earned_nonneg light
  show min 1 (max 0 (normalisedScore results)) = _
  rw [normalisedScore_eq]
  unfold share
  split
  · rename_i filled
    have low : 0 ≤ earned results / totalWeight results := by positivity
    have high : earned results / totalWeight results ≤ 1 := (div_le_one filled).mpr below
    rw [max_eq_right low, min_eq_right high]
  · simp

/-- A rubric that asks for a call to action and nothing else. -/
def ctaOnly : LearnerRubricContent :=
  { rubric := [⟨"cta", 1, .ofString "Asks for a call", "has_cta"⟩] }

def unassisted : CritiqueDeployment where
  runtime := plainRuntime
  uuids := sameUuid
  now := today

end VantGrowth.Proofs.RubricGate
