import Mathlib.Algebra.Order.Field.Rat
import VantGrowth.Lib.JsDate
import VantGrowth.Lib.JsString

namespace VantGrowth.Learning
open Lib

structure LearnerRubricCriterion where
  id : String
  weight : ℚ
  description : JsString
  check : String
deriving DecidableEq

/-- `learnerRubricCriterionSchema` -/
def LearnerRubricCriterion.valid (c : LearnerRubricCriterion) : Bool :=
  c.id != "" && (0 ≤ c.weight && c.weight ≤ 1) && c.description != [] && c.check != ""

structure LearnerRubricContent where
  rubric : List LearnerRubricCriterion
  min_word_count : Option ℚ := none
  max_word_count : Option ℚ := none
  forbidden_phrases : Option (List JsString) := none
deriving DecidableEq

/-- `z.number().int().positive().optional()` -/
def positiveCount (n : Option ℚ) : Bool := n.all fun n => n.den == 1 && 0 < n

/-- `learnerRubricContentSchema` -/
def LearnerRubricContent.valid (c : LearnerRubricContent) : Bool :=
  c.rubric != [] && c.rubric.all (·.valid) && positiveCount c.min_word_count &&
    positiveCount c.max_word_count && c.forbidden_phrases.all (·.all (· != []))

/-- The stored content of a playbook: an object of the rubric's fields, whether
or not their values pass the schema, or any other object. -/
inductive PlaybookContent where
  | rubric (content : LearnerRubricContent)
  | other
deriving DecidableEq

/-- `learnerRubricContentSchema.safeParse` -/
def PlaybookContent.safeParse : PlaybookContent → Option LearnerRubricContent
  | rubric content => if content.valid = true then some content else none
  | other => none

def PlaybookContent.criteria : PlaybookContent → List LearnerRubricCriterion
  | rubric content => content.rubric
  | other => []

def DEFAULT_RUBRIC_CONTENT : LearnerRubricContent where
  rubric :=
    [⟨"default-has_cta", 1 / 4, .ofString "Content includes a clear call to action", "has_cta"⟩,
      ⟨"default-has_evidence", 1 / 4,
        .ofString "Content includes quantitative evidence or statistics", "has_evidence"⟩,
      ⟨"default-length_ok", 1 / 4, .ofString "Content meets expected word count range",
        "length_ok"⟩,
      ⟨"default-has_headings", 1 / 4,
        .ofString "Content uses markdown headings for structure", "has_headings"⟩]

/-- A reason as a criterion tells it, cut to 120 code units. -/
def criterionDescription (reason : String) : JsString :=
  let units := JsString.ofString reason
  if 120 < units.length then units.take 117 ++ JsString.ofString "..." else units

def autoCriterion (criteriaTimestamp : Instant) (reason : String) (i : Nat) :
    LearnerRubricCriterion where
  id := "auto-" ++ toString criteriaTimestamp ++ "-" ++ toString i
  weight := 1 / 10
  description := criterionDescription reason
  check := "custom"

structure UpdatedRubricContent where
  content : LearnerRubricContent
  addedCriteria : List LearnerRubricCriterion

def buildUpdatedRubricContent (existingContent : Option PlaybookContent)
    (failureReasons : List String) (criteriaTimestamp : Instant) : UpdatedRubricContent :=
  let baseline := (existingContent.bind (·.safeParse)).getD DEFAULT_RUBRIC_CONTENT
  let existingIds := baseline.rubric.map (·.id)
  let newCriteria := (failureReasons.mapIdx fun i reason =>
    autoCriterion criteriaTimestamp reason i).filter fun c => !existingIds.contains c.id
  ⟨{ baseline with rubric := baseline.rubric ++ newCriteria }, newCriteria⟩

/-- The update is additive: no criterion of a readable rubric is dropped. -/
theorem update_keeps {content : PlaybookContent} {rubric : LearnerRubricContent}
    (readable : content.safeParse = some rubric) (reasons : List String) (ts : Instant) :
    ∀ c ∈ content.criteria, c ∈ (buildUpdatedRubricContent (some content) reasons ts).content.rubric := by
  intro c hc
  cases content with
  | other => cases hc
  | rubric stored =>
    simp only [PlaybookContent.safeParse] at readable
    split at readable
    · cases readable
      simp only [buildUpdatedRubricContent, Option.bind_some, PlaybookContent.safeParse,
        ↓reduceIte, *]
      exact List.mem_append_left _ hc
    · cases readable

theorem description_filled {reason : String} (filled : reason ≠ "") :
    criterionDescription reason ≠ [] := by
  have units := JsString.ofString_ne_nil filled
  unfold criterionDescription
  dsimp only
  split
  · exact List.append_ne_nil_of_right_ne_nil _ (by decide)
  · exact units

/-- What an update makes of any content passes the schema of a rubric. -/
theorem update_readable (existing : Option PlaybookContent) {reasons : List String}
    (filled : ∀ reason ∈ reasons, reason ≠ "") (ts : Instant) :
    (PlaybookContent.rubric (buildUpdatedRubricContent existing reasons ts).content).safeParse =
      some (buildUpdatedRubricContent existing reasons ts).content := by
  have baseline : ((existing.bind (·.safeParse)).getD DEFAULT_RUBRIC_CONTENT).valid = true := by
    cases hc : existing.bind (·.safeParse) with
    | none => decide +kernel
    | some content =>
      obtain ⟨stored, _, parsed⟩ := Option.bind_eq_some_iff.mp hc
      cases stored with
      | other => cases parsed
      | rubric stored =>
        simp only [PlaybookContent.safeParse] at parsed
        split at parsed
        · cases parsed
          assumption
        · cases parsed
  have criteria : ∀ i reason, reason ∈ reasons → (autoCriterion ts reason i).valid = true := by
    intro i reason member
    have described := description_filled (filled reason member)
    have weight : (1 / 10 : ℚ) ≤ 1 := by decide +kernel
    simpa [LearnerRubricCriterion.valid, autoCriterion, described] using weight
  rw [PlaybookContent.safeParse, if_pos]
  unfold buildUpdatedRubricContent
  generalize (existing.bind (·.safeParse)).getD DEFAULT_RUBRIC_CONTENT = base at baseline
  simp only [LearnerRubricContent.valid, Bool.and_eq_true, bne_iff_ne, ne_eq] at baseline ⊢
  obtain ⟨⟨⟨⟨occupied, rows⟩, min⟩, max⟩, phrases⟩ := baseline
  refine ⟨⟨⟨⟨fun empty => occupied (List.append_eq_nil_iff.mp empty).1, ?_⟩, min⟩, max⟩, phrases⟩
  refine List.all_eq_true.mpr fun c member => ?_
  rcases List.mem_append.mp member with old | new
  · exact List.all_eq_true.mp rows c old
  · obtain ⟨i, bound, rfl⟩ := List.mem_mapIdx.mp (List.mem_filter.mp new).1
    exact criteria i _ (List.getElem_mem bound)

/-- Reasons that read the same in a criterion give the same update. -/
theorem update_congr {reasons others : List String}
    (same : reasons.map criterionDescription = others.map criterionDescription)
    (existing : Option PlaybookContent) (ts : Instant) :
    buildUpdatedRubricContent existing reasons ts =
      buildUpdatedRubricContent existing others ts := by
  have criteria : (reasons.mapIdx fun i reason => autoCriterion ts reason i) =
      others.mapIdx fun i reason => autoCriterion ts reason i := by
    refine List.ext_getElem? fun i => ?_
    have hi := congrArg (fun l => l[i]?) same
    simp only [List.getElem?_map, List.getElem?_mapIdx] at hi ⊢
    cases hr : reasons[i]? with
    | none =>
      cases ho : others[i]? with
      | none => rfl
      | some o => simp [hr, ho] at hi
    | some r =>
      cases ho : others[i]? with
      | none => simp [hr, ho] at hi
      | some o =>
        have described : criterionDescription r = criterionDescription o := by
          simpa [hr, ho] using hi
        simp [autoCriterion, described]
  simp only [buildUpdatedRubricContent, criteria]

end VantGrowth.Learning
