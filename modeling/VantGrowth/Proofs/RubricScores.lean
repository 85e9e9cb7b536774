import VantGrowth.Proofs.RubricGate

namespace VantGrowth.Proofs.RubricScores
open Core Db Lib Content RubricGate FallbackBriefs
open Learning (CritiqueVerdict LearnerRubricContent LearnerRubricCriterion)

/-! A rubric's score, its reasons and the verdict drawn from it. -/

/-- No model answers: there is no runner, or it always throws. -/
def Silent (llmRunner : Option LlmCallRunner) : Prop :=
  ∀ runner ∈ llmRunner, ∀ call, runner call = none

/-- The same score, and each criterion passes in both or in neither. -/
def SameScoring (a b : RubricEvaluationResult) : Prop :=
  a.score = b.score ∧
    a.criteriaResults.map (fun c => (c.id, c.passed)) =
      b.criteriaResults.map fun c => (c.id, c.passed)

/-- Results of a rubric's criteria, whichever of them passed. -/
def ResultsOf (content : LearnerRubricContent) (results : List CriterionResult) : Prop :=
  results.map (·.weight) = content.rubric.map (·.weight)

/-- A criterion held against another text, which passes where it passed. -/
structure Improves (before after : CriterionResult) : Prop where
  weight : after.weight = before.weight
  passed : before.passed = true → after.passed = true

/-- What either evaluation makes of a text. -/
def Evaluated (r : Runtime) (content : LearnerRubricContent) (text : String)
    (result : RubricEvaluationResult) : Prop :=
  result = evaluateRubric r content text ∨
    ∃ llmRunner w w', (evaluateRubricAsync r content text llmRunner).run w = (.ok result, w')

structure Consistent (d : CritiqueDeployment) (content : LearnerRubricContent) (text : String) :
    Prop where
  same : ∀ llmRunner, Silent llmRunner → ∀ w, ∃ result w',
    (evaluateRubricAsync d.runtime content text llmRunner).run w = (.ok result, w') ∧
      SameScoring result (evaluateRubric d.runtime content text)
  scored : ∀ result, Evaluated d.runtime content text result →
    result = rubricResult result.criteriaResults ∧ ResultsOf content result.criteriaResults
  unclamped : ∀ results, ResultsOf content results →
    (rubricResult results).score = normalisedScore results ∧
      0 ≤ (rubricResult results).score ∧ (rubricResult results).score ≤ 1
  raised : ∀ before after, ResultsOf content before → List.Forall₂ Improves before after →
    (rubricResult before).score ≤ (rubricResult after).score
  approved : ∀ result, Evaluated d.runtime content text result →
    (∀ c ∈ result.criteriaResults, c.passed = true) →
      result.reasons = ["All rubric criteria passed."] ∧
        (scoreWithRubric d result).verdict = .approve

theorem approve_pos (v : Option ℚ) : 0 < CRITIQUE_APPROVE_THRESHOLD v := by
  cases v with
  | none => norm_num [CRITIQUE_APPROVE_THRESHOLD]
  | some v =>
    simp only [CRITIQUE_APPROVE_THRESHOLD]
    split
    · rename_i usable
      exact usable.1
    · norm_num

theorem approve_le_one (v : Option ℚ) : CRITIQUE_APPROVE_THRESHOLD v ≤ 1 := by
  cases v with
  | none => norm_num [CRITIQUE_APPROVE_THRESHOLD]
  | some v =>
    simp only [CRITIQUE_APPROVE_THRESHOLD]
    split
    · rename_i usable
      exact usable.2
    · norm_num

section
variable {r : Runtime} {content : LearnerRubricContent} {text : String}

/-- What one criterion may come to: a known check is evaluated as it is without
a model, and where no model answers the others pass as well. -/
structure Gives (r : Runtime) (content : LearnerRubricContent) (text : String)
    (llmRunner : Option LlmCallRunner) (criterion : LearnerRubricCriterion)
    (result : CriterionResult) : Prop where
  id : result.id = criterion.id
  weight : result.weight = criterion.weight
  failed : (evaluateCriterion r content text criterion.check).passed = false → result.passed = false
  silent : Silent llmRunner →
    result.passed = (evaluateCriterion r content text criterion.check).passed

theorem evaluateAsync_gives (llmRunner : Option LlmCallRunner) (criterion : LearnerRubricCriterion)
    (w : World) : (evaluateAsync r content text llmRunner criterion).Ends w fun x _ =>
      ∃ result, x = .ok result ∧ Gives r content text llmRunner criterion result := by
  unfold evaluateAsync
  cases known : knownChecks.lookup criterion.check with
  | some check =>
    have whole : evaluateCriterion r content text criterion.check =
        evaluateKnown r content text check := by
      simp [evaluateCriterion, known]
    refine Store.Ends.pure ⟨_, rfl, rfl, rfl, ?_, ?_⟩
    · rw [whole]
      exact id
    · intro _
      rw [whole]
      rfl
  | none =>
    have whole : evaluateCriterion r content text criterion.check = autoPassed criterion.check := by
      simp [evaluateCriterion, known]
    cases llmRunner with
    | none =>
      refine Store.Ends.pure ⟨_, rfl, rfl, rfl, ?_, ?_⟩ <;> rw [whole]
      · exact id
      · intro _
        rfl
    | some runner =>
      refine ⟨_, rfl, rfl, rfl, ?_, ?_⟩ <;> rw [whole]
      · intro failed
        cases failed
      · intro silent
        show (criterionVerdict r criterion.check (runner w.calls)).passed = true
        rw [silent runner rfl w.calls]
        rfl

theorem evaluateRubricAsync_gives (r : Runtime) (content : LearnerRubricContent) (text : String)
    (llmRunner : Option LlmCallRunner) (w : World) :
    (evaluateRubricAsync r content text llmRunner).Ends w fun x _ => ∃ results,
      x = .ok (rubricResult results) ∧
        List.Forall₂ (Gives r content text llmRunner) content.rubric results := by
  have each : ∀ criterion s, True → (evaluateAsync r content text llmRunner criterion).Ends s
      fun x _ => True ∧ ∃ result, x = .ok result ∧
        Gives r content text llmRunner criterion result := by
    intro criterion s _
    refine (evaluateAsync_gives llmRunner criterion s).weaken ?_
    rintro x t ⟨result, rfl, gives⟩
    exact ⟨trivial, result, rfl, gives⟩
  refine (Store.Ends.mapM each content.rubric w trivial).bind ?_ ?_
  · rintro e t ⟨_, _, thrown, _⟩
    cases thrown
  · rintro results t ⟨_, _, done, each⟩
    cases done
    exact Store.Ends.pure ⟨results, rfl, each⟩

theorem gives_results {llmRunner : Option LlmCallRunner} {results : List CriterionResult}
    (each : List.Forall₂ (Gives r content text llmRunner) content.rubric results) :
    ResultsOf content results := by
  unfold ResultsOf
  generalize content.rubric = criteria at each ⊢
  induction each with
  | nil => rfl
  | cons first _ ih => simp [first.weight, ih]

theorem outcomes_gives (llmRunner : Option LlmCallRunner) :
    List.Forall₂ (Gives r content text llmRunner) content.rubric (outcomes r content text) := by
  rw [outcomes, List.forall₂_map_right_iff, List.forall₂_same]
  intro criterion _
  exact ⟨rfl, rfl, id, fun _ => rfl⟩

/-- Every evaluation is the rubric's result of what each criterion may give. -/
theorem evaluated_gives {result : RubricEvaluationResult}
    (evaluated : Evaluated r content text result) : ∃ llmRunner results,
      result = rubricResult results ∧
        List.Forall₂ (Gives r content text llmRunner) content.rubric results := by
  rcases evaluated with rfl | ⟨llmRunner, w, w', run⟩
  · exact ⟨none, _, rfl, outcomes_gives none⟩
  · obtain ⟨results, done, each⟩ := evaluateRubricAsync_gives r content text llmRunner w
    rw [run] at done
    cases done
    exact ⟨llmRunner, results, rfl, each⟩

/-- What a silent evaluation gives, criterion by criterion. -/
theorem silent_passes {llmRunner : Option LlmCallRunner} (silent : Silent llmRunner)
    {criteria : List LearnerRubricCriterion} {results : List CriterionResult}
    (each : List.Forall₂ (Gives r content text llmRunner) criteria results) :
    results.map (fun c => (c.id, c.weight, c.passed)) = criteria.map fun c =>
      (c.id, c.weight, (evaluateCriterion r content text c.check).passed) := by
  induction each with
  | nil => rfl
  | cons first _ ih => simp [first.id, first.weight, first.silent silent, ih]

end

/-- The score reads the weights and the passes only. -/
theorem score_congr {a b : List CriterionResult}
    (same : a.map (fun c => (c.weight, c.passed)) = b.map fun c => (c.weight, c.passed)) :
    normalisedScore a = normalisedScore b := by
  have earned_view : ∀ results : List CriterionResult, earned results =
      ((results.map fun c => (c.weight, c.passed)).map fun v => if v.2 then v.1 else 0).sum := by
    intro results
    rw [List.map_map]
    rfl
  have total_view : ∀ results : List CriterionResult, totalWeight results =
      ((results.map fun c => (c.weight, c.passed)).map (·.1)).sum := by
    intro results
    rw [List.map_map, totalWeight_eq]
    rfl
  rw [normalisedScore_eq, normalisedScore_eq, earned_view, earned_view, total_view, total_view, same]

theorem silent_same {r : Runtime} {content : LearnerRubricContent} {text : String}
    {llmRunner : Option LlmCallRunner} (silent : Silent llmRunner) {results : List CriterionResult}
    (each : List.Forall₂ (Gives r content text llmRunner) content.rubric results) :
    SameScoring (rubricResult results) (evaluateRubric r content text) := by
  have views : results.map (fun c => (c.id, c.weight, c.passed)) =
      (outcomes r content text).map fun c => (c.id, c.weight, c.passed) := by
    rw [silent_passes silent each, silent_passes silent (outcomes_gives llmRunner)]
  constructor
  · have weighed := congrArg (List.map fun v => (v.2.1, v.2.2)) views
    rw [List.map_map, List.map_map] at weighed
    show min 1 (max 0 (normalisedScore results)) =
      min 1 (max 0 (normalisedScore (outcomes r content text)))
    rw [score_congr weighed]
  · have passes := congrArg (List.map fun v => (v.1, v.2.2)) views
    rw [List.map_map, List.map_map] at passes
    exact passes

section
variable {content : LearnerRubricContent}

theorem valid_light (valid : content.valid = true) : ∀ c ∈ content.rubric, 0 ≤ c.weight := by
  intro c member
  simp only [LearnerRubricContent.valid, Bool.and_eq_true, List.all_eq_true] at valid
  have criterion := valid.1.1.1.2 c member
  simp only [LearnerRubricCriterion.valid, Bool.and_eq_true, decide_eq_true_eq] at criterion
  exact criterion.1.1.2.1

theorem results_light (valid : content.valid = true) {results : List CriterionResult}
    (of : ResultsOf content results) : ∀ c ∈ results, 0 ≤ c.weight := by
  intro c member
  have weight : c.weight ∈ content.rubric.map (·.weight) := by
    rw [← of]
    exact List.mem_map_of_mem member
  obtain ⟨criterion, inside, same⟩ := List.mem_map.mp weight
  rw [← same]
  exact valid_light valid criterion inside

theorem share_within {p t : ℚ} (least : 0 ≤ p) (part : p ≤ t) : 0 ≤ share p t ∧ share p t ≤ 1 := by
  unfold share
  split
  · rename_i filled
    exact ⟨by positivity, (div_le_one filled).mpr part⟩
  · norm_num

theorem share_mono {p q t : ℚ} (more : p ≤ q) : share p t ≤ share q t := by
  unfold share
  split
  · gcongr
  · exact le_refl _

theorem earned_mono {before after : List CriterionResult}
    (improved : List.Forall₂ Improves before after) (light : ∀ c ∈ before, 0 ≤ c.weight) :
    earned before ≤ earned after := by
  induction improved with
  | nil => exact le_refl _
  | @cons c c' rest rest' first _ ih =>
    have later := ih fun c member => light c (List.mem_cons_of_mem _ member)
    have weighs := light c (by simp)
    have gained : (if c.passed then c.weight else 0) ≤ if c'.passed then c'.weight else 0 := by
      rw [first.weight]
      by_cases was : c.passed = true
      · rw [if_pos was, if_pos (first.passed was)]
      · rw [if_neg was]
        split
        · exact weighs
        · exact le_refl _
    have split_ : ∀ (c : CriterionResult) rest, earned (c :: rest) =
      (if c.passed then c.weight else 0) + earned rest := fun _ _ => rfl
    rw [split_, split_]
    linarith

theorem improved_total {before after : List CriterionResult}
    (improved : List.Forall₂ Improves before after) : totalWeight after = totalWeight before := by
  rw [totalWeight_eq, totalWeight_eq]
  induction improved with
  | nil => rfl
  | cons first _ ih => simp [first.weight, ih]

theorem improved_results {before after : List CriterionResult}
    (improved : List.Forall₂ Improves before after) (of : ResultsOf content before) :
    ResultsOf content after := by
  unfold ResultsOf at *
  rw [← of]
  clear of
  induction improved with
  | nil => rfl
  | cons first _ ih => simp [first.weight, ih]

theorem score_mono (valid : content.valid = true) {before after : List CriterionResult}
    (of : ResultsOf content before) (improved : List.Forall₂ Improves before after) :
    (rubricResult before).score ≤ (rubricResult after).score := by
  rw [score_eq _ (results_light valid of),
    score_eq _ (results_light valid (improved_results improved of)), improved_total improved]
  exact share_mono (earned_mono improved (results_light valid of))

theorem score_unclamped (valid : content.valid = true) {results : List CriterionResult}
    (of : ResultsOf content results) : (rubricResult results).score = normalisedScore results ∧
      0 ≤ (rubricResult results).score ∧ (rubricResult results).score ≤ 1 := by
  have light := results_light valid of
  rw [normalisedScore_eq, score_eq _ light]
  exact ⟨rfl, share_within (earned_nonneg light) (earned_le light)⟩

theorem weights_pos_iff {results : List CriterionResult} (of : ResultsOf content results) :
    (∃ c ∈ results, 0 < c.weight) ↔ ∃ criterion ∈ content.rubric, 0 < criterion.weight := by
  have view : ∀ weights : List ℚ, weights = results.map (·.weight) →
      ((∃ c ∈ results, 0 < c.weight) ↔ ∃ weight ∈ weights, 0 < weight) := by
    rintro _ rfl
    simp
  rw [view _ of.symm]
  simp

/-- Where all criteria pass, all of the weight is earned, if there is any. -/
theorem passed_score (valid : content.valid = true) {results : List CriterionResult}
    (of : ResultsOf content results) (passed : ∀ c ∈ results, c.passed = true) :
    (rubricResult results).score =
      if ∃ criterion ∈ content.rubric, 0 < criterion.weight then 1 else 0 := by
  have light := results_light valid of
  have all : earned results = totalWeight results :=
    (earned_eq_iff light).2 fun c member => .inl (passed c member)
  rw [score_eq _ light, all, share, if_congr (totalWeight_pos_iff light) rfl rfl,
    if_congr (weights_pos_iff of) rfl rfl]
  split
  · rename_i heavy
    exact div_self ((totalWeight_pos_iff light).2 ((weights_pos_iff of).2 heavy)).ne'
  · rfl

/-- Some criterion counts. -/
def Weighs (content : LearnerRubricContent) : Prop :=
  ∃ criterion ∈ content.rubric, 0 < criterion.weight

/-- The text fails one of the checks that need no model. -/
def Fails (r : Runtime) (content : LearnerRubricContent) (text : String) : Prop :=
  ∃ criterion ∈ content.rubric, (evaluateCriterion r content text criterion.check).passed = false

theorem failing_fails {r : Runtime} {text : String} {llmRunner : Option LlmCallRunner}
    {results : List CriterionResult}
    (each : List.Forall₂ (Gives r content text llmRunner) content.rubric results)
    (fails : Fails r content text) : ∃ c ∈ results, c.passed = false := by
  obtain ⟨criterion, inside, failed⟩ := fails
  generalize content.rubric = criteria at each inside
  induction each with
  | nil => cases inside
  | @cons _ result _ _ first _ ih =>
    rcases List.mem_cons.mp inside with rfl | later
    · exact ⟨result, by simp, first.failed failed⟩
    · obtain ⟨c, member, failing⟩ := ih later
      exact ⟨c, List.mem_cons_of_mem _ member, failing⟩

theorem passed_reasons {results : List CriterionResult} (passed : ∀ c ∈ results, c.passed = true) :
    (rubricResult results).reasons = ["All rubric criteria passed."] := by
  have none : failedReasons results = [] := by
    simp only [failedReasons, List.map_eq_nil_iff, List.filter_eq_nil_iff]
    intro c member
    simp [passed c member]
  simp [rubricResult, none]

end

/-- Scores, reasons and verdicts are consistent unless no criterion weighs
anything and the text passes all of them. -/
theorem consistent_iff (d : CritiqueDeployment) (approve revise : Option ℚ)
    {content : LearnerRubricContent} (valid : content.valid = true) (text : String) :
    Consistent (d.tuned approve revise) content text ↔
      Weighs content ∨ Fails d.runtime content text := by
  constructor
  · intro consistent
    by_contra neither
    rw [not_or] at neither
    have passed : ∀ c ∈ outcomes d.runtime content text, c.passed = true := by
      intro c member
      obtain ⟨criterion, inside, rfl⟩ := List.mem_map.mp member
      by_contra failed
      exact neither.2 ⟨criterion, inside, Bool.eq_false_iff.mpr failed⟩
    have zero := (passed_score valid (gives_results (outcomes_gives none)) passed).trans
      (if_neg neither.1)
    have verdict := (consistent.approved _ (.inl rfl) passed).2
    change (d.tuned approve revise).verdictFromScore
      (rubricResult (outcomes d.runtime content text)).score = .approve at verdict
    have below : ¬ (d.tuned approve revise).approveThreshold ≤ 0 := not_le.mpr (approve_pos approve)
    rw [zero, CritiqueDeployment.verdictFromScore, if_neg below] at verdict
    split at verdict <;> cases verdict
  · intro counts
    refine ⟨?_, ?_, ?_, ?_, ?_⟩
    · intro llmRunner silent w
      obtain ⟨results, done, each⟩ := evaluateRubricAsync_gives d.runtime content text
        llmRunner w
      exact ⟨rubricResult results, _, Prod.ext done rfl, silent_same silent each⟩
    · intro result evaluated
      obtain ⟨llmRunner, results, rfl, each⟩ := evaluated_gives evaluated
      exact ⟨rfl, gives_results each⟩
    · intro results of
      exact score_unclamped valid of
    · intro before after of improved
      exact score_mono valid of improved
    · intro result evaluated passed
      obtain ⟨llmRunner, results, rfl, each⟩ := evaluated_gives evaluated
      refine ⟨passed_reasons passed, ?_⟩
      have weighs : Weighs content := by
        refine counts.resolve_right fun fails => ?_
        obtain ⟨c, member, failing⟩ := failing_fails each fails
        exact absurd (passed c member) (by simp [failing])
      have whole : (rubricResult results).score = 1 := by
        rw [passed_score valid (gives_results each) passed]
        exact if_pos weighs
      show (d.tuned approve revise).verdictFromScore (rubricResult results).score = .approve
      rw [whole]
      exact if_pos (approve_le_one approve)

theorem ctaOnly_consistent : Consistent (unassisted.tuned none none) ctaOnly "Book a call" :=
  (consistent_iff unassisted none none (by decide) _).mpr
    (.inl ⟨_, List.mem_singleton_self _, by norm_num⟩)

/-- A rubric whose one criterion weighs nothing. -/
def weightless : LearnerRubricContent :=
  { rubric := [⟨"cta", 0, .ofString "Asks for a call", "has_cta"⟩] }

/-- Every criterion passes, and the text is rejected with a score of zero. -/
theorem weightless_rejected :
    weightless.valid = true ∧
      (evaluateRubric plainRuntime weightless "Book a call").reasons =
        ["All rubric criteria passed."] ∧
      (scoreWithRubric (unassisted.tuned none none)
        (evaluateRubric plainRuntime weightless "Book a call")).verdict = .reject ∧
      ¬ ∀ (d : CritiqueDeployment) (approve revise : Option ℚ) (content : LearnerRubricContent)
        (text : String), content.valid = true → Consistent (d.tuned approve revise) content text := by
  have verdict : (scoreWithRubric (unassisted.tuned none none)
      (evaluateRubric plainRuntime weightless "Book a call")).verdict = .reject := by decide +kernel
  refine ⟨by decide, by decide, verdict, fun claim => ?_⟩
  have consistent := claim unassisted none none weightless "Book a call" (by decide)
  have approved := (consistent.approved _ (.inl rfl) (by decide)).2
  rw [show (unassisted.tuned none none).runtime = plainRuntime from rfl, verdict] at approved
  cases approved

end VantGrowth.Proofs.RubricScores
