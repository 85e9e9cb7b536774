import Mathlib.Algebra.Order.Field.Basic
import Mathlib.Tactic.Linarith
import VantGrowth.Core.LearningGate

namespace VantGrowth.Proofs.PromotionGate
open Core

section
variable {evaluation better : LearningProposalEvaluation} {policy : AdaptiveLearningPolicy}

def Promotes (evaluation : LearningProposalEvaluation) (policy : AdaptiveLearningPolicy) : Prop :=
  ∃ decision, evaluateLearningProposal evaluation policy = some decision ∧
    decision.decision = .promote

/-- Every threshold of the policy is met. -/
structure Cleared (evaluation : LearningProposalEvaluation) (policy : AdaptiveLearningPolicy) :
    Prop where
  guardrail : evaluation.worstGuardrailRegression ≤ policy.maxGuardrailRegression
  evidence : policy.minEvidence ≤ evaluation.evidenceCount
  entities : policy.minUniqueEntities ≤ evaluation.uniqueEntities
  confidence : policy.minConfidence ≤ evaluation.confidence
  lift : policy.minRelativeLift ≤ relativeLift evaluation
  approval : evaluation.risk ∉ policy.humanApprovalFor ∨ evaluation.humanApproved = true

/-- By how much the candidate is ahead of the baseline, in the metric's direction. -/
def improvement (evaluation : LearningProposalEvaluation) : ℚ :=
  match evaluation.metricDirection with
  | .increase => evaluation.candidateMetric - evaluation.baselineMetric
  | .decrease => evaluation.baselineMetric - evaluation.candidateMetric

/-- The same change measured against the same baseline, with nothing that
speaks for it weakened. -/
structure AtLeast (evaluation better : LearningProposalEvaluation) : Prop where
  risk : better.risk = evaluation.risk
  direction : better.metricDirection = evaluation.metricDirection
  baseline : better.baselineMetric = evaluation.baselineMetric
  evidence : evaluation.evidenceCount ≤ better.evidenceCount
  entities : evaluation.uniqueEntities ≤ better.uniqueEntities
  confidence : evaluation.confidence ≤ better.confidence
  improvement : improvement evaluation ≤ improvement better
  regression : better.worstGuardrailRegression ≤ evaluation.worstGuardrailRegression
  approval : evaluation.humanApproved = true → better.humanApproved = true

def denominator (evaluation : LearningProposalEvaluation) : ℚ :=
  max |evaluation.baselineMetric| (1 / 1000000000)

/-- The floor keeps the division away from a baseline of zero. -/
theorem denominator_pos (evaluation : LearningProposalEvaluation) : 0 < denominator evaluation := by
  apply lt_max_of_lt_right
  norm_num

theorem lift_eq (evaluation : LearningProposalEvaluation) :
    relativeLift evaluation = improvement evaluation / denominator evaluation := by
  unfold relativeLift improvement denominator
  cases evaluation.metricDirection <;> rfl

theorem no_evidence_missing : missingEvidence evaluation policy = [] ↔
    policy.minEvidence ≤ evaluation.evidenceCount ∧
      policy.minUniqueEntities ≤ evaluation.uniqueEntities ∧
        policy.minConfidence ≤ evaluation.confidence := by
  simp [missingEvidence]

/-- The gates in their order come to the conjunction of the thresholds. -/
theorem promotes_iff (measured : evaluation.valid = true) (set : policy.valid = true) :
    Promotes evaluation policy ↔ Cleared evaluation policy := by
  unfold Promotes evaluateLearningProposal
  simp only [measured, set, Bool.true_eq_false, or_self, ↓reduceIte]
  by_cases breach : policy.maxGuardrailRegression < evaluation.worstGuardrailRegression
  · simp only [breach, ↓reduceIte, Option.some.injEq, exists_eq_left', reduceCtorEq, false_iff]
    intro cleared
    linarith [cleared.guardrail]
  · simp only [breach, ↓reduceIte]
    by_cases missing : missingEvidence evaluation policy = []
    · simp only [missing, ne_eq, not_true_eq_false, ↓reduceIte]
      obtain ⟨evidence, entities, confidence⟩ := no_evidence_missing.mp missing
      by_cases short : relativeLift evaluation < policy.minRelativeLift
      · simp only [short, ↓reduceIte, Option.some.injEq, exists_eq_left', reduceCtorEq, false_iff]
        intro cleared
        linarith [cleared.lift]
      · simp only [short, ↓reduceIte]
        by_cases asked : evaluation.risk ∈ policy.humanApprovalFor ∧ evaluation.humanApproved = false
        · simp only [asked, and_self, ↓reduceIte, Option.some.injEq, exists_eq_left', reduceCtorEq,
            false_iff]
          intro cleared
          cases cleared.approval with
          | inl unlisted => exact unlisted asked.1
          | inr approved => simp [approved] at asked
        · simp only [asked, ↓reduceIte, Option.some.injEq, exists_eq_left', true_iff]
          have approval : evaluation.risk ∉ policy.humanApprovalFor ∨
              evaluation.humanApproved = true := by
            simpa only [not_and_or, Bool.not_eq_false] using asked
          exact ⟨not_lt.mp breach, evidence, entities, confidence, not_lt.mp short, approval⟩
    · simp only [ne_eq, missing, not_false_eq_true, ↓reduceIte, Option.some.injEq, exists_eq_left',
        reduceCtorEq, false_iff]
      intro cleared
      exact missing (no_evidence_missing.mpr ⟨cleared.evidence, cleared.entities, cleared.confidence⟩)

/-- The least lift a policy can ask for is positive. -/
theorem Cleared.ahead (set : policy.valid = true) (cleared : Cleared evaluation policy) :
    0 < improvement evaluation := by
  have positive : 0 < policy.minRelativeLift := by
    simp only [AdaptiveLearningPolicy.valid, Bool.and_eq_true, decide_eq_true_eq] at set
    exact set.1.2
  have lift : 0 < relativeLift evaluation := lt_of_lt_of_le positive cleared.lift
  rw [lift_eq] at lift
  exact (div_pos_iff_of_pos_right (denominator_pos evaluation)).mp lift

theorem AtLeast.lift (more : AtLeast evaluation better) :
    relativeLift evaluation ≤ relativeLift better := by
  have same : denominator better = denominator evaluation := by simp [denominator, more.baseline]
  rw [lift_eq, lift_eq, same]
  exact div_le_div_of_nonneg_right more.improvement (denominator_pos evaluation).le

theorem AtLeast.cleared (more : AtLeast evaluation better) (cleared : Cleared evaluation policy) :
    Cleared better policy where
  guardrail := le_trans more.regression cleared.guardrail
  evidence := le_trans cleared.evidence (by exact_mod_cast more.evidence)
  entities := le_trans cleared.entities (by exact_mod_cast more.entities)
  confidence := le_trans cleared.confidence more.confidence
  lift := le_trans cleared.lift more.lift
  approval := by
    rw [more.risk]
    exact cleared.approval.imp_right more.approval

/-- Strictly better than the baseline, the way the metric is read. -/
def Better (evaluation : LearningProposalEvaluation) : Prop :=
  match evaluation.metricDirection with
  | .increase => evaluation.baselineMetric < evaluation.candidateMetric
  | .decrease => evaluation.candidateMetric < evaluation.baselineMetric

theorem better_iff (evaluation : LearningProposalEvaluation) :
    Better evaluation ↔ 0 < improvement evaluation := by
  unfold Better improvement
  cases evaluation.metricDirection <;> simp

/-- The gate promotes what clears every threshold of the policy and nothing
else, only what beats the baseline, and it goes on promoting what gets better. -/
theorem gate_by_thresholds (measured : evaluation.valid = true) (set : policy.valid = true) :
    (Promotes evaluation policy ↔ Cleared evaluation policy) ∧
      (Promotes evaluation policy → Better evaluation) ∧
      ∀ better, better.valid = true → AtLeast evaluation better →
        Promotes evaluation policy → Promotes better policy := by
  have decides := promotes_iff measured set
  refine ⟨decides, ?_, ?_⟩
  · intro promoted
    exact (better_iff evaluation).mpr ((decides.mp promoted).ahead set)
  · intro better remeasured more promoted
    exact (promotes_iff remeasured set).mpr (more.cleared (decides.mp promoted))

end

/-- A candidate that lowers a negative metric further. -/
def cheaper : LearningProposalEvaluation where
  proposalId := "proposal-1"
  risk := .high
  evidenceCount := 40
  uniqueEntities := 25
  confidence := 9 / 10
  metricDirection := .decrease
  baselineMetric := -100
  candidateMetric := -120
  worstGuardrailRegression := 0
  humanApproved := true

theorem cheaper_promoted : Promotes cheaper {} ∧ Better cheaper ∧
    Promotes { cheaper with evidenceCount := 41, candidateMetric := -130 } {} := by
  have measured : cheaper.valid = true := by decide +kernel
  have remeasured : ({ cheaper with
      evidenceCount := 41
      candidateMetric := -130 } : LearningProposalEvaluation).valid = true := by decide +kernel
  have cleared : Cleared cheaper {} := by
    constructor <;> decide +kernel
  obtain ⟨decides, ahead, goesOn⟩ := gate_by_thresholds measured default_policy_valid
  have promoted := decides.mpr cleared
  apply And.intro promoted
  apply And.intro (ahead promoted)
  apply goesOn _ remeasured _ promoted
  constructor <;> first | rfl | decide +kernel

end VantGrowth.Proofs.PromotionGate
