import Mathlib.Algebra.Order.Field.Rat

namespace VantGrowth.Core

inductive ChangeRisk where
  | low | medium | high | critical
deriving DecidableEq

inductive MetricDirection where
  | increase | decrease
deriving DecidableEq

inductive LearningDecision where
  | continue_experiment | reject | requires_approval | promote
deriving DecidableEq

structure AdaptiveLearningPolicy where
  minEvidence : Int := 20
  minUniqueEntities : Int := 5
  minConfidence : ℚ := 4 / 5
  minRelativeLift : ℚ := 1 / 20
  maxGuardrailRegression : ℚ := 1 / 50
  humanApprovalFor : List ChangeRisk := [.high, .critical]

/-- `adaptiveLearningPolicySchema` -/
def AdaptiveLearningPolicy.valid (policy : AdaptiveLearningPolicy) : Bool :=
  0 < policy.minEvidence && 0 < policy.minUniqueEntities &&
    (0 ≤ policy.minConfidence && policy.minConfidence ≤ 1) && 0 < policy.minRelativeLift &&
    (0 ≤ policy.maxGuardrailRegression && policy.maxGuardrailRegression ≤ 1)

theorem default_policy_valid : ({} : AdaptiveLearningPolicy).valid = true := by decide +kernel

structure LearningProposalEvaluation where
  proposalId : String
  risk : ChangeRisk
  evidenceCount : Nat
  uniqueEntities : Nat
  confidence : ℚ
  metricDirection : MetricDirection
  baselineMetric : ℚ
  candidateMetric : ℚ
  /-- Positive means a guardrail became worse. -/
  worstGuardrailRegression : ℚ
  humanApproved : Bool := false

/-- `learningProposalEvaluationSchema` -/
def LearningProposalEvaluation.valid (evaluation : LearningProposalEvaluation) : Bool :=
  evaluation.proposalId != "" && (0 ≤ evaluation.confidence && evaluation.confidence ≤ 1) &&
    (0 ≤ evaluation.worstGuardrailRegression && evaluation.worstGuardrailRegression ≤ 1)

structure GateDecision where
  decision : LearningDecision
  relativeLift : ℚ
  reasons : List String
deriving DecidableEq

def relativeLift (evaluation : LearningProposalEvaluation) : ℚ :=
  let denominator := max |evaluation.baselineMetric| (1 / 1000000000)
  let improvement := match evaluation.metricDirection with
    | .increase => evaluation.candidateMetric - evaluation.baselineMetric
    | .decrease => evaluation.baselineMetric - evaluation.candidateMetric
  improvement / denominator

def missingEvidence (evaluation : LearningProposalEvaluation) (policy : AdaptiveLearningPolicy) :
    List String :=
  (if (evaluation.evidenceCount : Int) < policy.minEvidence then
    ["Need " ++ toString (policy.minEvidence - evaluation.evidenceCount) ++
      " more observations."] else []) ++
  (if (evaluation.uniqueEntities : Int) < policy.minUniqueEntities then
    ["Need " ++ toString (policy.minUniqueEntities - evaluation.uniqueEntities) ++
      " more unique entities."] else []) ++
  (if evaluation.confidence < policy.minConfidence then
    ["Confidence is below the promotion threshold."] else [])

/-- `none` where a schema throws. -/
def evaluateLearningProposal (evaluation : LearningProposalEvaluation)
    (policy : AdaptiveLearningPolicy) : Option GateDecision :=
  if evaluation.valid = false ∨ policy.valid = false then none
  else
    let lift := relativeLift evaluation
    if policy.maxGuardrailRegression < evaluation.worstGuardrailRegression then
      some ⟨.reject, lift, ["Candidate breached a configured business guardrail."]⟩
    else if missingEvidence evaluation policy ≠ [] then
      some ⟨.continue_experiment, lift, missingEvidence evaluation policy⟩
    else if lift < policy.minRelativeLift then
      some ⟨.reject, lift, ["Measured lift is below the promotion threshold."]⟩
    else if evaluation.risk ∈ policy.humanApprovalFor ∧ evaluation.humanApproved = false then
      some ⟨.requires_approval, lift,
        ["The change passed evidence gates but its risk requires approval."]⟩
    else
      some ⟨.promote, lift, ["Candidate passed evidence, lift, confidence, and guardrail gates."]⟩

/-- The four answers, with what was checked about the risk and the founder's
approval. -/
theorem gate_cases {evaluation : LearningProposalEvaluation} {policy : AdaptiveLearningPolicy}
    {decision : GateDecision} (h : evaluateLearningProposal evaluation policy = some decision) :
    decision.decision = .reject ∨ decision.decision = .continue_experiment ∨
    (decision.decision = .requires_approval ∧ evaluation.risk ∈ policy.humanApprovalFor ∧
      evaluation.humanApproved = false) ∨
    (decision.decision = .promote ∧
      ¬ (evaluation.risk ∈ policy.humanApprovalFor ∧ evaluation.humanApproved = false)) := by
  unfold evaluateLearningProposal at h
  split at h
  · cases h
  · dsimp only at h
    split at h
    · cases h
      exact Or.inl rfl
    · split at h
      · cases h
        exact Or.inr (Or.inl rfl)
      · split at h
        · cases h
          exact Or.inl rfl
        · split at h
          · rename_i asked
            cases h
            exact Or.inr (Or.inr (Or.inl ⟨rfl, asked⟩))
          · rename_i unasked
            cases h
            exact Or.inr (Or.inr (Or.inr ⟨rfl, unasked⟩))

/-- A promotion of a risk that needs a founder was evaluated as approved. -/
theorem promote_approved {evaluation : LearningProposalEvaluation}
    {policy : AdaptiveLearningPolicy} {decision : GateDecision}
    (h : evaluateLearningProposal evaluation policy = some decision)
    (promote : decision.decision = .promote) (risk : evaluation.risk ∈ policy.humanApprovalFor) :
    evaluation.humanApproved = true := by
  rcases gate_cases h with hd | hd | ⟨hd, _⟩ | ⟨_, unasked⟩
  · rw [promote] at hd
    cases hd
  · rw [promote] at hd
    cases hd
  · rw [promote] at hd
    cases hd
  · by_contra hn
    exact unasked ⟨risk, by simpa using hn⟩

/-- What is sent for approval has a risk that asks for one and no approval. -/
theorem asked_unapproved {evaluation : LearningProposalEvaluation}
    {policy : AdaptiveLearningPolicy} {decision : GateDecision}
    (h : evaluateLearningProposal evaluation policy = some decision)
    (asked : decision.decision = .requires_approval) :
    evaluation.risk ∈ policy.humanApprovalFor ∧ evaluation.humanApproved = false := by
  rcases gate_cases h with hd | hd | ⟨_, unapproved⟩ | ⟨hd, _⟩
  · rw [asked] at hd
    cases hd
  · rw [asked] at hd
    cases hd
  · exact unapproved
  · rw [asked] at hd
    cases hd

end VantGrowth.Core
