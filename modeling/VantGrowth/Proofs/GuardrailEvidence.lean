import Mathlib.Algebra.Order.BigOperators.Group.List
import Mathlib.Algebra.Order.Field.Basic
import VantGrowth.Proofs.HumanApproval

namespace VantGrowth.Proofs.GuardrailEvidence
open Core Db Db.LearningProposalStore Lib Lib.Text Learning
open ProposalEffects ProposalKeys

/-- What a variant was observed with, of one metric. -/
def observed (records : List ExperimentObservationRecord) (metricName : String)
    (isGuardrail : Bool) (variant : ExperimentVariant) : List ℚ :=
  (records.filter fun record => record.isGuardrail == isGuardrail &&
    record.metricName == metricName && record.variant == variant).map (·.metricValue)

/-- A proposal with the experiment it is linked to and the metrics that are
compared for it. -/
structure Link where
  tenantId : String
  proposalKey : String
  persisted : Proposal
  experimentId : String
  experiment : ExperimentRecord
  metricName : String
  guardrailName : Option String

namespace Link

def observations (x : Link) (w : World) : List ExperimentObservationRecord :=
  w.experiments.observations x.tenantId x.experiment.id

def outcomeMean (x : Link) (w : World) (variant : ExperimentVariant) : Option ℚ :=
  mean (observed (x.observations w) x.metricName false variant)

def guardrailMean (x : Link) (w : World) (variant : ExperimentVariant) : Option ℚ :=
  x.guardrailName.bind fun name => mean (observed (x.observations w) name true variant)

/-- Both variants were observed with the metric of the experiment. -/
def Measured (x : Link) (w : World) : Prop :=
  (x.outcomeMean w .a).isSome = true ∧ (x.outcomeMean w .b).isSome = true

end Link

/-- The guardrail a repository looks for: as configured in memory, where an
empty name counts as none, and trimmed in Postgres. -/
def guardrailName (d : Deployment) : Option (Option String) :=
  d.choose (some (d.guardrailMetricName.filter (· != "")))
    (optionalField nonEmptyText d.guardrailMetricName)

/-- The store links the proposal so. Postgres admits uuids and trimmed names. -/
structure Linked (d : Deployment) (w : World) (proposal : PlaybookChangeProposal) (x : Link) :
    Prop where
  tenant : uuidText proposal.tenantId = some x.tenantId
  key : nonEmptyText proposal.proposalId = some x.proposalKey
  stored : rowOfKey w.proposals x.tenantId x.proposalKey = some x.persisted
  link : x.persisted.experimentId = some x.experimentId
  admitted : d.choose (some x.experimentId) (uuidText x.experimentId) = some x.experimentId
  experiment : w.experiments.find x.tenantId x.experimentId = some x.experiment
  readable : d.choose (some x.experiment.id) (uuidText x.experiment.id) = some x.experiment.id
  kept : (w.experiments.find x.tenantId x.experiment.id).isSome = true
  metric : d.choose (some x.experiment.metricName) (nonEmptyText x.experiment.metricName) =
    some x.metricName
  guardrail : guardrailName d = some x.guardrailName

/-- What the provider answers while nothing else runs. -/
def provided (d : Deployment) (w : World) (proposal : PlaybookChangeProposal) :
    Except DbError (Option LearningProposalEvaluation) :=
  ((Prog.runAlone (exec d) (getEvaluation d proposal)).run w).1

theorem memory_outcome (records : List ExperimentObservationRecord) (metricName : String)
    (variant : ExperimentVariant) :
    InMemoryExperimentRepository.variantValues variant
        (records.filter fun record => !record.isGuardrail && record.metricName == metricName) =
      observed records metricName false variant := by
  unfold InMemoryExperimentRepository.variantValues observed
  rw [List.filter_filter]
  congr 1
  refine List.filter_congr fun record _ => ?_
  cases record.isGuardrail <;> simp [Bool.and_comm]

theorem postgres_mean (records : List ExperimentObservationRecord) (name : String)
    (isGuardrail : Bool) (variant : ExperimentVariant) :
    PostgresExperimentRepository.avgWhen variant
        (PostgresExperimentRepository.rowsOf records name isGuardrail) =
      mean (observed records name isGuardrail variant) := by
  unfold PostgresExperimentRepository.avgWhen PostgresExperimentRepository.rowsOf observed
  congr 1
  induction records with
  | nil => rfl
  | cons record records ih =>
    simp only [List.filter_cons]
    by_cases row : record.metricName = name ∧ record.isGuardrail = isGuardrail
    · by_cases same : record.variant = variant
      · simp [row, same, ih]
      · simp [row, same, ih]
    · have other : ¬ (record.isGuardrail = isGuardrail ∧ record.metricName = name) :=
        fun both => row both.symm
      simp [row, other, ih]

section
variable {d : Deployment} {w : World} {proposal : PlaybookChangeProposal} {x : Link}

/-- What a summary of the linked experiment says of its observations. -/
structure Summarizes (x : Link) (w : World) (evidence : ExperimentEvidenceSummary) : Prop where
  confidence : 0 ≤ evidence.meanAttributionConfidence ∧ evidence.meanAttributionConfidence ≤ 1
  regression : evidence.worstGuardrailRegression =
    guardrailRegression (x.guardrailMean w .a) (x.guardrailMean w .b)

/-- The summary a repository makes: none unless both variants were observed. -/
structure Answers (x : Link) (w : World) (answer : Option ExperimentEvidenceSummary) : Prop where
  found : answer.isSome = true ↔ x.Measured w
  summary : ∀ evidence, answer = some evidence → Summarizes x w evidence

theorem parsed_bind {value : Option α} {f : α → Except DbError β} {b : β}
    (h : parsed value >>= f = .ok b) : ∃ a, value = some a ∧ f a = .ok b := by
  cases value with
  | none => cases h
  | some a => exact ⟨a, rfl, h⟩

theorem Linked.unique {y : Link} (hx : Linked d w proposal x) (hy : Linked d w proposal y) :
    x = y := by
  obtain ⟨_, _, _, _, _, _, _⟩ := x
  obtain ⟨_, _, _, _, _, _, _⟩ := y
  have tenant := hx.tenant.symm.trans hy.tenant
  have key := hx.key.symm.trans hy.key
  simp only [Option.some.injEq] at tenant key
  subst tenant key
  have stored := hx.stored.symm.trans hy.stored
  simp only [Option.some.injEq] at stored
  subst stored
  have link := hx.link.symm.trans hy.link
  simp only [Option.some.injEq] at link
  subst link
  have experiment := hx.experiment.symm.trans hy.experiment
  simp only [Option.some.injEq] at experiment
  subst experiment
  have metric := hx.metric.symm.trans hy.metric
  have guardrail := hx.guardrail.symm.trans hy.guardrail
  simp only [Option.some.injEq] at metric guardrail
  subst metric guardrail
  rfl

end

open HumanApproval ProposalLifecycle

theorem whole_unit : (0 : ℚ) ≤ 1 ∧ (1 : ℚ) ≤ 1 := by decide

def stay (variant : ExperimentVariant) (minutes : ℚ) : ExperimentObservationRecord :=
  { tenantId := acme, experimentId := ctrTest.id, entityType := "visitor", entityId := "1",
    variant, metricName := "minutes to find", metricValue := minutes, isGuardrail := true,
    attributionConfidence := ⟨1, whole_unit⟩ }

def guarded : Deployment := { deployed with guardrailMetricName := some "minutes to find" }

/-- The gate throws on what the provider answers. -/
def refused : Except DbError (Option LearningProposalEvaluation) → Bool
  | .ok (some evaluation) => (evaluateLearningProposal evaluation {}).isNone
  | _ => false

end VantGrowth.Proofs.GuardrailEvidence
