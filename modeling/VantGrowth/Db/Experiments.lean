import Mathlib.Algebra.Order.Field.Rat
import Mathlib.Data.List.Dedup
import VantGrowth.Core.LearningGate
import VantGrowth.Db.LearningProposals

namespace VantGrowth.Db
open Core Lib Lib.Text

inductive ExperimentVariant where
  | a | b
deriving DecidableEq

/-- `z.number().min(0).max(1)` -/
abbrev Confidence := {c : ℚ // 0 ≤ c ∧ c ≤ 1}

structure ExperimentRecord where
  id : String
  tenantId : String
  metricName : String
  metricDirection : MetricDirection

structure ExperimentObservationRecord where
  tenantId : String
  experimentId : String
  entityType : String
  entityId : String
  variant : ExperimentVariant
  metricName : String
  metricValue : ℚ
  isGuardrail : Bool
  attributionConfidence : Confidence

structure ExperimentStore where
  experimentsById : InsertionMap String ExperimentRecord
  observationsById : InsertionMap String ExperimentObservationRecord

structure ExperimentEvidenceSummary where
  experimentId : String
  metricName : String
  evidenceCount : Nat
  uniqueEntities : Nat
  baselineMetric : ℚ
  candidateMetric : ℚ
  /-- Mean attribution confidence, not a causal confidence claim. -/
  meanAttributionConfidence : ℚ
  baselineGuardrailMetric : Option ℚ
  candidateGuardrailMetric : Option ℚ
  /-- Positive values mean a guardrail worsened for variant B. -/
  worstGuardrailRegression : ℚ

/-- `schema.parse(value)` -/
def parsed (value : Option α) : Except DbError α :=
  match value with
  | some a => .ok a
  | none => .error .zod

def mean (values : List ℚ) : Option ℚ :=
  if values = [] then none else some (values.foldl (· + ·) 0 / values.length)

/-- What both repositories report of the two guardrail means. -/
def guardrailRegression : Option ℚ → Option ℚ → ℚ
  | some baseline, some candidate => max 0 (candidate - baseline)
  | _, _ => 0

namespace ExperimentStore

def empty : ExperimentStore := ⟨.empty, .empty⟩

def find (s : ExperimentStore) (tenantId id : String) : Option ExperimentRecord :=
  (s.experimentsById.get id).filter (·.tenantId == tenantId)

def observations (s : ExperimentStore) (tenantId experimentId : String) :
    List ExperimentObservationRecord :=
  s.observationsById.values.filter fun record =>
    record.tenantId == tenantId && record.experimentId == experimentId

end ExperimentStore

namespace InMemoryExperimentRepository

def getById (s : ExperimentStore) (tenantId id : String) :
    Except DbError (Option ExperimentRecord) := do
  let parsedTenantId ← parsed (uuidText tenantId)
  return s.find parsedTenantId id

def variantValues (variant : ExperimentVariant) (records : List ExperimentObservationRecord) :
    List ℚ :=
  (records.filter (·.variant == variant)).map (·.metricValue)

/-- An empty guardrail name counts as none. -/
def guardrailRows (records : List ExperimentObservationRecord) :
    Option String → List ExperimentObservationRecord
  | some name =>
    if name = "" then []
    else records.filter fun record => record.isGuardrail && record.metricName == name
  | none => []

def summarizeEvidenceRecords (experimentId metricName : String)
    (records : List ExperimentObservationRecord) (guardrailMetricName : Option String) :
    Option ExperimentEvidenceSummary :=
  let outcomeRows := records.filter fun record =>
    !record.isGuardrail && record.metricName == metricName
  match mean (variantValues .a outcomeRows), mean (variantValues .b outcomeRows) with
  | some baselineMetric, some candidateMetric =>
    let guardrailRows := guardrailRows records guardrailMetricName
    let baselineGuardrailMetric := mean (variantValues .a guardrailRows)
    let candidateGuardrailMetric := mean (variantValues .b guardrailRows)
    some
      { experimentId, metricName, evidenceCount := outcomeRows.length,
        uniqueEntities :=
          (outcomeRows.map fun record => join record.entityType record.entityId).dedup.length,
        baselineMetric, candidateMetric,
        meanAttributionConfidence :=
          (mean (outcomeRows.map fun record => record.attributionConfidence.val)).getD 0,
        baselineGuardrailMetric, candidateGuardrailMetric,
        worstGuardrailRegression :=
          guardrailRegression baselineGuardrailMetric candidateGuardrailMetric }
  | _, _ => none

def summarizeEvidence (s : ExperimentStore) (tenantId experimentId metricName : String)
    (guardrailMetricName : Option String) :
    Except DbError (Option ExperimentEvidenceSummary) := do
  let parsedTenantId ← parsed (uuidText tenantId)
  match ← getById s parsedTenantId experimentId with
  | none => return none
  | some _ =>
    return summarizeEvidenceRecords experimentId metricName
      (s.observations parsedTenantId experimentId) guardrailMetricName

end InMemoryExperimentRepository

namespace PostgresExperimentRepository

def getById (s : ExperimentStore) (tenantId id : String) :
    Except DbError (Option ExperimentRecord) := do
  let parsedTenantId ← parsed (uuidText tenantId)
  let parsedId ← parsed (uuidText id)
  return s.find parsedTenantId parsedId

/-- `avg(CASE WHEN variant = … THEN metric_value END)`, which skips nulls. -/
def avgWhen (variant : ExperimentVariant) (rows : List ExperimentObservationRecord) : Option ℚ :=
  mean (rows.filterMap fun row => if row.variant = variant then some row.metricValue else none)

def rowsOf (rows : List ExperimentObservationRecord) (metricName : String) (guardrail : Bool) :
    List ExperimentObservationRecord :=
  rows.filter fun row => row.metricName == metricName && row.isGuardrail == guardrail

def summarizeEvidence (s : ExperimentStore) (tenantId experimentId metricName : String)
    (guardrailMetricName : Option String) :
    Except DbError (Option ExperimentEvidenceSummary) := do
  let parsedTenantId ← parsed (uuidText tenantId)
  let parsedExperimentId ← parsed (uuidText experimentId)
  let parsedMetricName ← parsed (nonEmptyText metricName)
  let parsedGuardrailMetricName ← parsed (optionalField nonEmptyText guardrailMetricName)
  match s.find parsedTenantId parsedExperimentId with
  | none => return none
  | some _ =>
    let rows := s.observations parsedTenantId parsedExperimentId
    let outcome := rowsOf rows parsedMetricName false
    match avgWhen .a outcome, avgWhen .b outcome with
    | some baselineMetric, some candidateMetric =>
      let guardrail variant :=
        parsedGuardrailMetricName.bind fun name => avgWhen variant (rowsOf rows name true)
      return some
        { experimentId := parsedExperimentId, metricName := parsedMetricName,
          evidenceCount := outcome.length,
          uniqueEntities :=
            (outcome.map fun row => (row.entityType, row.entityId)).dedup.length,
          baselineMetric, candidateMetric,
          meanAttributionConfidence :=
            (mean (outcome.map fun row => row.attributionConfidence.val)).getD 0,
          baselineGuardrailMetric := guardrail .a, candidateGuardrailMetric := guardrail .b,
          worstGuardrailRegression := guardrailRegression (guardrail .a) (guardrail .b) }
    | _, _ => return none

end PostgresExperimentRepository

end VantGrowth.Db
