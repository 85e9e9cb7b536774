import Mathlib.Data.List.Count
import Mathlib.Data.List.Induction
import Mathlib.Logic.Function.Basic
import VantGrowth.Db.ApprovalFeedback
import VantGrowth.Db.ExperimentRuns
import VantGrowth.Db.Incidents
import VantGrowth.Db.SignalEvents
import VantGrowth.Lib.Leading

namespace VantGrowth.Db
open Lib

/-- `normalizeLimit`, of a limit that is given. -/
def normalizeLimit (limit : Nat) : Except DbError Nat :=
  if 1 ≤ limit ∧ limit ≤ 250 then .ok limit else .error .zod

/-- `tenantIdSchema.parse` -/
def parseTenantId (tenantId : String) : Except DbError String :=
  if isUuid tenantId = true then .ok tenantId else .error .zod

def InMemorySignalEventsRepository.countSince (s : InMemorySignalEventsRepository)
    (tenantId : String) (since : Instant) : Nat :=
  (s.records.filter fun r => r.tenantId == tenantId && since ≤ r.createdAt).length

structure StatusSummary (σ : Type) where
  total : Nat
  byStatus : σ → Nat

namespace StatusSummary
variable {σ : Type} [DecidableEq σ]

def empty : StatusSummary σ := ⟨0, fun _ => 0⟩

def add (result : StatusSummary σ) (status : σ) : StatusSummary σ :=
  ⟨result.total + 1, Function.update result.byStatus status (result.byStatus status + 1)⟩

/-- The loop of both `getSummary` over the statuses of a tenant. -/
def of (statuses : List σ) : StatusSummary σ := statuses.foldl add empty

theorem of_total (statuses : List σ) : (of statuses).total = statuses.length := by
  induction statuses using List.reverseRecOn with
  | nil => rfl
  | append_singleton statuses s ih =>
    unfold of at ih ⊢
    rw [List.foldl_append, List.length_append, ← ih]
    rfl

theorem of_byStatus (statuses : List σ) (s : σ) : (of statuses).byStatus s = statuses.count s := by
  induction statuses using List.reverseRecOn with
  | nil => rfl
  | append_singleton statuses t ih =>
    unfold of at ih ⊢
    rw [List.foldl_append, List.count_append, ← ih]
    by_cases same : s = t
    · simp [add, same]
    · simp [add, same, Ne.symm same]

end StatusSummary

def InMemoryExperimentRepository.getSummary (r : InMemoryExperimentRepository) (tenantId : String) :
    Except DbError (StatusSummary ExperimentStatus) := do
  let tenantId ← parseTenantId tenantId
  return .of ((r.experimentsById.values.filter (·.tenantId == tenantId)).map (·.status))

def LearningProposalStore.getSummary (s : LearningProposalStore π) (tenantId : String) :
    Except DbError (StatusSummary LearningProposalStatus) := do
  let tenantId ← parseTenantId tenantId
  return .of ((s.recordsById.values.filter (·.tenantId == tenantId)).map (·.status))

/-- Newest first, without a status to ask for. -/
def IncidentStore.listRecent (s : IncidentStore) (tenantId : String) (limit : Nat) :
    Except DbError (List IncidentRecord) := do
  let tenantId ← parseTenantId tenantId
  let limit ← normalizeLimit limit
  return ((s.recordsById.values.filter (·.tenantId == tenantId)).insertionSort
    fun a b => b.openedAt ≤ a.openedAt).take limit

/-- A stored record has the time it was observed at. -/
def ComponentHealthRecord.observed (r : ComponentHealthRecord) : Instant := r.observedAt.getD r.createdAt

namespace ComponentHealthStore

/-- The record of a tenant's component that was observed last. -/
def current (s : ComponentHealthStore) (tenantId componentId : String) : Option ComponentHealthRecord :=
  ((s.records.values.filter fun r => r.tenantId == tenantId && r.componentId == componentId).insertionSort
    fun a b => b.observed ≤ a.observed).head?

def getByComponent (s : ComponentHealthStore) (tenantId componentId : String) :
    Except DbError (Option ComponentHealthRecord) := do
  let tenantId ← parseTenantId tenantId
  return s.current tenantId componentId

/-- The records by component: one that is there gives way to one observed later. -/
def latestByComponent (tenantId : String) (records : List ComponentHealthRecord) :
    InsertionMap String ComponentHealthRecord :=
  records.foldl (fun latest record =>
    if record.tenantId ≠ tenantId then latest
    else
      match latest.get record.componentId with
      | none => latest.set record.componentId record
      | some prior =>
        if prior.observed < record.observed then latest.set record.componentId record else latest)
    .empty

def listLatest (s : ComponentHealthStore) (tenantId : String) (limit : Nat) :
    Except DbError (List ComponentHealthRecord) := do
  let tenantId ← parseTenantId tenantId
  let limit ← normalizeLimit limit
  return ((latestByComponent tenantId s.records.values).values.insertionSort
    fun a b => b.observed ≤ a.observed).take limit

/-- The pass ends with the current record of every component. -/
theorem latestByComponent_get (tenantId componentId : String) (records : List ComponentHealthRecord) :
    (latestByComponent tenantId records).get componentId =
      leading ComponentHealthRecord.observed
        (records.filter fun r => r.tenantId == tenantId && r.componentId == componentId) := by
  induction records using List.reverseRecOn with
  | nil => rfl
  | append_singleton records r ih =>
    have step : latestByComponent tenantId (records ++ [r]) =
        if r.tenantId ≠ tenantId then latestByComponent tenantId records
        else
          match (latestByComponent tenantId records).get r.componentId with
          | none => (latestByComponent tenantId records).set r.componentId r
          | some prior =>
            if prior.observed < r.observed then (latestByComponent tenantId records).set r.componentId r
            else latestByComponent tenantId records := by
      simp only [latestByComponent, List.foldl_append, List.foldl_cons, List.foldl_nil]
    rw [step, List.filter_append]
    by_cases own : r.tenantId = tenantId
    · rw [if_neg (not_not.mpr own)]
      by_cases same : r.componentId = componentId
      · have kept : [r].filter (fun r => r.tenantId == tenantId && r.componentId == componentId) = [r] := by
          simp [own, same]
        rw [kept, leading_snoc, ← ih, ← same]
        cases held : (latestByComponent tenantId records).get r.componentId with
        | none => exact InsertionMap.get_set_self _ _ _
        | some prior =>
          dsimp only
          split
          · exact InsertionMap.get_set_self _ _ _
          · exact held
      · have dropped : [r].filter (fun r => r.tenantId == tenantId && r.componentId == componentId) = [] := by
          simp [same]
        rw [dropped, List.append_nil, ← ih]
        cases (latestByComponent tenantId records).get r.componentId with
        | none => exact InsertionMap.get_set_other _ (Ne.symm same) r
        | some prior =>
          dsimp only
          split
          · exact InsertionMap.get_set_other _ (Ne.symm same) r
          · rfl
    · have dropped : [r].filter (fun r => r.tenantId == tenantId && r.componentId == componentId) = [] := by
        simp [own]
      rw [if_pos own, dropped, List.append_nil, ih]

end ComponentHealthStore

namespace PostgresComponentHealthRepository

/-- The rows of a component. A `uuid` column reads a tenant in any letter case. -/
def rows (s : ComponentHealthStore) (tenantId componentId : String) : List ComponentHealthRecord :=
  s.records.values.filter fun r =>
    uuidColumn r.tenantId == uuidColumn tenantId && r.componentId == componentId

/-- `order by observed_at desc, created_at desc limit 1`: what may be answered,
since the order of rows that agree on both keys is left open. -/
def MaySelect (rows : List ComponentHealthRecord) : Option ComponentHealthRecord → Prop
  | none => rows = []
  | some row => Latest ComponentHealthRecord.observed (·.createdAt) rows row

/-- An answer that `getByComponent` may give. -/
def GetsByComponent (s : ComponentHealthStore) (tenantId componentId : String)
    (answer : Option ComponentHealthRecord) : Prop :=
  isUuid tenantId = true ∧ ∃ component, nonEmptyText componentId = some component ∧
    MaySelect (rows s tenantId component) answer

end PostgresComponentHealthRepository

end VantGrowth.Db
