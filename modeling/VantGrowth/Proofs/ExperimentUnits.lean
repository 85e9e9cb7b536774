import Mathlib.Data.List.Find
import VantGrowth.Db.ExperimentRuns
import VantGrowth.Lib.Runs
import VantGrowth.Proofs.GuardrailEvidence
import VantGrowth.Proofs.ProposalLifecycle

namespace VantGrowth.Proofs.ExperimentUnits
open Db Lib Lib.Text Lib.Logs InMemoryExperimentRepository PostgresExperimentRepository
open Lib.InsertionMap (Indexes)

/-- A uuid is given as its column keeps it. -/
def Canonical (uuid : String) : Prop := isUuid uuid = true → uuidColumn uuid = uuid

/-- The same of an experiment's id; an id that is no uuid names none. -/
def CanonicalId (t : ExperimentTables) (id : String) : Prop :=
  if isUuid id = true then uuidColumn id = id else t.experiments.get id = none

def unitText (entityType entityId : String) : String := join entityType entityId

/-- The rows have uuids of the first `n` calls. -/
def Drawn (uuid : Supply) (n : Nat) (rows : InsertionMap String ν) : Prop :=
  ∀ id row, rows.get id = some row → ∃ k < n, id = uuid.text k

/-- After `n` calls: the rows are the same and each index follows its rows. No
two units of an experiment that were observed read alike. -/
structure Same (uuid : Supply) (n : Nat) (m : InMemoryExperimentRepository) (t : ExperimentTables) :
    Prop where
  experiments : m.experimentsById = t.experiments
  assignments : m.assignmentsById = t.experimentAssignments
  observations : m.observationsById = t.experimentObservations
  experimentKeys : Indexes m.experimentIdByKey t.experiments
    fun row => experimentKey row.tenantId row.experimentKey
  assignmentKeys : Indexes m.assignmentIdByEntity t.experimentAssignments
    fun row => assignmentKey row.tenantId row.experimentId row.entityType row.entityId
  observationKeys : Indexes m.observationIdByKey t.experimentObservations
    fun row => observationKey row.tenantId row.experimentId row.idempotencyKey
  experimentTenants : ∀ row ∈ t.experiments.values, isUuid row.tenantId = true
  assignmentTenants : ∀ row ∈ t.experimentAssignments.values,
    isUuid row.tenantId = true ∧ isUuid row.experimentId = true
  observationTenants : ∀ row ∈ t.experimentObservations.values,
    isUuid row.tenantId = true ∧ isUuid row.experimentId = true
  units : ∀ row ∈ t.experimentObservations.values, ∀ other ∈ t.experimentObservations.values,
    row.tenantId = other.tenantId → row.experimentId = other.experimentId →
      unitText row.entityType row.entityId = unitText other.entityType other.entityId →
        row.entityType = other.entityType ∧ row.entityId = other.entityId
  drawnExperiments : Drawn uuid n t.experiments
  drawnAssignments : Drawn uuid n t.experimentAssignments
  drawnObservations : Drawn uuid n t.experimentObservations

theorem Drawn.mono (h : Drawn uuid n rows) : Drawn uuid (n + 1) rows := by
  intro id row stored
  obtain ⟨k, early, drawn⟩ := h id row stored
  exact ⟨k, Nat.lt_succ_of_lt early, drawn⟩

theorem Drawn.fresh {rows : InsertionMap String ν} (h : Drawn uuid n rows) :
    rows.get (uuid.text n) = none := by
  cases stored : rows.get (uuid.text n) with
  | none => rfl
  | some row =>
    obtain ⟨k, early, drawn⟩ := h _ row stored
    have same := uuid.distinct drawn
    omega

theorem Drawn.insert {rows : InsertionMap String ν} (h : Drawn uuid n rows) (row : ν) :
    Drawn uuid (n + 1) (rows.set (uuid.text n) row) := by
  intro id other stored
  rw [InsertionMap.get_set] at stored
  split at stored
  · exact ⟨n, Nat.lt_succ_self n, ‹_›⟩
  · exact h.mono id other stored

theorem Drawn.update {rows : InsertionMap String ν} {id : String} (h : Drawn uuid n rows)
    (stored : rows.get id = some row) (updated : ν) : Drawn uuid n (rows.set id updated) := by
  intro other value there
  rw [InsertionMap.get_set] at there
  split at there
  · rename_i same
    rw [same]
    exact h id row stored
  · exact h other value there

theorem Same.mono (h : Same uuid n m t) : Same uuid (n + 1) m t :=
  { h with
    drawnExperiments := h.drawnExperiments.mono
    drawnAssignments := h.drawnAssignments.mono
    drawnObservations := h.drawnObservations.mono }

/-- What the call after `n` others gave on both sides. -/
def Agree (uuid : Supply) (n : Nat) (x : Except DbError α × InMemoryExperimentRepository)
    (y : Except DbError α × ExperimentTables) : Prop := x.1 = y.1 ∧ Same uuid (n + 1) x.2 y.2

theorem uuidText_some {s : String} (h : uuidText s = some t) : t = s ∧ isUuid s = true := by
  unfold uuidText at h
  split at h
  · cases h
    exact ⟨rfl, ‹_›⟩
  · cases h

theorem experimentKey_eq {row : ExperimentRow} {tenantId key : String}
    (stored : isUuid row.tenantId = true) (given : isUuid tenantId = true) :
    (experimentKey row.tenantId row.experimentKey == experimentKey tenantId key) =
      sameExperiment tenantId key row := by
  have split : experimentKey row.tenantId row.experimentKey = experimentKey tenantId key ↔
      row.tenantId = tenantId ∧ row.experimentKey = key := by
    constructor
    · exact join_inj (uuid_no_colon stored) (uuid_no_colon given)
    · rintro ⟨rfl, rfl⟩
      rfl
  simp only [beq_eq_decide, split, sameExperiment, Bool.decide_and]

/-- Keys of one experiment agree where what follows the experiment does. -/
theorem scoped_eq {tenantId tenantId' experimentId experimentId' rest rest' : String}
    (tenant : isUuid tenantId = true) (tenant' : isUuid tenantId' = true)
    (experiment : isUuid experimentId = true) (experiment' : isUuid experimentId' = true) :
    join tenantId (join experimentId rest) = join tenantId' (join experimentId' rest') ↔
      tenantId = tenantId' ∧ experimentId = experimentId' ∧ rest = rest' := by
  constructor
  · intro same
    obtain ⟨tenants, inner⟩ := join_inj (uuid_no_colon tenant) (uuid_no_colon tenant') same
    exact ⟨tenants, join_inj (uuid_no_colon experiment) (uuid_no_colon experiment') inner⟩
  · rintro ⟨rfl, rfl, rfl⟩
    rfl

theorem observationKey_eq {row : ExperimentObservationRow} {tenantId experimentId key : String}
    (stored : isUuid row.tenantId = true ∧ isUuid row.experimentId = true)
    (tenant : isUuid tenantId = true) (experiment : isUuid experimentId = true) :
    (observationKey row.tenantId row.experimentId row.idempotencyKey ==
        observationKey tenantId experimentId key) =
      sameObservation tenantId experimentId key row := by
  simp only [beq_eq_decide, observationKey, scoped_eq stored.1 tenant stored.2 experiment,
    sameObservation, Bool.decide_and, Bool.and_assoc]

/-- The unit reads like no other of the rows of its experiment. -/
def UnitApart (tenantId experimentId entityType entityId : String)
    (row : ExperimentAssignmentRecord) : Prop :=
  row.tenantId = tenantId → row.experimentId = experimentId →
    unitText row.entityType row.entityId = unitText entityType entityId →
      row.entityType = entityType ∧ row.entityId = entityId

theorem assignmentKey_eq {row : ExperimentAssignmentRecord}
    {tenantId experimentId entityType entityId : String}
    (stored : isUuid row.tenantId = true ∧ isUuid row.experimentId = true)
    (tenant : isUuid tenantId = true) (experiment : isUuid experimentId = true)
    (apart : UnitApart tenantId experimentId entityType entityId row) :
    (assignmentKey row.tenantId row.experimentId row.entityType row.entityId ==
        assignmentKey tenantId experimentId entityType entityId) =
      sameUnit tenantId experimentId entityType entityId row := by
  have split : assignmentKey row.tenantId row.experimentId row.entityType row.entityId =
      assignmentKey tenantId experimentId entityType entityId ↔
        row.tenantId = tenantId ∧ row.experimentId = experimentId ∧
          row.entityType = entityType ∧ row.entityId = entityId := by
    unfold assignmentKey
    rw [scoped_eq stored.1 tenant stored.2 experiment]
    constructor
    · rintro ⟨tenants, experiments, units⟩
      exact ⟨tenants, experiments, apart tenants experiments units⟩
    · rintro ⟨tenants, experiments, types, ids⟩
      exact ⟨tenants, experiments, by rw [types, ids]⟩
  simp only [beq_eq_decide, split, sameUnit, Bool.decide_and, Bool.and_assoc]

section
variable {m : InMemoryExperimentRepository} {t : ExperimentTables} {uuid : Supply} {n : Nat} {now : Instant}

theorem insert_run {get : ExperimentTables → InsertionMap String ν}
    {put : ExperimentTables → InsertionMap String ν → ExperimentTables} {conflict : ν → Bool}
    {id : String} {row : ν} : (PostgresExperimentRepository.insert get put conflict id row).run t =
      if ((get t).values.find? conflict).isSome = true then (.ok none, t)
      else (.ok (some row), put t ((get t).set id row)) := by
  have asked : (get t).values.any conflict = ((get t).values.find? conflict).isSome := by
    rw [List.isSome_find?]
  unfold PostgresExperimentRepository.insert
  cases found : (get t).values.find? conflict with
  | none => simp [Store.run_bind, asked, found]
  | some old => simp [Store.run_bind, asked, found]

theorem transaction_run (body : Store DbError ExperimentTables α) :
    (Store.transaction body).run t =
      ((body.run t).1, if (body.run t).1.toBool = true then (body.run t).2 else t) := by
  rcases ran : body.run t with ⟨x, s⟩
  cases x <;> simp [Store.transaction, ran, Except.toBool]

theorem Same.experiment (h : Same uuid n m t) {tenantId : String} (tenant : isUuid tenantId = true)
    (key : String) :
    (m.experimentIdByKey.get (experimentKey tenantId key)).bind m.experimentsById.get =
      t.experiments.values.find? (sameExperiment tenantId key) := by
  rw [h.experiments, h.experimentKeys.get]
  exact List.find?_congr fun row member => experimentKey_eq (h.experimentTenants row member) tenant

theorem Same.assignment (h : Same uuid n m t) {tenantId experimentId entityType entityId : String}
    (tenant : isUuid tenantId = true) (experiment : isUuid experimentId = true)
    (apart : ∀ row ∈ t.experimentAssignments.values,
      UnitApart tenantId experimentId entityType entityId row) :
    (m.assignmentIdByEntity.get (assignmentKey tenantId experimentId entityType entityId)).bind
        m.assignmentsById.get =
      t.experimentAssignments.values.find? (sameUnit tenantId experimentId entityType entityId) := by
  rw [h.assignments, h.assignmentKeys.get]
  exact List.find?_congr fun row member =>
    assignmentKey_eq (h.assignmentTenants row member) tenant experiment (apart row member)

theorem Same.observation (h : Same uuid n m t) {tenantId experimentId : String}
    (tenant : isUuid tenantId = true) (experiment : isUuid experimentId = true) (key : String) :
    (m.observationIdByKey.get (observationKey tenantId experimentId key)).bind
        m.observationsById.get =
      t.experimentObservations.values.find? (sameObservation tenantId experimentId key) := by
  rw [h.observations, h.observationKeys.get]
  exact List.find?_congr fun row member =>
    observationKey_eq (h.observationTenants row member) tenant experiment

theorem Same.addExperiment (h : Same uuid n m t) (row : ExperimentRow) (drawn : row.id = uuid.text n)
    (free : m.experimentIdByKey.get (experimentKey row.tenantId row.experimentKey) = none)
    (tenant : isUuid row.tenantId = true) :
    Same uuid (n + 1) { m with
        experimentsById := m.experimentsById.set row.id row
        experimentIdByKey := m.experimentIdByKey.set (experimentKey row.tenantId row.experimentKey) row.id }
      { t with experiments := t.experiments.set row.id row } := by
  refine { h.mono with
    experiments := ?_, experimentKeys := ?_, experimentTenants := ?_, drawnExperiments := ?_ }
  · rw [h.experiments]
  · exact h.experimentKeys.insert (drawn ▸ h.drawnExperiments.fresh) free
  · intro other member
    rcases InsertionMap.mem_values_set member with rfl | old
    · exact tenant
    · exact h.experimentTenants other old
  · rw [drawn]
    exact h.drawnExperiments.insert row

theorem Same.changeExperiment (h : Same uuid n m t) {id : String} {row : ExperimentRow}
    (updated : ExperimentRow) (stored : t.experiments.get id = some row)
    (tenant : updated.tenantId = row.tenantId) (key : updated.experimentKey = row.experimentKey) :
    Same uuid (n + 1) { m with experimentsById := m.experimentsById.set id updated }
      { t with experiments := t.experiments.set id updated } := by
  refine { h.mono with
    experiments := ?_, experimentKeys := ?_, experimentTenants := ?_, drawnExperiments := ?_ }
  · rw [h.experiments]
  · exact h.experimentKeys.update stored (by rw [tenant, key])
  · intro other member
    rcases InsertionMap.mem_values_set member with rfl | old
    · rw [tenant]
      exact h.experimentTenants row ((InsertionMap.mem_values _ _).mpr ⟨id, stored⟩)
    · exact h.experimentTenants other old
  · exact (h.drawnExperiments.update stored updated).mono

theorem Same.addAssignment (h : Same uuid n m t) (row : ExperimentAssignmentRecord)
    (drawn : row.id = uuid.text n)
    (free : m.assignmentIdByEntity.get
      (assignmentKey row.tenantId row.experimentId row.entityType row.entityId) = none)
    (valid : isUuid row.tenantId = true ∧ isUuid row.experimentId = true) :
    Same uuid (n + 1) { m with
        assignmentsById := m.assignmentsById.set row.id row
        assignmentIdByEntity := m.assignmentIdByEntity.set
          (assignmentKey row.tenantId row.experimentId row.entityType row.entityId) row.id }
      { t with experimentAssignments := t.experimentAssignments.set row.id row } := by
  refine { h.mono with
    assignments := ?_, assignmentKeys := ?_, assignmentTenants := ?_, drawnAssignments := ?_ }
  · rw [h.assignments]
  · exact h.assignmentKeys.insert (drawn ▸ h.drawnAssignments.fresh) free
  · intro other member
    rcases InsertionMap.mem_values_set member with rfl | old
    · exact valid
    · exact h.assignmentTenants other old
  · rw [drawn]
    exact h.drawnAssignments.insert row

/-- The unit reads like no other that was observed in its experiment. -/
def ObservedApart (tenantId experimentId entityType entityId : String)
    (row : ExperimentObservationRow) : Prop :=
  row.tenantId = tenantId → row.experimentId = experimentId →
    unitText row.entityType row.entityId = unitText entityType entityId →
      row.entityType = entityType ∧ row.entityId = entityId

theorem Same.addObservation (h : Same uuid n m t) (row : ExperimentObservationRow)
    (drawn : row.id = uuid.text n)
    (free : m.observationIdByKey.get
      (observationKey row.tenantId row.experimentId row.idempotencyKey) = none)
    (valid : isUuid row.tenantId = true ∧ isUuid row.experimentId = true)
    (apart : ∀ other ∈ t.experimentObservations.values,
      ObservedApart row.tenantId row.experimentId row.entityType row.entityId other) :
    Same uuid (n + 1) { m with
        observationsById := m.observationsById.set row.id row
        observationIdByKey := m.observationIdByKey.set
          (observationKey row.tenantId row.experimentId row.idempotencyKey) row.id }
      { t with experimentObservations := t.experimentObservations.set row.id row } := by
  refine { h.mono with
    observations := ?_, observationKeys := ?_, observationTenants := ?_, units := ?_,
    drawnObservations := ?_ }
  · rw [h.observations]
  · exact h.observationKeys.insert (drawn ▸ h.drawnObservations.fresh) free
  · intro other member
    rcases InsertionMap.mem_values_set member with rfl | old
    · exact valid
    · exact h.observationTenants other old
  · intro one oneIn other otherIn tenant experiment alike
    rcases InsertionMap.mem_values_set oneIn with rfl | oneOld
    · rcases InsertionMap.mem_values_set otherIn with rfl | otherOld
      · exact ⟨rfl, rfl⟩
      · obtain ⟨types, ids⟩ := apart other otherOld tenant.symm experiment.symm alike.symm
        exact ⟨types.symm, ids.symm⟩
    · rcases InsertionMap.mem_values_set otherIn with rfl | otherOld
      · exact apart one oneOld tenant experiment alike
      · exact h.units one oneOld other otherOld tenant experiment alike
  · rw [drawn]
    exact h.drawnObservations.insert row

theorem create_agrees (h : Same uuid n m t) {tenantId : String}
    (canonical : Canonical tenantId) (params : CreateExperimentParams) :
    Agree uuid n ((InMemoryExperimentRepository.create (uuid.text n) now tenantId params).run m)
      ((PostgresExperimentRepository.create (uuid.text n) now tenantId params).run t) := by
  unfold InMemoryExperimentRepository.create PostgresExperimentRepository.create
  cases tenant : uuidText tenantId with
  | none => exact ⟨rfl, h.mono⟩
  | some parsedTenantId =>
    obtain ⟨rfl, valid⟩ := uuidText_some tenant
    cases params.parse with
    | none => exact ⟨rfl, h.mono⟩
    | some parsed =>
      have looked := h.experiment valid parsed.experimentKey
      simp only [parseSchema, Store.run_bind, Store.run_pure, Store.run_read, transaction_run, insert_run,
        canonical valid, looked]
      cases found : t.experiments.values.find? (sameExperiment parsedTenantId parsed.experimentKey) with
      | some existing => simpa [Agree, loaded, found, Store.run_bind] using h.mono
      | none =>
        rw [found] at looked
        have added := h.addExperiment (newExperiment (uuid.text n) parsedTenantId now parsed) rfl
          (h.experimentKeys.free (h.experiments ▸ looked)) valid
        exact ⟨rfl, added⟩

theorem find_same (h : Same uuid n m t) (tenantId id : String) :
    m.find tenantId id = PostgresExperimentRepository.find t tenantId id := by
  unfold InMemoryExperimentRepository.find PostgresExperimentRepository.find
  rw [h.experiments]

theorem find_stored {tenantId id : String} {row : ExperimentRow}
    (found : PostgresExperimentRepository.find t tenantId id = some row) :
    t.experiments.get id = some row := (Option.filter_eq_some_iff.mp found).1

theorem assign_params {params parsed : AssignExperimentParams} (passed : params.parse = some parsed) :
    parsed.experimentId = params.experimentId ∧ isUuid params.experimentId = true := by
  obtain ⟨experimentId, accepted, rest⟩ := Option.bind_eq_some_iff.mp passed
  obtain ⟨entityType, _, rest⟩ := Option.bind_eq_some_iff.mp rest
  obtain ⟨entityId, _, rest⟩ := Option.bind_eq_some_iff.mp rest
  cases rest
  exact uuidText_some accepted

/-- What `requireExperiment` says, on either side. -/
def verdict (experiment : Option ExperimentRow) (allowed : ExperimentStatus → Bool)
    (refused : String) : Except DbError Unit :=
  match experiment with
  | none => .error (.error "Experiment does not exist for this tenant.")
  | some row => if allowed row.status then .ok () else .error (.error refused)

theorem require_run (experiment : Option ExperimentRow) (allowed : ExperimentStatus → Bool)
    (refused : String) (s : σ) :
    (requireExperiment experiment allowed refused : Store DbError σ Unit).run s =
      (verdict experiment allowed refused, s) := by
  cases experiment with
  | none => rfl
  | some row =>
    by_cases ok : allowed row.status = true
    · simp [requireExperiment, verdict, ok]
    · simp [requireExperiment, verdict, ok]

/-- What `requireAssignment` says, on either side. -/
def ownVerdict (assignments : InsertionMap String ExperimentAssignmentRecord) (tenantId : String)
    (params : ParsedObservation) : Except DbError Unit :=
  match params.assignmentId with
  | none => .ok ()
  | some assignmentId =>
    if (assignments.get assignmentId).any (fits tenantId params) then .ok ()
    else .error (.error "Observation assignment does not match the experiment unit.")

theorem own_run (assignments : σ → InsertionMap String ExperimentAssignmentRecord)
    (tenantId : String) (params : ParsedObservation) (s : σ) :
    (requireAssignment assignments tenantId params).run s =
      (ownVerdict (assignments s) tenantId params, s) := by
  unfold requireAssignment ownVerdict
  cases params.assignmentId with
  | none => rfl
  | some assignmentId =>
    by_cases own : ((assignments s).get assignmentId).any (fits tenantId params) = true
    · simp [Store.run_bind, own]
    · simp [Store.run_bind, own]

/-- What `requireCurrency` says, on either side. -/
def currencyVerdict (record : ExperimentObservationRow) : Except DbError Unit :=
  if record.costCurrency.all (jsLength · == 3) then .ok () else .error .zod

theorem currency_run (record : ExperimentObservationRow) (s : σ) :
    (requireCurrency record).run s = (currencyVerdict record, s) := by
  unfold currencyVerdict
  by_cases fits : record.costCurrency.all (jsLength · == 3) = true
  · simp [requireCurrency, fits]
  · simp [requireCurrency, fits]

theorem assign_agrees (h : Same uuid n m t)
    {tenantId : String} (canonical : Canonical tenantId) {params : AssignExperimentParams}
    (experiment : Canonical params.experimentId)
    (apart : ∀ parsed, params.parse = some parsed → ∀ row ∈ t.experimentAssignments.values,
      UnitApart tenantId parsed.experimentId parsed.entityType parsed.entityId row) :
    Agree uuid n ((InMemoryExperimentRepository.assign (uuid.text n) now tenantId params).run m)
      ((PostgresExperimentRepository.assign (uuid.text n) now tenantId params).run t) := by
  unfold InMemoryExperimentRepository.assign PostgresExperimentRepository.assign
  cases tenant : uuidText tenantId with
  | none => exact ⟨rfl, h.mono⟩
  | some parsedTenantId =>
    obtain ⟨rfl, valid⟩ := uuidText_some tenant
    cases passed : params.parse with
    | none => exact ⟨rfl, h.mono⟩
    | some parsed =>
      obtain ⟨named, validExperiment⟩ := assign_params passed
      have kept : uuidColumn parsed.experimentId = parsed.experimentId := by
        rw [named]
        exact experiment validExperiment
      have stored : { parsed with experimentId := uuidColumn parsed.experimentId } = parsed := by
        rw [kept]
      rw [← named] at validExperiment
      have looked := h.assignment valid validExperiment (apart parsed passed)
      simp only [parseSchema, Store.run_bind, Store.run_pure, Store.run_read, transaction_run, require_run,
        insert_run, canonical valid, kept, find_same h]
      cases verdict (PostgresExperimentRepository.find t parsedTenantId parsed.experimentId)
          assignable notAssignable with
      | error e => exact ⟨rfl, h.mono⟩
      | ok _ =>
        cases found : t.experimentAssignments.values.find?
            (sameUnit parsedTenantId parsed.experimentId parsed.entityType parsed.entityId) with
        | some existing =>
          rw [found] at looked
          simpa [Agree, loaded, looked, found, Store.run_bind] using h.mono
        | none =>
          rw [found] at looked
          have added := h.addAssignment (newAssignment (uuid.text n) parsedTenantId now parsed) rfl
            (h.assignmentKeys.free (h.assignments ▸ looked)) ⟨valid, validExperiment⟩
          simp only [looked, found]
          exact ⟨rfl, added⟩

theorem assert_run (fromStatus toStatus : ExperimentStatus) : ∃ x : Except DbError Unit,
    ∀ {σ : Type} (s : σ), (assertExperimentTransition fromStatus toStatus).run s = (x, s) := by
  by_cases legal : toStatus ∈ experimentTransitions fromStatus
  · exact ⟨.ok (), fun s => by simp [assertExperimentTransition, legal]⟩
  · exact ⟨.error _, fun s => by simp only [assertExperimentTransition, Store.run_require, legal, ↓reduceIte]; rfl⟩

theorem transition_keeps (h : Same uuid n m t) {tenantId id : String} (canonical : Canonical tenantId)
    (named : CanonicalId t id) (fromStatus toStatus : ExperimentStatus)
    (params : TransitionExperimentParams) :
    Same uuid (n + 1)
      ((InMemoryExperimentRepository.transition now tenantId id fromStatus toStatus params).run m).2
      ((PostgresExperimentRepository.transition now tenantId id fromStatus toStatus params).run t).2 := by
  unfold InMemoryExperimentRepository.transition PostgresExperimentRepository.transition
  cases tenant : uuidText tenantId with
  | none => exact h.mono
  | some parsedTenantId =>
    obtain ⟨rfl, valid⟩ := uuidText_some tenant
    obtain ⟨legal, asserted⟩ := assert_run fromStatus toStatus
    unfold CanonicalId at named
    by_cases uuids : isUuid id = true
    · rw [if_pos uuids] at named
      simp only [parseSchema, uuidText, uuids, ↓reduceIte, Store.run_bind, Store.run_pure, asserted,
        transaction_run, Store.run_read, canonical valid, named]
      cases params.parse with
      | none => exact h.mono
      | some parsed =>
        cases legal with
        | error e => exact h.mono
        | ok _ =>
          cases found : (PostgresExperimentRepository.find t parsedTenantId id).filter
              (·.status == fromStatus) with
          | none => simpa [found, find_same h] using h.mono
          | some current =>
            have stored := find_stored (Option.filter_eq_some_iff.mp found).1
            have changed := h.changeExperiment (transitioned now toStatus parsed current)
              stored rfl rfl
            simpa [found, find_same h, Store.run_bind, Except.toBool] using changed
    · rw [if_neg uuids] at named
      have missing : m.find parsedTenantId id = none := by
        rw [find_same h, PostgresExperimentRepository.find, named]
        rfl
      simp only [parseSchema, uuidText, uuids, Store.run_bind, Store.run_pure, asserted, Store.run_read]
      cases params.parse with
      | none => exact h.mono
      | some parsed =>
        cases legal with
        | error e => exact h.mono
        | ok _ => simpa [missing] using h.mono

theorem observation_params {toUpperCase : String → String} {params : RecordExperimentObservationParams}
    {parsed : ParsedObservation} (passed : params.parse toUpperCase = some parsed) :
    parsed.experimentId = params.experimentId ∧ isUuid params.experimentId = true ∧
      parsed.assignmentId = params.assignmentId ∧ ∀ id ∈ params.assignmentId, isUuid id = true := by
  obtain ⟨experimentId, accepted, rest⟩ := Option.bind_eq_some_iff.mp passed
  obtain ⟨assignmentId, named, rest⟩ := Option.bind_eq_some_iff.mp rest
  iterate 9 obtain ⟨_, _, rest⟩ := Option.bind_eq_some_iff.mp rest
  cases rest
  obtain ⟨rfl, valid⟩ := uuidText_some accepted
  refine ⟨rfl, valid, ?_⟩
  cases given : params.assignmentId with
  | none =>
    rw [given] at named
    cases named
    exact ⟨rfl, by simp⟩
  | some id =>
    rw [given] at named
    obtain ⟨text, read, rfl⟩ := Option.map_eq_some_iff.mp named
    obtain ⟨rfl, uuids⟩ := uuidText_some read
    exact ⟨rfl, by simpa using uuids⟩

theorem observation_agrees (toUpperCase : String → String) (h : Same uuid n m t) {tenantId : String}
    (canonical : Canonical tenantId) {params : RecordExperimentObservationParams}
    (experiment : Canonical params.experimentId) (assignment : ∀ id ∈ params.assignmentId, Canonical id)
    (apart : ∀ parsed, params.parse toUpperCase = some parsed →
      ∀ row ∈ t.experimentObservations.values,
        ObservedApart tenantId parsed.experimentId parsed.entityType parsed.entityId row) :
    Agree uuid n ((InMemoryExperimentRepository.recordObservation toUpperCase (uuid.text n) now tenantId params).run m)
      ((PostgresExperimentRepository.recordObservation toUpperCase (uuid.text n) now tenantId params).run t) := by
  unfold InMemoryExperimentRepository.recordObservation PostgresExperimentRepository.recordObservation
  cases tenant : uuidText tenantId with
  | none => exact ⟨rfl, h.mono⟩
  | some parsedTenantId =>
    obtain ⟨rfl, valid⟩ := uuidText_some tenant
    cases passed : params.parse toUpperCase with
    | none => exact ⟨rfl, h.mono⟩
    | some parsed =>
      obtain ⟨named, validExperiment, assigned, validAssignment⟩ := observation_params passed
      have kept : uuidColumn parsed.experimentId = parsed.experimentId := by
        rw [named]
        exact experiment validExperiment
      have keptAssignment : parsed.assignmentId.map uuidColumn = parsed.assignmentId := by
        rw [assigned]
        cases given : params.assignmentId with
        | none => rfl
        | some id =>
          exact congrArg some (assignment id given (validAssignment id given))
      have stored : { parsed with
          experimentId := uuidColumn parsed.experimentId
          assignmentId := parsed.assignmentId.map uuidColumn } = parsed := by
        rw [kept, keptAssignment]
      rw [← named] at validExperiment
      have looked := h.observation valid validExperiment parsed.idempotencyKey
      simp only [parseSchema, Store.run_bind, Store.run_pure, transaction_run, stored]
      simp only [Store.run_read, require_run, own_run, insert_run, canonical valid, kept, find_same h]
      cases verdict (PostgresExperimentRepository.find t parsedTenantId parsed.experimentId)
          observable notObservable with
      | error e => exact ⟨rfl, h.mono⟩
      | ok _ =>
        simp only [h.assignments]
        cases ownVerdict t.experimentAssignments parsedTenantId parsed with
        | error e => exact ⟨rfl, h.mono⟩
        | ok _ =>
          simp only [looked]
          cases found : t.experimentObservations.values.find?
              (sameObservation parsedTenantId parsed.experimentId parsed.idempotencyKey) with
          | some existing => simpa [Agree, loaded, found, Store.run_bind] using h.mono
          | none =>
            rw [found] at looked
            have added := h.addObservation (newObservation (uuid.text n) parsedTenantId now parsed) rfl
              (h.observationKeys.free (h.observations ▸ looked)) ⟨valid, validExperiment⟩
              (apart parsed passed)
            simp only [Option.isSome_none, Bool.false_eq_true, ↓reduceIte, Store.run_bind, currency_run]
            cases currencyVerdict (newObservation (uuid.text n) parsedTenantId now parsed) with
            | error e => exact ⟨rfl, h.mono⟩
            | ok _ => exact ⟨rfl, added⟩

end

theorem dedup_map_length [DecidableEq α] [DecidableEq β] {f : α → β} {l : List α}
    (inj : ∀ a ∈ l, ∀ b ∈ l, f a = f b → a = b) : (l.map f).dedup.length = l.dedup.length := by
  induction l with
  | nil => rfl
  | cons a l ih =>
    have rest := ih fun b hb c hc => inj b (List.mem_cons_of_mem a hb) c (List.mem_cons_of_mem a hc)
    by_cases again : a ∈ l
    · rw [List.map_cons, List.dedup_cons_of_mem again,
        List.dedup_cons_of_mem (List.mem_map_of_mem again), rest]
    · have new : f a ∉ l.map f := by
        intro image
        obtain ⟨b, member, same⟩ := List.mem_map.mp image
        rw [inj b (List.mem_cons_of_mem a member) a List.mem_cons_self same] at member
        exact again member
      rw [List.map_cons, List.dedup_cons_of_notMem again, List.dedup_cons_of_notMem new,
        List.length_cons, List.length_cons, rest]

/-- The counts a summary reports. -/
def counts (summary : ExperimentEvidenceSummary) : Nat × Nat :=
  (summary.evidenceCount, summary.uniqueEntities)

section
variable {m : InMemoryExperimentRepository} {t : ExperimentTables} {uuid : Supply} {n : Nat}

theorem evidence_same (h : Same uuid n m t) : m.evidence = PostgresExperimentRepository.evidence t := by
  unfold InMemoryExperimentRepository.evidence PostgresExperimentRepository.evidence
  rw [h.experiments, h.observations]

/-- As many texts as units, where no two units read alike. -/
theorem units_counted (h : Same uuid n m t) (tenantId experimentId : String)
    (p : ExperimentObservationRecord → Bool) :
    ((((PostgresExperimentRepository.evidence t).observations tenantId experimentId).filter p).map
        fun row => join row.entityType row.entityId).dedup.length =
      ((((PostgresExperimentRepository.evidence t).observations tenantId experimentId).filter p).map
        fun row => (row.entityType, row.entityId)).dedup.length := by
  rw [← dedup_map_length (f := fun unit : String × String => join unit.1 unit.2), List.map_map]
  · rfl
  · have stored : ∀ unit ∈ (((PostgresExperimentRepository.evidence t).observations tenantId
        experimentId).filter p).map (fun row => (row.entityType, row.entityId)),
        ∃ row ∈ t.experimentObservations.values, row.tenantId = tenantId ∧
          row.experimentId = experimentId ∧ (row.entityType, row.entityId) = unit := by
      intro unit member
      obtain ⟨record, kept, rfl⟩ := List.mem_map.mp member
      obtain ⟨there, within⟩ := List.mem_filter.mp (List.mem_filter.mp kept).1
      unfold PostgresExperimentRepository.evidence at there
      rw [InsertionMap.values_map] at there
      obtain ⟨row, rowIn, rfl⟩ := List.mem_map.mp there
      simp only [Bool.and_eq_true, beq_iff_eq] at within
      exact ⟨row, rowIn, within.1, within.2, rfl⟩
    intro one oneIn other otherIn alike
    obtain ⟨row, rowIn, tenant, experiment, rfl⟩ := stored one oneIn
    obtain ⟨row', rowIn', tenant', experiment', rfl⟩ := stored other otherIn
    obtain ⟨types, ids⟩ := h.units row rowIn row' rowIn' (tenant.trans tenant'.symm)
      (experiment.trans experiment'.symm) alike
    exact Prod.ext types ids

theorem outcome_rows (records : List ExperimentObservationRecord) (metricName : String) :
    rowsOf records metricName false =
      records.filter fun record => !record.isGuardrail && record.metricName == metricName := by
  unfold rowsOf
  refine List.filter_congr fun record _ => ?_
  cases record.isGuardrail <;> simp

theorem summary_agrees (h : Same uuid n m t) {tenantId experimentId metricName : String}
    {guardrailMetricName : Option String} (canonical : Canonical tenantId)
    (uuids : isUuid experimentId = true) (experiment : uuidColumn experimentId = experimentId)
    (metric : nonEmptyText metricName = some metricName)
    (guardrail : optionalField nonEmptyText guardrailMetricName = some guardrailMetricName) :
    (InMemoryExperimentRepository.summarizeEvidence m.evidence tenantId experimentId metricName
        guardrailMetricName).map (Option.map counts) =
      (PostgresExperimentRepository.summarize t tenantId experimentId metricName
        guardrailMetricName).map (Option.map counts) := by
  unfold PostgresExperimentRepository.summarize InMemoryExperimentRepository.summarizeEvidence
    PostgresExperimentRepository.summarizeEvidence InMemoryExperimentRepository.getById
  cases tenant : uuidText tenantId with
  | none => rfl
  | some parsedTenantId =>
    obtain ⟨rfl, valid⟩ := uuidText_some tenant
    have named : uuidText experimentId = some experimentId := by simp [uuidText, uuids]
    simp only [parsed, bind, Except.bind, pure, Except.pure, named, tenant, canonical valid, experiment,
      metric, guardrail, evidence_same h]
    cases (PostgresExperimentRepository.evidence t).find parsedTenantId experimentId with
    | none => rfl
    | some found =>
      simp only [summarizeEvidenceRecords, GuardrailEvidence.memory_outcome,
        GuardrailEvidence.postgres_mean]
      cases mean (GuardrailEvidence.observed _ metricName false .a) with
      | none => rfl
      | some baseline =>
        cases mean (GuardrailEvidence.observed _ metricName false .b) with
        | none => rfl
        | some candidate =>
          simp [Except.map, counts, outcome_rows, units_counted h]

end

/-- The counts of a summary, where the answer is one. -/
def counted : ExperimentAnswer → Option (Nat × Nat)
  | .evidence summary => summary.map counts
  | _ => none

/-- What the two repositories are to answer alike. -/
def Alike : ExperimentCall → Except DbError ExperimentAnswer → Except DbError ExperimentAnswer → Prop
  | .assign _ _, x, y => x = y
  | .summarizeEvidence _ _ _ _, x, y => x.map counted = y.map counted
  | _, _, _ => True

/-- The uuids of a call are given as columns keep them, a summary is asked for
with trimmed names, and the unit of a call reads like no other of its experiment. -/
def Clear (toUpperCase : String → String) (t : ExperimentTables) : ExperimentCall → Prop
  | .create tenantId _ => Canonical tenantId
  | .transition tenantId id _ _ _ => Canonical tenantId ∧ CanonicalId t id
  | .assign tenantId params =>
    Canonical tenantId ∧ Canonical params.experimentId ∧ ∀ parsed, params.parse = some parsed →
      ∀ row ∈ t.experimentAssignments.values,
        UnitApart tenantId parsed.experimentId parsed.entityType parsed.entityId row
  | .recordObservation tenantId params =>
    Canonical tenantId ∧ Canonical params.experimentId ∧ (∀ id ∈ params.assignmentId, Canonical id) ∧
      ∀ parsed, params.parse toUpperCase = some parsed → ∀ row ∈ t.experimentObservations.values,
        ObservedApart tenantId parsed.experimentId parsed.entityType parsed.entityId row
  | .summarizeEvidence tenantId experimentId metricName guardrailMetricName =>
    Canonical tenantId ∧ isUuid experimentId = true ∧ uuidColumn experimentId = experimentId ∧
      nonEmptyText metricName = some metricName ∧
      optionalField nonEmptyText guardrailMetricName = some guardrailMetricName

section
variable (toUpperCase : String → String) (uuid : Supply)

theorem answered_agrees {n : Nat} (name : α → ExperimentAnswer)
    {x : Except DbError α × InMemoryExperimentRepository} {y : Except DbError α × ExperimentTables}
    (agree : Agree uuid n x y) : Agree uuid n (answered name x) (answered name y) :=
  ⟨congrArg (Except.map name) agree.1, agree.2⟩

theorem call_agrees {n : Nat} {m : InMemoryExperimentRepository} {t : ExperimentTables} (now : Instant)
    (h : Same uuid n m t) (call : ExperimentCall) (clear : Clear toUpperCase t call) :
    Alike call (InMemoryExperimentRepository.perform toUpperCase (uuid.text n) now m call).1
        (PostgresExperimentRepository.perform toUpperCase (uuid.text n) now t call).1 ∧
      Same uuid (n + 1) (InMemoryExperimentRepository.perform toUpperCase (uuid.text n) now m call).2
        (PostgresExperimentRepository.perform toUpperCase (uuid.text n) now t call).2 := by
  cases call with
  | create tenantId params => exact ⟨trivial, (create_agrees h clear params).2⟩
  | transition tenantId id fromStatus toStatus params =>
    exact ⟨trivial, transition_keeps h clear.1 clear.2 fromStatus toStatus params⟩
  | assign tenantId params =>
    obtain ⟨canonical, experiment, apart⟩ := clear
    exact answered_agrees uuid .assigned (assign_agrees h canonical experiment apart)
  | recordObservation tenantId params =>
    obtain ⟨canonical, experiment, assignment, apart⟩ := clear
    exact ⟨trivial, (observation_agrees toUpperCase h canonical experiment assignment apart).2⟩
  | summarizeEvidence tenantId experimentId metricName guardrailMetricName =>
    obtain ⟨canonical, uuids, experiment, metric, guardrail⟩ := clear
    refine ⟨?_, h.mono⟩
    have same := summary_agrees h canonical uuids experiment metric guardrail
    have told : ∀ outcome : Except DbError (Option ExperimentEvidenceSummary),
        (outcome.map ExperimentAnswer.evidence).map counted = outcome.map (Option.map counts) := by
      intro outcome
      cases outcome <;> rfl
    exact (told _).trans (same.trans (told _).symm)

def memory (log : List (Instant × ExperimentCall)) : ExperimentRun InMemoryExperimentRepository :=
  runs (ExperimentRun.step (InMemoryExperimentRepository.perform toUpperCase) uuid)
    ⟨InMemoryExperimentRepository.empty, 0⟩ log

def postgres (log : List (Instant × ExperimentCall)) : ExperimentRun ExperimentTables :=
  runs (ExperimentRun.step (PostgresExperimentRepository.perform toUpperCase) uuid)
    ⟨PostgresExperimentRepository.empty, 0⟩ log

theorem empty_same : Same uuid 0 InMemoryExperimentRepository.empty PostgresExperimentRepository.empty where
  experiments := rfl
  assignments := rfl
  observations := rfl
  experimentKeys := .empty
  assignmentKeys := .empty
  observationKeys := .empty
  experimentTenants := by rintro row ⟨⟩
  assignmentTenants := by rintro row ⟨⟩
  observationTenants := by rintro row ⟨⟩
  units := by rintro row ⟨⟩
  drawnExperiments := by rintro id row ⟨⟩
  drawnAssignments := by rintro id row ⟨⟩
  drawnObservations := by rintro id row ⟨⟩

theorem runs_same {log : List (Instant × ExperimentCall)}
    (clear : Each (fun before call => Clear toUpperCase (postgres toUpperCase uuid before).repository call.2)
      log) :
    (memory toUpperCase uuid log).calls = (postgres toUpperCase uuid log).calls ∧
      Same uuid (postgres toUpperCase uuid log).calls (memory toUpperCase uuid log).repository
        (postgres toUpperCase uuid log).repository := by
  induction log using List.reverseRecOn with
  | nil => exact ⟨rfl, empty_same uuid⟩
  | append_singleton log call ih =>
    obtain ⟨calls, same⟩ := ih clear.init
    have agree := call_agrees toUpperCase uuid call.1 same call.2 clear.at
    unfold memory postgres at *
    simp only [runs_append, runs_cons, runs_nil, ExperimentRun.step, ExperimentRun.outcome, calls]
    exact ⟨trivial, agree.2⟩

/-- In a run whose calls are clear the repositories assign alike and count alike. -/
theorem repositories_agree {before after : List (Instant × ExperimentCall)}
    {call : Instant × ExperimentCall}
    (clear : Each (fun before call => Clear toUpperCase (postgres toUpperCase uuid before).repository call.2)
      (before ++ call :: after)) :
    Alike call.2
      ((memory toUpperCase uuid before).outcome (InMemoryExperimentRepository.perform toUpperCase)
        uuid call).1
      ((postgres toUpperCase uuid before).outcome (PostgresExperimentRepository.perform toUpperCase)
        uuid call).1 := by
  obtain ⟨calls, same⟩ := runs_same toUpperCase uuid clear.init
  unfold ExperimentRun.outcome
  rw [calls]
  exact (call_agrees toUpperCase uuid _ same call.2 clear.at).1

end

def acme : String := "11111111-1111-4111-8111-111111111111"

def subjectLines : CreateExperimentParams :=
  { experimentKey := "subject-lines", motion := "outbound", experimentType := "ab",
    unitType := "account", hypothesis := "Shorter wins", variantA := [], variantB := [],
    metricName := "replies", minSampleSize := 10, initialStatus := .running, createdBy := "founder" }

/-- The experiment of the first call. -/
def firstExperiment : String := ProposalLifecycle.countedUuids.text 0

def assignUnit (entityType entityId : String) (variant : ExperimentVariant) : ExperimentCall :=
  .assign acme { experimentId := firstExperiment, entityType, entityId, variant }

/-- One unit is assigned to both variants in turn. -/
def assignedTwice : List (Instant × ExperimentCall) :=
  [(0, .create acme subjectLines), (1, assignUnit "account" "crm:7" .a)]

theorem acme_canonical : Canonical acme := fun _ => by decide +kernel

theorem first_canonical : Canonical firstExperiment := fun _ => by decide +kernel

theorem assigned_twice_clear : Each
    (fun before call => Clear id (postgres id ProposalLifecycle.countedUuids before).repository call.2)
    (assignedTwice ++ [(2, assignUnit "account" "crm:7" .b)]) := by
  refine ⟨acme_canonical, ⟨acme_canonical, first_canonical, ?_⟩,
    ⟨acme_canonical, first_canonical, ?_⟩, trivial⟩
  · intro parsed _ row member
    have none_ : (postgres id ProposalLifecycle.countedUuids
        [(0, .create acme subjectLines)]).repository.experimentAssignments.values = [] := rfl
    rw [List.nil_append, none_] at member
    cases member
  · intro parsed passed row member
    -- the one row is that of the unit itself
    have stored : (postgres id ProposalLifecycle.countedUuids
        assignedTwice).repository.experimentAssignments.values.map
          (fun row => (row.entityType, row.entityId)) = [("account", "crm:7")] := by
      decide +kernel
    have given : (AssignExperimentParams.parse
        { experimentId := firstExperiment, entityType := "account", entityId := "crm:7",
          variant := .b }).map (fun parsed => (parsed.entityType, parsed.entityId)) =
        some ("account", "crm:7") := by
      decide +kernel
    have unit := List.mem_singleton.mp (stored ▸ List.mem_map_of_mem member)
    rw [passed] at given
    obtain ⟨types, ids⟩ := Prod.mk.inj (unit.trans (Option.some.inj given).symm)
    exact fun _ _ _ => ⟨types, ids⟩

theorem repeated_unit_agrees : Alike (assignUnit "account" "crm:7" .b)
    ((memory id ProposalLifecycle.countedUuids assignedTwice).outcome
      (InMemoryExperimentRepository.perform id) ProposalLifecycle.countedUuids
      (2, assignUnit "account" "crm:7" .b)).1
    ((postgres id ProposalLifecycle.countedUuids assignedTwice).outcome
      (PostgresExperimentRepository.perform id) ProposalLifecycle.countedUuids
      (2, assignUnit "account" "crm:7" .b)).1 :=
  repositories_agree id ProposalLifecycle.countedUuids assigned_twice_clear

def isExisting : Except DbError ExperimentAnswer → Bool
  | .ok (.assigned result) => result.isExisting
  | _ => false

/-- Another unit that reads like the first is given the first one's variant in
memory only. -/
theorem alike_unit_merged : ¬ ∀ (toUpperCase : String → String) (uuid : Supply)
    (before : List (Instant × ExperimentCall)) (call : Instant × ExperimentCall),
    Alike call.2
      ((memory toUpperCase uuid before).outcome (InMemoryExperimentRepository.perform toUpperCase)
        uuid call).1
      ((postgres toUpperCase uuid before).outcome (PostgresExperimentRepository.perform toUpperCase)
        uuid call).1 := by
  intro claim
  have same := congrArg isExisting (claim (fun s => s) ProposalLifecycle.countedUuids
    [(0, .create acme subjectLines), (1, assignUnit "account" "crm:7" .a)]
    (2, assignUnit "account:crm" "7" .b))
  revert same
  decide +kernel

end VantGrowth.Proofs.ExperimentUnits
