import VantGrowth.Proofs.ExperimentUnits

namespace VantGrowth.Proofs.ExperimentLifecycle
open Db Lib Lib.Text InMemoryExperimentRepository ExperimentUnits

def hasStarted : ExperimentStatus → Bool
  | .running | .paused | .concluded | .promoted | .rolled_back => true
  | .draft | .abandoned => false

def hasEnded : ExperimentStatus → Bool
  | .concluded | .abandoned | .promoted | .rolled_back => true
  | .draft | .running | .paused => false

def isFinal : ExperimentStatus → Bool
  | .abandoned | .rolled_back => true
  | .draft | .running | .paused | .concluded | .promoted => false

/-- The status of an experiment and its two times belong together. -/
structure Timed (row : ExperimentRow) : Prop where
  started : hasStarted row.status = true → row.startedAt.isSome = true
  ended : hasEnded row.status = true → row.endedAt.isSome = true

/-- An observation is of the unit and the variant that were assigned. -/
structure Observes (row : ExperimentObservationRow) (assignment : ExperimentAssignmentRecord) :
    Prop where
  tenant : assignment.tenantId = row.tenantId
  experiment : assignment.experimentId = row.experimentId
  entityType : assignment.entityType = row.entityType
  entityId : assignment.entityId = row.entityId
  variant : assignment.variant = row.variant

/-- What holds of the stored records at any time. -/
structure Lifecycle (r : InMemoryExperimentRepository) : Prop where
  timed : ∀ row ∈ r.experimentsById.values, Timed row
  observed : ∀ row ∈ r.observationsById.values, ∀ id ∈ row.assignmentId,
    ∃ assignment, r.assignmentsById.get id = some assignment ∧ Observes row assignment

/-- What later calls leave as it is. -/
structure Lasts (before after : InMemoryExperimentRepository) : Prop where
  final : ∀ id row, before.experimentsById.get id = some row → isFinal row.status = true →
    after.experimentsById.get id = some row
  started : ∀ id row time, before.experimentsById.get id = some row → row.startedAt = some time →
    ∃ later, after.experimentsById.get id = some later ∧ later.startedAt = some time
  assigned : ∀ id assignment, before.assignmentsById.get id = some assignment →
    after.assignmentsById.get id = some assignment

/-- The invariant of a run of `n` calls. -/
structure Kept (uuid : Supply) (n : Nat) (r : InMemoryExperimentRepository) : Prop
    extends Lifecycle r where
  drawnExperiments : Drawn uuid n r.experimentsById
  drawnAssignments : Drawn uuid n r.assignmentsById

theorem Lasts.refl (r : InMemoryExperimentRepository) : Lasts r r :=
  ⟨fun _ _ stored _ => stored, fun _ row _ stored begun => ⟨row, stored, begun⟩, fun _ _ stored => stored⟩

theorem Lasts.trans (h : Lasts r s) (g : Lasts s t) : Lasts r t where
  final id row stored ended := g.final id row (h.final id row stored ended) ended
  started id row time stored begun := by
    obtain ⟨next, kept, same⟩ := h.started id row time stored begun
    exact g.started id next time kept same
  assigned id assignment stored := g.assigned id assignment (h.assigned id assignment stored)

/-- Of a run of `n` calls: the next call keeps the invariant and what has to last. -/
def Passes (uuid : Supply) (n : Nat) (before after : InMemoryExperimentRepository) : Prop :=
  Kept uuid (n + 1) after ∧ Lasts before after

section
variable {uuid : Supply} {n : Nat} {r : InMemoryExperimentRepository}

theorem Kept.mono (h : Kept uuid n r) : Kept uuid (n + 1) r :=
  { h with
    drawnExperiments := h.drawnExperiments.mono
    drawnAssignments := h.drawnAssignments.mono }

theorem Kept.unchanged (h : Kept uuid n r) : Passes uuid n r r := ⟨h.mono, Lasts.refl r⟩

theorem newExperiment_timed (id tenantId : String) (now : Instant) (params : CreateExperimentParams) :
    Timed (newExperiment id tenantId now params) := by
  constructor
  · intro begun
    cases initial : params.initialStatus with
    | draft => simp [newExperiment, initial, InitialStatus.status, hasStarted] at begun
    | running => cases given : params.startedAt <;> simp [newExperiment, initial, given]
  · intro finished
    cases initial : params.initialStatus <;>
      simp [newExperiment, initial, InitialStatus.status, hasEnded] at finished

/-- A start that is there stays. -/
theorem transitioned_started {row : ExperimentRow} (now : Instant) (toStatus : ExperimentStatus)
    (params : TransitionExperimentParams) (begun : row.startedAt = some time) :
    (transitioned now toStatus params row).startedAt = some time := by
  simp [transitioned, begun]

/-- The experiments that may go on without a new start or end have theirs. -/
theorem transitioned_timed {row : ExperimentRow} {toStatus : ExperimentStatus} (h : Timed row)
    (legal : toStatus ∈ experimentTransitions row.status) (now : Instant)
    (params : TransitionExperimentParams) : Timed (transitioned now toStatus params row) := by
  obtain ⟨started, ended⟩ := h
  constructor
  · intro begun
    by_cases running : toStatus = .running
    · simp [transitioned, running]
    · have before : hasStarted row.status = true := by
        cases status : row.status <;> rw [status] at legal <;>
          simp [experimentTransitions, running] at legal <;> simp_all [transitioned, hasStarted]
      simpa [transitioned, running] using started before
  · intro finished
    by_cases closed : toStatus = .concluded ∨ toStatus = .abandoned
    · simp [transitioned, closed]
    · have before : hasEnded row.status = true := by
        cases status : row.status <;> rw [status] at legal <;>
          simp [experimentTransitions] at legal <;> simp_all [transitioned, hasEnded]
      simpa [transitioned, closed] using ended before

theorem final_stays {status toStatus : ExperimentStatus} (final : isFinal status = true) :
    toStatus ∉ experimentTransitions status := by
  cases status <;> simp_all [isFinal, experimentTransitions]

/-- An entry under a new key changes none that is there. -/
theorem kept_of_fresh {table : InsertionMap String ν} {id other : String} {row value : ν}
    (fresh : table.get id = none) (stored : table.get other = some row) :
    (table.set id value).get other = some row := by
  have apart : other ≠ id := by
    rintro rfl
    rw [fresh] at stored
    cases stored
  rw [InsertionMap.get_set_other _ apart]
  exact stored

theorem Kept.addExperiment (h : Kept uuid n r) {row : ExperimentRow} (timed : Timed row)
    (key : String) :
    Passes uuid n r { r with
      experimentsById := r.experimentsById.set (uuid.text n) row
      experimentIdByKey := r.experimentIdByKey.set key (uuid.text n) } := by
  have fresh := h.drawnExperiments.fresh
  constructor
  · refine { h.mono with timed := ?_, drawnExperiments := h.drawnExperiments.insert row }
    intro other member
    rcases InsertionMap.mem_values_set member with rfl | old
    · exact timed
    · exact h.timed other old
  · constructor
    · intro id other stored _
      exact kept_of_fresh fresh stored
    · intro id other time stored begun
      exact ⟨other, kept_of_fresh fresh stored, begun⟩
    · intro id assignment stored
      exact stored

theorem Kept.changeExperiment (h : Kept uuid n r) {id : String} {row : ExperimentRow}
    (stored : r.experimentsById.get id = some row) {toStatus : ExperimentStatus}
    (legal : toStatus ∈ experimentTransitions row.status) (now : Instant)
    (params : TransitionExperimentParams) :
    Passes uuid n r { r with
      experimentsById := r.experimentsById.set id (transitioned now toStatus params row) } := by
  have timed := h.timed row ((InsertionMap.mem_values _ _).mpr ⟨id, stored⟩)
  constructor
  · refine { h.mono with
      timed := ?_
      drawnExperiments := (h.drawnExperiments.update stored _).mono }
    intro other member
    rcases InsertionMap.mem_values_set member with rfl | old
    · exact transitioned_timed timed legal now params
    · exact h.timed other old
  · constructor
    · intro other final there closed
      -- the experiment that changes was not in a final status
      have apart : other ≠ id := by
        rintro rfl
        cases stored.symm.trans there
        exact final_stays closed legal
      rw [← there]
      exact InsertionMap.get_set_other _ apart _
    · intro other begun time there start
      rw [InsertionMap.get_set]
      split
      · rename_i same
        subst same
        cases stored.symm.trans there
        exact ⟨_, rfl, transitioned_started now toStatus params start⟩
      · exact ⟨begun, there, start⟩
    · intro other assignment there
      exact there

theorem Kept.addAssignment (h : Kept uuid n r) (row : ExperimentAssignmentRecord) (key : String) :
    Passes uuid n r { r with
      assignmentsById := r.assignmentsById.set (uuid.text n) row
      assignmentIdByEntity := r.assignmentIdByEntity.set key (uuid.text n) } := by
  have fresh := h.drawnAssignments.fresh
  constructor
  · refine { h.mono with observed := ?_, drawnAssignments := h.drawnAssignments.insert row }
    intro observation member id named
    obtain ⟨assignment, stored, agrees⟩ := h.observed observation member id named
    exact ⟨assignment, kept_of_fresh fresh stored, agrees⟩
  · constructor
    · intro id other stored _
      exact stored
    · intro id other time stored begun
      exact ⟨other, stored, begun⟩
    · intro id assignment stored
      exact kept_of_fresh fresh stored

theorem Kept.addObservation (h : Kept uuid n r) {row : ExperimentObservationRow}
    (own : ∀ id ∈ row.assignmentId,
      ∃ assignment, r.assignmentsById.get id = some assignment ∧ Observes row assignment)
    (id key : String) :
    Passes uuid n r { r with
      observationsById := r.observationsById.set id row
      observationIdByKey := r.observationIdByKey.set key id } := by
  constructor
  · refine { h.mono with observed := ?_ }
    intro other member
    rcases InsertionMap.mem_values_set member with rfl | old
    · exact own
    · exact h.observed other old
  · exact ⟨fun _ _ stored _ => stored, fun _ other _ stored begun => ⟨other, stored, begun⟩,
      fun _ _ stored => stored⟩

theorem parse_bind {value : Option α} {f : α → Store DbError InMemoryExperimentRepository β}
    (h : Kept uuid n r) (next : ∀ a, value = some a → (f a).Ends r fun _ t => Passes uuid n r t) :
    (parseSchema value >>= f).Ends r fun _ t => Passes uuid n r t := by
  cases value with
  | none => exact Store.Ends.throw_bind h.unchanged
  | some a => exact Store.Ends.pure_bind (next a rfl)

theorem create_passes (h : Kept uuid n r) (now : Instant) (tenantId : String)
    (params : CreateExperimentParams) :
    (create (uuid.text n) now tenantId params).Ends r fun _ t => Passes uuid n r t := by
  unfold create
  apply parse_bind h
  intro parsedTenantId _
  apply parse_bind h
  intro parsed _
  apply Store.Ends.read_bind
  split
  · exact Store.Ends.pure h.unchanged
  · apply Store.Ends.modify_bind
    exact Store.Ends.pure (h.addExperiment (newExperiment_timed _ _ now parsed) _)

theorem transition_passes (h : Kept uuid n r) (now : Instant) (tenantId id : String)
    (fromStatus toStatus : ExperimentStatus) (params : TransitionExperimentParams) :
    (transition now tenantId id fromStatus toStatus params).Ends r fun _ t => Passes uuid n r t := by
  unfold transition
  apply parse_bind h
  intro parsedTenantId _
  apply parse_bind h
  intro parsedParams _
  apply Store.Ends.require_bind
  · intro _
    exact h.unchanged
  · intro legal
    apply Store.Ends.read_bind
    split
    · exact Store.Ends.pure h.unchanged
    · rename_i existing found
      obtain ⟨named, status⟩ := Option.filter_eq_some_iff.mp found
      have stored := (Option.filter_eq_some_iff.mp named).1
      have same : existing.status = fromStatus := by simpa using status
      rw [← same] at legal
      apply Store.Ends.modify_bind
      exact Store.Ends.pure (h.changeExperiment stored legal now parsedParams)

theorem require_bind {experiment : Option ExperimentRow} {allowed : ExperimentStatus → Bool}
    {refused : String} {f : Unit → Store DbError InMemoryExperimentRepository β}
    (h : Kept uuid n r) (next : (f ()).Ends r fun _ t => Passes uuid n r t) :
    (requireExperiment experiment allowed refused >>= f).Ends r fun _ t => Passes uuid n r t := by
  unfold Store.Ends
  rw [Store.run_bind, require_run]
  cases verdict experiment allowed refused with
  | error e => exact h.unchanged
  | ok _ => exact next

theorem assign_passes (h : Kept uuid n r) (now : Instant) (tenantId : String)
    (params : AssignExperimentParams) :
    (assign (uuid.text n) now tenantId params).Ends r fun _ t => Passes uuid n r t := by
  unfold assign
  apply parse_bind h
  intro parsedTenantId _
  apply parse_bind h
  intro parsed _
  apply Store.Ends.read_bind
  apply require_bind h
  apply Store.Ends.read_bind
  split
  · exact Store.Ends.pure h.unchanged
  · apply Store.Ends.modify_bind
    exact Store.Ends.pure (h.addAssignment _ _)

/-- What the check of the assignment lets pass. -/
theorem own_passed {assignments : InsertionMap String ExperimentAssignmentRecord}
    {tenantId : String} {params : ParsedObservation}
    (passed : ownVerdict assignments tenantId params = .ok ()) (uuid : String) (now : Instant) :
    ∀ id ∈ (newObservation uuid tenantId now params).assignmentId, ∃ assignment,
      assignments.get id = some assignment ∧
        Observes (newObservation uuid tenantId now params) assignment := by
  intro id named
  change params.assignmentId = some id at named
  unfold ownVerdict at passed
  rw [named] at passed
  cases stored : assignments.get id with
  | none => simp [stored] at passed
  | some assignment =>
    have fit : fits tenantId params assignment = true := by
      by_contra unfit
      simp [stored, unfit] at passed
    simp only [fits, Bool.and_eq_true, beq_iff_eq] at fit
    obtain ⟨⟨⟨⟨tenant, experiment⟩, entityType⟩, entityId⟩, variant⟩ := fit
    exact ⟨assignment, rfl, tenant, experiment, entityType, entityId, variant⟩

theorem own_bind {tenantId : String} {params : ParsedObservation}
    {f : Unit → Store DbError InMemoryExperimentRepository β} (h : Kept uuid n r)
    (next : ownVerdict r.assignmentsById tenantId params = .ok () →
      (f ()).Ends r fun _ t => Passes uuid n r t) :
    (requireAssignment (·.assignmentsById) tenantId params >>= f).Ends r
      fun _ t => Passes uuid n r t := by
  unfold Store.Ends
  rw [Store.run_bind, own_run]
  cases passed : ownVerdict r.assignmentsById tenantId params with
  | error e => exact h.unchanged
  | ok _ => exact next passed

theorem recordObservation_passes (toUpperCase : String → String) (h : Kept uuid n r)
    (now : Instant) (tenantId : String) (params : RecordExperimentObservationParams) :
    (recordObservation toUpperCase (uuid.text n) now tenantId params).Ends r
      fun _ t => Passes uuid n r t := by
  unfold recordObservation
  apply parse_bind h
  intro parsedTenantId _
  apply parse_bind h
  intro parsed _
  apply Store.Ends.read_bind
  apply require_bind h
  apply own_bind h
  intro passed
  apply Store.Ends.read_bind
  split
  · exact Store.Ends.pure h.unchanged
  · apply Store.Ends.require_bind
    · intro _
      exact h.unchanged
    · intro _
      apply Store.Ends.modify_bind
      exact Store.Ends.pure (h.addObservation (own_passed passed _ now) _ _)

theorem perform_passes (toUpperCase : String → String) (h : Kept uuid n r) (now : Instant)
    (call : ExperimentCall) :
    Passes uuid n r (InMemoryExperimentRepository.perform toUpperCase (uuid.text n) now r call).2 := by
  cases call with
  | create tenantId params => exact create_passes h now tenantId params
  | transition tenantId id fromStatus toStatus params =>
    exact transition_passes h now tenantId id fromStatus toStatus params
  | assign tenantId params => exact assign_passes h now tenantId params
  | recordObservation tenantId params => exact recordObservation_passes toUpperCase h now tenantId params
  | summarizeEvidence tenantId experimentId metricName guardrailMetricName => exact h.unchanged

theorem empty_kept (uuid : Supply) : Kept uuid 0 InMemoryExperimentRepository.empty where
  timed row member := by cases member
  observed row member := by cases member
  drawnExperiments id row stored := by cases stored
  drawnAssignments id row stored := by cases stored

end

section
variable (toUpperCase : String → String) (uuid : Supply)

/-- The invariant of a run, with the number of its calls. -/
def Reached (run : ExperimentRun InMemoryExperimentRepository) : Prop :=
  Kept uuid run.calls run.repository

theorem step_reached (run : ExperimentRun InMemoryExperimentRepository)
    (call : Instant × ExperimentCall) (h : Reached uuid run) :
    Reached uuid (run.step (InMemoryExperimentRepository.perform toUpperCase) uuid call) :=
  (perform_passes toUpperCase h call.1 call.2).1

theorem run_reached (log : List (Instant × ExperimentCall)) :
    Reached uuid (memory toUpperCase uuid log) := by
  have start : Reached uuid ⟨InMemoryExperimentRepository.empty, 0⟩ := empty_kept uuid
  exact runs_invariant (step_reached toUpperCase uuid) start log

/-- One run goes on from another. -/
def Continues (before after : ExperimentRun InMemoryExperimentRepository) : Prop :=
  Lasts before.repository after.repository

theorem step_continues (run : ExperimentRun InMemoryExperimentRepository)
    (call : Instant × ExperimentCall) (h : Reached uuid run) :
    Continues run (run.step (InMemoryExperimentRepository.perform toUpperCase) uuid call) :=
  (perform_passes toUpperCase h call.1 call.2).2

/-- Whatever is called, the stored records belong together, and final
experiments, start times and assignments stay as they are from then on. -/
theorem lifecycle_holds (log later : List (Instant × ExperimentCall)) :
    Lifecycle (memory toUpperCase uuid log).repository ∧
      Lasts (memory toUpperCase uuid log).repository
        (memory toUpperCase uuid (log ++ later)).repository := by
  have here := run_reached toUpperCase uuid log
  constructor
  · exact here.toLifecycle
  · unfold memory at *
    rw [runs_append]
    have continues := runs_related (R := Continues) (fun run => Lasts.refl run.repository)
      (fun _ _ _ => Lasts.trans) (step_reached toUpperCase uuid) (step_continues toUpperCase uuid)
      here later
    exact continues

end

end VantGrowth.Proofs.ExperimentLifecycle
