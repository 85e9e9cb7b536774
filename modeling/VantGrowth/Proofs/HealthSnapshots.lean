import VantGrowth.Db.Summaries
import VantGrowth.Lib.Runs
import VantGrowth.Proofs.ProposalKeys

namespace VantGrowth.Proofs.HealthSnapshots
open Db Db.ComponentHealthStore Db.PostgresComponentHealthRepository Lib Lib.Text

/-! What the three readers of component health take for the current snapshot. -/

/-- A call of `record`, at the time it is made. -/
structure HealthCall where
  now : Instant
  tenantId : String
  params : RecordComponentHealthParams

section
variable (backend : Backend) (uuid : Supply)

def recordCall (s : ComponentHealthStore) (call : HealthCall) : ComponentHealthStore :=
  ((record backend uuid call.now call.tenantId call.params).run s).2

/-- The records that are left by calls made one after another. -/
def recorded (calls : List HealthCall) : ComponentHealthStore :=
  runs (recordCall backend uuid) .empty calls

end

/-- The three readers answer alike about a component. -/
structure SameSnapshot (s : ComponentHealthStore) (tenantId componentId component : String) :
    Prop where
  inMemory : ∀ answer, GetsByComponent s tenantId componentId answer →
    getByComponent s tenantId componentId = .ok answer
  listed : ∀ answer, GetsByComponent s tenantId componentId answer →
    ∀ limit listing, listLatest s tenantId limit = .ok listing →
      (∀ r ∈ listing, r.componentId = component → answer = some r) ∧
        ∀ r, answer = some r → listing.length < limit → r ∈ listing

/-- The records that the component's own name and tenant are spelled out in. -/
def spelled (s : ComponentHealthStore) (tenantId componentId : String) : List ComponentHealthRecord :=
  s.records.values.filter fun r => r.tenantId == tenantId && r.componentId == componentId

/-- One record was created after all others that were observed when it was, or
later, and is the first to be observed then of those that are spelled as asked. -/
def Decided (asked shared : List ComponentHealthRecord) : Prop :=
  shared = [] ∨ ∃ before last after, asked = before ++ last :: after ∧
    (∀ r ∈ before, r.observed < last.observed) ∧
      ∀ r ∈ shared, r ≠ last →
        r.observed < last.observed ∨ r.observed = last.observed ∧ r.createdAt < last.createdAt

/-- Each record names its component as it parses. -/
def Named (s : ComponentHealthStore) : Prop :=
  ∀ k r, s.records.get k = some r → jsTrim r.componentId = r.componentId

theorem parse_named {p q : RecordComponentHealthParams} (parsed : p.parse = some q) :
    jsTrim q.componentId = q.componentId := by
  obtain ⟨component, named, parsed⟩ := Option.bind_eq_some_iff.mp parsed
  obtain ⟨_, _, parsed⟩ := Option.bind_eq_some_iff.mp parsed
  obtain ⟨_, _, parsed⟩ := Option.bind_eq_some_iff.mp parsed
  obtain ⟨_, _, parsed⟩ := Option.bind_eq_some_iff.mp parsed
  obtain ⟨_, _, parsed⟩ := Option.bind_eq_some_iff.mp parsed
  obtain ⟨_, _, parsed⟩ := Option.bind_eq_some_iff.mp parsed
  cases parsed
  exact (ProposalKeys.nonEmptyText_trimmed named).2.1

theorem record_named (backend : Backend) (uuid : Supply) {s : ComponentHealthStore} (h : Named s)
    (call : HealthCall) : Named (recordCall backend uuid s call) := by
  have ends : (record backend uuid call.now call.tenantId call.params).Ends s fun _ t => Named t := by
    refine Store.Ends.require_bind (fun _ => h) fun _ => ?_
    cases parse : call.params.parse with
    | none => exact h
    | some parsed =>
      refine Store.Ends.require_bind (fun _ => h) fun _ => Store.Ends.read_bind ?_
      split
      · exact Store.Ends.pure h
      · apply Store.Ends.modify_bind
        apply Store.Ends.read_bind
        apply Store.Ends.modify_bind
        apply Store.Ends.pure
        intro k r stored
        simp only [InsertionMap.get_set] at stored
        split at stored
        · cases stored
          show jsTrim parsed.componentId = parsed.componentId
          exact parse_named parse
        · exact h k r stored
  exact ends

theorem recorded_named (backend : Backend) (uuid : Supply) (calls : List HealthCall) :
    Named (recorded backend uuid calls) := by
  apply runs_invariant (I := Named)
  · intro s call h
    exact record_named backend uuid h call
  · intro k r stored
    cases stored

section
variable {s : ComponentHealthStore} {tenantId componentId component : String}

theorem inMemory_eq (tenant : isUuid tenantId = true) : getByComponent s tenantId componentId =
    .ok (leading ComponentHealthRecord.observed (spelled s tenantId componentId)) := by
  rw [← head_insertionSort]
  simp only [getByComponent, parseTenantId, tenant, if_true]
  rfl

theorem leading_spelled {r : ComponentHealthRecord}
    (leads : leading ComponentHealthRecord.observed (spelled s tenantId component) = some r) :
    r ∈ spelled s tenantId component ∧ r.componentId = component := by
  obtain ⟨before, after, cut, _⟩ := leading_cut _ leads
  have member : r ∈ spelled s tenantId component := by
    rw [cut]
    simp
  refine ⟨member, ?_⟩
  simp only [spelled, List.mem_filter, Bool.and_eq_true, beq_iff_eq] at member
  exact member.2.2

theorem mem_latest {r : ComponentHealthRecord} :
    r ∈ (latestByComponent tenantId s.records.values).values ↔
      leading ComponentHealthRecord.observed (spelled s tenantId r.componentId) = some r := by
  rw [InsertionMap.mem_values]
  constructor
  · rintro ⟨component, held⟩
    rw [latestByComponent_get] at held
    have own := (leading_spelled held).2
    rw [own]
    exact held
  · intro leads
    exact ⟨r.componentId, by rw [latestByComponent_get]; exact leads⟩

/-- The listing holds snapshots of components, and all of them where its limit
is not reached. -/
theorem listing_holds {limit : Nat} {listing : List ComponentHealthRecord}
    (lists : listLatest s tenantId limit = .ok listing) :
    (∀ r ∈ listing,
      leading ComponentHealthRecord.observed (spelled s tenantId r.componentId) = some r) ∧
    ∀ r, leading ComponentHealthRecord.observed (spelled s tenantId r.componentId) = some r →
      listing.length < limit → r ∈ listing := by
  have sorted : ∀ r, r ∈ (latestByComponent tenantId s.records.values).values.insertionSort
      (fun a b => b.observed ≤ a.observed) ↔
        r ∈ (latestByComponent tenantId s.records.values).values :=
    fun r => (List.perm_insertionSort _ _).mem_iff
  have taken : listing = ((latestByComponent tenantId s.records.values).values.insertionSort
      fun a b => b.observed ≤ a.observed).take limit := by
    simp only [listLatest, parseTenantId, normalizeLimit] at lists
    split at lists
    · split at lists
      · cases lists
        rfl
      · cases lists
    · cases lists
  constructor
  · intro r member
    rw [taken] at member
    exact mem_latest.mp ((sorted r).mp (List.mem_of_mem_take member))
  · intro r leads room
    rw [taken, List.length_take] at room
    rw [taken, List.take_of_length_le (by omega), sorted]
    exact mem_latest.mpr leads

theorem spelled_shared (component : String) {r : ComponentHealthRecord}
    (member : r ∈ spelled s tenantId component) : r ∈ rows s tenantId component := by
  simp only [spelled, rows, List.mem_filter, Bool.and_eq_true, beq_iff_eq] at member ⊢
  exact ⟨member.1, by rw [member.2.1], member.2.2⟩

theorem exists_selected (rows : List ComponentHealthRecord) : ∃ answer, MaySelect rows answer := by
  by_cases none : rows = []
  · exact ⟨Option.none, none⟩
  · obtain ⟨row, latest⟩ := exists_latest ComponentHealthRecord.observed (·.createdAt) none
    exact ⟨some row, latest⟩

/-- A component that a record is found under is spelled as it parses. -/
theorem spelled_parses (h : Named s) (named : nonEmptyText componentId = some component)
    {r : ComponentHealthRecord} (member : r ∈ spelled s tenantId componentId) :
    componentId = component := by
  simp only [spelled, List.mem_filter, Bool.and_eq_true, beq_iff_eq] at member
  obtain ⟨stored, _, own⟩ := member
  obtain ⟨k, held⟩ := (InsertionMap.mem_values _ r).mp stored
  have trimmed := h k r held
  rw [own] at trimmed
  rw [(ProposalKeys.nonEmptyText_trimmed named).1, trimmed]

/-- A decided component has one snapshot, which each reader gives. -/
theorem decided_leading (h : Named s) (named : nonEmptyText componentId = some component)
    (decided : Decided (spelled s tenantId componentId) (rows s tenantId component))
    {answer : Option ComponentHealthRecord} (selects : MaySelect (rows s tenantId component) answer) :
    leading ComponentHealthRecord.observed (spelled s tenantId componentId) = answer ∧
      leading ComponentHealthRecord.observed (spelled s tenantId component) = answer := by
  rcases decided with nothing | ⟨before, last, after, cut, earlier, strict⟩
  · have unselected : answer = none := by
      cases answer with
      | none => rfl
      | some row =>
        have member := selects.member
        rw [nothing] at member
        cases member
    have unspelled : spelled s tenantId component = [] := by
      apply List.eq_nil_iff_forall_not_mem.mpr
      intro r member
      have shared := spelled_shared component member
      rw [nothing] at shared
      cases shared
    have unasked : spelled s tenantId componentId = [] := by
      apply List.eq_nil_iff_forall_not_mem.mpr
      intro r member
      have own := spelled_parses h named member
      rw [own, unspelled] at member
      cases member
    rw [unspelled, unasked, unselected]
    exact ⟨rfl, rfl⟩
  · have own : componentId = component :=
      spelled_parses h named (r := last) (by rw [cut]; simp)
    subst own
    have here : last ∈ rows s tenantId componentId :=
      spelled_shared componentId (by rw [cut]; simp)
    have below : ∀ r ∈ rows s tenantId componentId, r ≠ last →
        toLex (r.observed, r.createdAt) < toLex (last.observed, last.createdAt) :=
      fun r member apart => Prod.Lex.toLex_lt_toLex.mpr (strict r member apart)
    have later : ∀ r ∈ after, r.observed ≤ last.observed := by
      intro r member
      by_cases same : r = last
      · rw [same]
      · rcases strict r (spelled_shared componentId (by rw [cut]; simp [member])) same with less | ⟨eq, _⟩
        · exact less.le
        · exact eq.le
    have leads : leading ComponentHealthRecord.observed (spelled s tenantId componentId) = some last := by
      rw [cut]
      exact cut_leading _ earlier later
    have selected : answer = some last := by
      cases answer with
      | none =>
        rw [show rows s tenantId componentId = [] from selects] at here
        cases here
      | some row =>
        by_contra apart
        exact absurd (selects.greatest last here)
          (not_le.mpr (below row selects.member fun same => apart (congrArg some same)))
    rw [selected]
    exact ⟨leads, leads⟩

end

/-- The readers agree on a component exactly where its snapshot is decided. -/
theorem same_snapshot_iff (backend : Backend) (uuid : Supply) (calls : List HealthCall)
    {tenantId componentId component : String} (tenant : isUuid tenantId = true)
    (named : nonEmptyText componentId = some component) :
    SameSnapshot (recorded backend uuid calls) tenantId componentId component ↔
      Decided (spelled (recorded backend uuid calls) tenantId componentId)
        (rows (recorded backend uuid calls) tenantId component) := by
  have h := recorded_named backend uuid calls
  generalize recorded backend uuid calls = s at h ⊢
  constructor
  · intro same
    have given : ∀ answer, MaySelect (rows s tenantId component) answer →
        leading ComponentHealthRecord.observed (spelled s tenantId componentId) = answer := by
      intro answer selects
      have read := same.inMemory answer ⟨tenant, component, named, selects⟩
      rw [inMemory_eq tenant] at read
      exact Except.ok.inj read
    obtain ⟨answer, selects⟩ := exists_selected (rows s tenantId component)
    cases answer with
    | none => exact .inl selects
    | some last =>
      obtain ⟨before, after, cut, earlier, _⟩ := leading_cut _ (given _ selects)
      refine .inr ⟨before, last, after, cut, earlier, ?_⟩
      have only := (latest_only_iff _ _ selects).mp fun row latest =>
        Option.some.inj ((given (some row) latest).symm.trans (given _ selects))
      intro r member apart
      exact Prod.Lex.toLex_lt_toLex.mp (only r member apart)
  · intro decided
    constructor
    · rintro answer ⟨_, parsed, names, selects⟩
      cases named.symm.trans names
      rw [inMemory_eq tenant, (decided_leading h named decided selects).1]
    · rintro answer ⟨_, parsed, names, selects⟩ limit listing lists
      cases named.symm.trans names
      have leads := (decided_leading h named decided selects).2
      obtain ⟨holds, whole⟩ := listing_holds lists
      constructor
      · intro r member own
        rw [← leads, ← own]
        exact holds r member
      · intro r selected room
        rw [selected] at leads
        have own := (leading_spelled leads).2
        exact whole r (by rw [own]; exact leads) room

/-- A report of the publisher's health, observed at second ten. -/
def report (idempotencyKey : String) (state : RuntimeHealthState) (action : HealingAction) :
    RecordComponentHealthParams where
  componentId := "publisher"
  idempotencyKey := idempotencyKey
  state := state
  errorRate := 0
  consecutiveFailures := 0
  p95LatencyMs := 0
  stalenessSeconds := 0
  dependencyAvailable := true
  fallbackAvailable := true
  lastKnownGoodAvailable := false
  recoveryAttempts := 0
  guardrailBreached := false
  action := action
  allowExternalActions := true
  reasons := []
  observedAt := some 10000

def tenant : String := "11111111-1111-4111-8111-111111111111"

def batch : List HealthCall :=
  [⟨11000, tenant, report "first" .healthy .none_⟩,
    ⟨12000, tenant, report "second" .quarantined .quarantine_and_escalate⟩]

theorem lone_report_same :
    SameSnapshot (recorded .inMemory ProposalLifecycle.countedUuids (batch.take 1)) tenant
      "publisher" "publisher" :=
  (same_snapshot_iff .inMemory ProposalLifecycle.countedUuids (batch.take 1) (by decide)
    (by decide)).mpr
    (.inr ⟨[], _, [], rfl, by simp, by
      intro r member apart
      exact absurd (List.mem_singleton.mp member) apart⟩)

/-- The quarantine that was reported second is not what the in-memory readers
give. -/
theorem quarantine_hidden : ¬ ∀ (backend : Backend) (uuid : Supply) (calls : List HealthCall)
    (tenantId componentId component : String), isUuid tenantId = true →
      nonEmptyText componentId = some component →
        SameSnapshot (recorded backend uuid calls) tenantId componentId component := by
  intro claim
  have same := claim .inMemory ProposalLifecycle.countedUuids batch tenant "publisher" "publisher"
    (by decide) (by decide)
  have shared : ∃ first second, rows (recorded .inMemory ProposalLifecycle.countedUuids batch) tenant
      "publisher" = [first, second] ∧ first.observed = second.observed ∧
      first.createdAt < second.createdAt ∧ first.state = .healthy ∧ second.state = .quarantined :=
    ⟨_, _, rfl, rfl, by decide, rfl, rfl⟩
  have read : (getByComponent (recorded .inMemory ProposalLifecycle.countedUuids batch) tenant
      "publisher").map (·.map (·.state)) = .ok (some .healthy) := by rfl
  obtain ⟨first, second, listed, together, later, _, state⟩ := shared
  have latest : MaySelect (rows (recorded .inMemory ProposalLifecycle.countedUuids batch) tenant
      "publisher") (some second) := by
    rw [listed]
    refine ⟨by simp, ?_⟩
    simp only [List.forall_mem_cons, List.not_mem_nil, false_implies, implies_true, and_true, le_refl]
    exact (Prod.Lex.toLex_lt_toLex.mpr (.inr ⟨together, later⟩)).le
  rw [same.inMemory (some second) ⟨by decide, "publisher", by decide, latest⟩] at read
  simp only [Except.map, Option.map_some, state] at read
  cases read

end VantGrowth.Proofs.HealthSnapshots
