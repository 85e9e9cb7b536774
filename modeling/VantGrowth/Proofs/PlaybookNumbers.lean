import VantGrowth.Db.PlaybookCalls
import VantGrowth.Proofs.PlaybookEffects
import VantGrowth.Proofs.ProposalLifecycle

namespace VantGrowth.Proofs.PlaybookNumbers
open Db Db.PlaybookVersionStore Db.InMemoryPlaybookVersionsRepository Lib Lib.Text PlaybookEffects

/-! The numbers of playbook versions over runs of creations and retirements. -/

/-- The version numbers of a tenant and type, oldest row first. -/
def versions (s : PlaybookVersionStore) (tenantId : String) (playbookType : PlaybookType) : List Nat :=
  (s.ofType tenantId playbookType).map (·.version)

/-- `MAX(existing_versions) + 1`, or 1 where there is none. -/
def nextVersion (s : PlaybookVersionStore) (tenantId : String) (playbookType : PlaybookType) : Nat :=
  (versions s tenantId playbookType).foldl max 0 + 1

/-- The record schema takes what a creation with a proper tenant passes. -/
def Accepted : PlaybookCall → Prop
  | .create _ tenantId input => isUuid tenantId = true → input.parse.isSome = true
  | .retire _ _ _ => True

instance (call : PlaybookCall) : Decidable (Accepted call) := by
  unfold Accepted
  cases call <;> infer_instance

/-- The newest version that is not retired, or nothing where all are. -/
def NewestLive (s : PlaybookVersionStore) (tenantId : String) (playbookType : PlaybookType) :
    Option PlaybookVersionRecord → Prop
  | some v => v ∈ s.ofType tenantId playbookType ∧ v.retiredAt = none ∧
      ∀ u ∈ s.ofType tenantId playbookType, u.retiredAt = none → u ≠ v → u.version < v.version
  | none => ∀ u ∈ s.ofType tenantId playbookType, u.retiredAt ≠ none

structure Dense (uuid : Supply) (s : PlaybookVersionStore) : Prop where
  numbered : ∀ now tenantId input v t,
    (createFrom uuid now tenantId input).run s = (.ok v, t) →
      v.tenantId = tenantId ∧ v.playbookType = input.playbookType ∧
        v.version = nextVersion s tenantId input.playbookType ∧
        v ∈ t.ofType tenantId input.playbookType
  unchanged : ∀ now tenantId input e t, Accepted (.create now tenantId input) →
    (createFrom uuid now tenantId input).run s = (.error e, t) → t = s
  distinct : ∀ tenantId playbookType, (versions s tenantId playbookType).Nodup
  active : ∀ tenantId playbookType, ∃ answer,
    getActive s tenantId playbookType = .ok answer ∧ NewestLive s tenantId playbookType answer

/-- The counter of a pair is the greatest version it has. -/
def Counted (s : PlaybookVersionStore) : Prop :=
  ∀ tenantId playbookType, isUuid tenantId = true →
    (s.versionCounters.get (typeKey tenantId playbookType)).getD 0 =
      (versions s tenantId playbookType).foldl max 0

/-- The rows of a pair have versions of their own. -/
def Distinct (s : PlaybookVersionStore) : Prop :=
  ∀ tenantId playbookType, (versions s tenantId playbookType).Nodup

theorem typeKey_inj {tenantId tenantId' : String} {playbookType playbookType' : PlaybookType}
    (h : isUuid tenantId = true) (h' : isUuid tenantId' = true)
    (same : typeKey tenantId playbookType = typeKey tenantId' playbookType') :
    tenantId = tenantId' ∧ playbookType = playbookType' := by
  obtain ⟨tenant, type⟩ := join_inj (uuid_no_colon h) (uuid_no_colon h') same
  refine ⟨tenant, ?_⟩
  cases playbookType <;> cases playbookType' <;> first | rfl | exact absurd type (by decide)

/-- The counter of a pair moved by one, and a uuid was drawn. -/
structure Moved (s t : PlaybookVersionStore) (tenantId : String) (playbookType : PlaybookType) :
    Prop where
  tenant : isUuid tenantId = true
  counters : t.versionCounters = s.versionCounters.set (typeKey tenantId playbookType)
    ((s.versionCounters.get (typeKey tenantId playbookType)).getD 0 + 1)
  drawn : t.drawn = s.drawn + 1

/-- What `createFrom` does: a tenant that is no uuid is refused at once, the
other parameters are read once the counter has moved. -/
inductive Created (uuid : Supply) (now : Instant) (tenantId : String)
    (input : CreatePlaybookVersionInput) (s t : PlaybookVersionStore) :
    Except DbError PlaybookVersionRecord → Prop where
  | stranger (e : DbError) (tenant : isUuid tenantId ≠ true) (same : t = s) :
      Created uuid now tenantId input s t (.error e)
  | refused (e : DbError) (unread : input.parse = none) (moved : Moved s t tenantId input.playbookType)
      (records : t.records = s.records) : Created uuid now tenantId input s t (.error e)
  | created (v : PlaybookVersionRecord) (moved : Moved s t tenantId input.playbookType)
      (id : v.id = uuid.text (s.drawn + 1)) (owner : v.tenantId = tenantId)
      (type : v.playbookType = input.playbookType) (live : v.retiredAt = none)
      (version : v.version = (s.versionCounters.get (typeKey tenantId input.playbookType)).getD 0 + 1)
      (records : t.records = s.records.set v.id v) : Created uuid now tenantId input s t (.ok v)

theorem parse_type {input : CreatePlaybookVersionInput} {params : CreatePlaybookVersionParams}
    (parsed : input.parse = some params) : params.playbookType = input.playbookType := by
  obtain ⟨effectiveAt, _, parsed⟩ := Option.bind_eq_some_iff.mp parsed
  dsimp only at parsed
  split at parsed
  · cases parsed
    rfl
  · cases parsed

section
variable {uuid : Supply} {s t : PlaybookVersionStore}

theorem createFrom_ends (now : Instant) (tenantId : String) (input : CreatePlaybookVersionInput) :
    (createFrom uuid now tenantId input).Ends s fun x t => Created uuid now tenantId input s t x := by
  apply Store.Ends.require_bind
  · intro refused
    exact .stranger _ refused rfl
  · intro tenant
    apply Store.Ends.read_bind
    apply Store.Ends.modify_bind
    apply Store.Ends.modify_bind
    apply Store.Ends.read_bind
    cases parsed : input.parse with
    | none => exact .refused _ parsed ⟨tenant, rfl, rfl⟩ rfl
    | some params => exact .created _ ⟨tenant, rfl, rfl⟩ rfl rfl (parse_type parsed) rfl rfl rfl

/-- The rows of the pairs after a row of one of them is added. -/
theorem created_ofType (h : s.Sound .inMemory uuid) {v : PlaybookVersionRecord}
    (id : v.id = uuid.text (s.drawn + 1)) (records : t.records = s.records.set v.id v)
    (tenantId : String) (playbookType : PlaybookType) :
    t.ofType tenantId playbookType = s.ofType tenantId playbookType ++
      if v.tenantId = tenantId ∧ v.playbookType = playbookType then [v] else [] := by
  have fresh : s.records.get v.id = none := by
    rw [id]
    exact h.fresh
  unfold ofType
  rw [records, InsertionMap.values_set_fresh fresh, List.filter_append]
  by_cases own : v.tenantId = tenantId ∧ v.playbookType = playbookType <;> simp [own]

theorem version_counted (h : s.Sound .inMemory uuid) {tenantId : String} {playbookType : PlaybookType}
    {n : Nat} (there : n ∈ versions s tenantId playbookType) :
    n ≤ (s.versionCounters.get (typeKey tenantId playbookType)).getD 0 := by
  obtain ⟨v, member, rfl⟩ := List.mem_map.mp there
  obtain ⟨⟨i, stored⟩, rfl, rfl⟩ := mem_ofType.mp member
  exact h.counted rfl i v stored

theorem created_sound (h : s.Sound .inMemory uuid) {now : Instant} {tenantId : String}
    {input : CreatePlaybookVersionInput} {x : Except DbError PlaybookVersionRecord}
    (step : Created uuid now tenantId input s t x) : t.Sound .inMemory uuid := by
  cases step with
  | stranger e tenant same =>
    rw [same]
    exact h
  | refused e unread moved records =>
    exact Sound.counter h (by rw [moved.drawn]; exact Nat.le_succ _) records moved.counters
      (Nat.le_succ _)
  | created v moved id owner type live version records =>
    have counters := moved.counters
    rw [← owner, ← type] at version counters
    rw [← version] at counters
    exact Sound.set h moved.drawn id records (fun _ => counters) (.inl (by omega))

theorem created_distinct (h : s.Sound .inMemory uuid) (distinct : Distinct s) {now : Instant}
    {tenantId : String} {input : CreatePlaybookVersionInput}
    {x : Except DbError PlaybookVersionRecord} (step : Created uuid now tenantId input s t x) :
    Distinct t := by
  intro tenantId' playbookType'
  cases step with
  | stranger e tenant same =>
    rw [same]
    exact distinct tenantId' playbookType'
  | refused e unread moved records =>
    have same : versions t tenantId' playbookType' = versions s tenantId' playbookType' := by
      simp only [versions, ofType, records]
    rw [same]
    exact distinct tenantId' playbookType'
  | created v moved id owner type live version records =>
    unfold versions
    rw [created_ofType h id records, List.map_append]
    split
    · rename_i own
      rw [owner, type] at own
      obtain ⟨rfl, rfl⟩ := own
      refine List.nodup_append'.mpr ⟨distinct _ _, List.nodup_singleton _, ?_⟩
      intro n old new
      have bound := version_counted h old
      simp only [List.map_cons, List.map_nil, List.mem_singleton] at new
      omega
    · rw [List.map_nil, List.append_nil]
      exact distinct tenantId' playbookType'

/-- An accepted creation leaves the counters at the greatest versions. -/
theorem created_counted (h : s.Sound .inMemory uuid) (counted : Counted s) {now : Instant}
    {tenantId : String} {input : CreatePlaybookVersionInput}
    (accepted : Accepted (.create now tenantId input)) {x : Except DbError PlaybookVersionRecord}
    (step : Created uuid now tenantId input s t x) : Counted t := by
  intro tenantId' playbookType' proper
  cases step with
  | stranger e tenant same =>
    rw [same]
    exact counted tenantId' playbookType' proper
  | refused e unread moved records =>
    have read := accepted moved.tenant
    rw [unread] at read
    cases read
  | created v moved id owner type live version records =>
    unfold versions
    rw [moved.counters, InsertionMap.get_set, created_ofType h id records, List.map_append]
    by_cases own : v.tenantId = tenantId' ∧ v.playbookType = playbookType'
    · have key : typeKey tenantId' playbookType' = typeKey tenantId input.playbookType := by
        rw [← own.1, ← own.2, owner, type]
      have greatest := counted tenantId' playbookType' proper
      rw [if_pos key, if_pos own, List.foldl_append]
      rw [← key] at version ⊢
      unfold versions at greatest
      rw [← greatest]
      simp only [Option.getD_some, List.map_cons, List.map_nil, List.foldl_cons, List.foldl_nil]
      omega
    · have apart : typeKey tenantId' playbookType' ≠ typeKey tenantId input.playbookType := by
        intro same
        obtain ⟨rfl, rfl⟩ := typeKey_inj proper moved.tenant same
        exact own ⟨owner, type⟩
      rw [if_neg apart, if_neg own, List.map_nil, List.append_nil]
      exact counted tenantId' playbookType' proper

/-- What `retire` does: nothing, or it dates one row that had no date. -/
inductive Retired (now : Instant) (s t : PlaybookVersionStore) : Prop where
  | kept (same : t = s)
  | dated (i : String) (v : PlaybookVersionRecord) (stored : s.records.get i = some v)
      (row : t = { s with records := s.records.set i { v with retiredAt := some now } })

theorem retire_ends (now : Instant) (tenantId id : String) :
    (retire now tenantId id).Ends s fun _ t => Retired now s t := by
  apply Store.Ends.read_bind
  cases stored : s.records.get id with
  | none => exact .kept rfl
  | some v =>
    apply Store.Ends.ite
    · intro _
      exact .kept rfl
    · intro _
      apply Store.Ends.ite
      · intro _
        exact .kept rfl
      · intro _
        exact .dated id v stored rfl

theorem retired_sound (h : s.Sound .inMemory uuid) {now : Instant} (step : Retired now s t) :
    t.Sound .inMemory uuid := by
  cases step with
  | kept same =>
    rw [same]
    exact h
  | dated i v stored row =>
    subst row
    constructor
    · intro j r held
      dsimp only at held
      rw [InsertionMap.get_set] at held
      split at held
      · rename_i here
        cases held
        rw [here]
        exact h.ids i v stored
      · exact h.ids j r held
    · intro memory j r held
      dsimp only at held
      rw [InsertionMap.get_set] at held
      split at held
      · cases held
        exact h.counted memory i v stored
      · exact h.counted memory j r held

theorem retired_versions (h : s.Sound .inMemory uuid) {now : Instant} (step : Retired now s t)
    (tenantId : String) (playbookType : PlaybookType) :
    versions t tenantId playbookType = versions s tenantId playbookType := by
  cases step with
  | kept same => rw [same]
  | dated i v stored row =>
    subst row
    have named : ∀ k r, s.records.get k = some r → r.id = k := fun k r held => (h.ids k r held).1
    -- the dated row keeps its tenant, type and version
    have same : ∀ r ∈ s.records.values,
        (if r.id = i then { v with retiredAt := some now } else r).tenantId = r.tenantId ∧
        (if r.id = i then { v with retiredAt := some now } else r).playbookType = r.playbookType ∧
        (if r.id = i then { v with retiredAt := some now } else r).version = r.version := by
      intro r member
      split
      · rename_i here
        obtain ⟨k, held⟩ := (InsertionMap.mem_values _ r).mp member
        rw [← named k r held, here, stored] at held
        cases held
        exact ⟨rfl, rfl, rfl⟩
      · exact ⟨rfl, rfl, rfl⟩
    unfold versions ofType
    dsimp only
    rw [InsertionMap.values_set_stored named stored, List.filter_map, List.map_map]
    have owned := List.filter_congr (l := s.records.values)
      (p := (fun r => r.tenantId == tenantId && r.playbookType == playbookType) ∘
        fun u => if u.id = i then { v with retiredAt := some now } else u)
      (q := fun r => r.tenantId == tenantId && r.playbookType == playbookType) (by
        intro r member
        obtain ⟨tenant, type, _⟩ := same r member
        simp only [Function.comp_apply, tenant, type])
    rw [owned]
    apply List.map_congr_left
    intro r member
    exact (same r (List.mem_filter.mp member).1).2.2

theorem retired_counters {now : Instant} (step : Retired now s t) :
    t.versionCounters = s.versionCounters := by
  cases step with
  | kept same => rw [same]
  | dated i v stored row => rw [row]

/-- What holds of every run. -/
structure Settled (uuid : Supply) (s : PlaybookVersionStore) : Prop where
  sound : s.Sound .inMemory uuid
  distinct : Distinct s

theorem perform_settled (call : PlaybookCall) (h : Settled uuid s) :
    Settled uuid (call.perform uuid s) := by
  cases call with
  | create now tenantId input =>
    have step : (createFrom uuid now tenantId input).Ends s _ := createFrom_ends now tenantId input
    exact ⟨created_sound h.sound step, created_distinct h.sound h.distinct step⟩
  | retire now tenantId id =>
    have step := retire_ends (s := s) now tenantId id
    refine ⟨retired_sound h.sound step, fun tenantId playbookType => ?_⟩
    have same := retired_versions h.sound step tenantId playbookType
    unfold PlaybookCall.perform
    rw [same]
    exact h.distinct tenantId playbookType

theorem after_settled (uuid : Supply) (calls : List PlaybookCall) : Settled uuid (after uuid calls) := by
  apply runs_invariant (I := Settled uuid)
  · intro s call h
    exact perform_settled call h
  · exact ⟨empty_sound .inMemory uuid, fun _ _ => List.nodup_nil⟩

theorem perform_counted {call : PlaybookCall} (accepted : Accepted call) (h : Settled uuid s)
    (counted : Counted s) : Counted (call.perform uuid s) := by
  cases call with
  | create now tenantId input =>
    exact created_counted h.sound counted accepted (createFrom_ends now tenantId input)
  | retire now tenantId id =>
    have step := retire_ends (s := s) now tenantId id
    intro tenantId' playbookType' proper
    unfold PlaybookCall.perform
    rw [retired_versions h.sound step]
    rw [retired_counters step]
    exact counted tenantId' playbookType' proper

theorem after_counted {calls : List PlaybookCall} (accepted : ∀ call ∈ calls, Accepted call) :
    Counted (after uuid calls) := by
  induction calls using List.reverseRecOn with
  | nil => exact fun _ _ _ => rfl
  | append_singleton calls call ih =>
    have before := ih fun call member => accepted call (List.mem_append_left _ member)
    unfold after
    rw [runs_append]
    exact perform_counted (accepted call (by simp)) (after_settled uuid calls) before

theorem active_newest (distinct : Distinct s) (tenantId : String) (playbookType : PlaybookType) :
    NewestLive s tenantId playbookType (s.active tenantId playbookType) := by
  have own : ∀ u v, u ∈ s.ofType tenantId playbookType → v ∈ s.ofType tenantId playbookType →
      u.version = v.version → u = v := fun u v hu hv same =>
    List.inj_on_of_nodup_map (distinct tenantId playbookType) hu hv same
  have live : ∀ u, u ∈ newestFirst ((s.ofType tenantId playbookType).filter (·.retiredAt.isNone)) ↔
      u ∈ s.ofType tenantId playbookType ∧ u.retiredAt = none := by
    intro u
    rw [mem_newestFirst, List.mem_filter, Option.isNone_iff_eq_none]
  have sorted : (newestFirst ((s.ofType tenantId playbookType).filter
      (·.retiredAt.isNone))).Pairwise fun a b => b.version ≤ a.version :=
    List.pairwise_insertionSort (fun a b : PlaybookVersionRecord => b.version ≤ a.version) _
  unfold active
  cases listed : newestFirst ((s.ofType tenantId playbookType).filter (·.retiredAt.isNone)) with
  | nil =>
    intro u member current
    have there := (live u).mpr ⟨member, current⟩
    rw [listed] at there
    cases there
  | cons v rest =>
    rw [listed] at live sorted
    obtain ⟨member, current⟩ := (live v).mp (by simp)
    refine ⟨member, current, fun u other alive apart => ?_⟩
    rcases List.mem_cons.mp ((live u).mpr ⟨other, alive⟩) with same | later
    · exact absurd same apart
    · have below := (List.pairwise_cons.mp sorted).1 u later
      exact lt_of_le_of_ne below fun same => apart (own u v other member same)

end

/-- In every run whose creations for proper tenants pass the record schema the
versions of each tenant and type are dense, and the newest live one is active. -/
theorem versions_dense (uuid : Supply) {calls : List PlaybookCall}
    (accepted : ∀ call ∈ calls, Accepted call) : Dense uuid (after uuid calls) := by
  have settled := after_settled uuid calls
  have counted : Counted (after uuid calls) := after_counted accepted
  generalize after uuid calls = s at settled counted ⊢
  constructor
  · intro now tenantId input v t created
    have step : (createFrom uuid now tenantId input).Ends s _ := createFrom_ends now tenantId input
    unfold Store.Ends at step
    rw [created] at step
    cases step with
    | created v moved id owner type live version records =>
      refine ⟨owner, type, ?_, ?_⟩
      · rw [version, counted _ _ moved.tenant]
        rfl
      · rw [created_ofType settled.sound id records]
        simp [owner, type]
  · intro now tenantId input e t accepted refused
    have step : (createFrom uuid now tenantId input).Ends s _ := createFrom_ends now tenantId input
    unfold Store.Ends at step
    rw [refused] at step
    cases step with
    | stranger e tenant same => exact same
    | refused e unread moved records =>
      have read := accepted moved.tenant
      rw [unread] at read
      cases read
  · exact settled.distinct
  · intro tenantId playbookType
    exact ⟨_, rfl, active_newest settled.distinct tenantId playbookType⟩

def owner : String := "11111111-1111-4111-8111-111111111111"

def rubricOf (name : String) : CreatePlaybookVersionInput :=
  { playbookType := .blog_draft, name := .ofString name, content := .other, createdBy := "founder" }

/-- Two versions, the second of them retired. -/
def twoVersions : List PlaybookCall :=
  [.create 0 owner (rubricOf "First"), .create 1 owner (rubricOf "Second"),
    .retire 2 owner (ProposalLifecycle.countedUuids.text 2)]

theorem twoVersions_dense : Dense ProposalLifecycle.countedUuids
    (after ProposalLifecycle.countedUuids twoVersions) :=
  versions_dense ProposalLifecycle.countedUuids (by decide)

/-- After a creation that was refused for its name, the first version of the
pair is numbered two. -/
theorem refused_leaves_gap : ¬ ∀ (uuid : Supply) (calls : List PlaybookCall),
    Dense uuid (after uuid calls) := by
  intro claim
  have dense := claim ProposalLifecycle.countedUuids [.create 0 owner (rubricOf "")]
  have first := (dense.numbered 1 owner (rubricOf "First") _ _ rfl).2.2.1
  exact absurd first (by decide)

end VantGrowth.Proofs.PlaybookNumbers
