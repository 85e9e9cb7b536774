import VantGrowth.Learning.System

namespace VantGrowth.Proofs.PlaybookEffects
open Db Db.PlaybookVersionStore Lib Lib.Text Learning

/-- What a creation does and says: it is refused and leaves the rows, or it adds
a row above every version of its tenant and type. -/
inductive Drafts (uuid : Supply) (now : Instant) (tenantId : String)
    (params : CreatePlaybookVersionParams) (s t : PlaybookVersionStore) :
    Except DbError PlaybookVersionRecord → Prop where
  | refused (e : DbError) (records : t.records = s.records) :
      Drafts uuid now tenantId params s t (.error e)
  | drafted (version : Nat) (v : PlaybookVersionRecord)
      (row : v = newRecord params (uuid.text (s.drawn + 1)) tenantId version now)
      (fresh : s.records.get v.id = none) (records : t.records = s.records.set v.id v)
      (newest : ∀ r ∈ s.ofType tenantId params.playbookType, r.version < version) :
      Drafts uuid now tenantId params s t (.ok v)

theorem foldl_max_le (ns : List Nat) : ∀ m, m ≤ ns.foldl max m ∧ ∀ n ∈ ns, n ≤ ns.foldl max m := by
  induction ns with
  | nil => simp
  | cons n ns ih =>
    intro m
    obtain ⟨start, rest⟩ := ih (max m n)
    refine ⟨by simp only [List.foldl_cons]; omega, ?_⟩
    intro k hk
    rcases List.mem_cons.mp hk with rfl | hk
    · simp only [List.foldl_cons]
      omega
    · exact rest k hk

theorem Sound.set {backend : Backend} {uuid : Supply} {s t : PlaybookVersionStore}
    {v : PlaybookVersionRecord} (h : s.Sound backend uuid) (drawn : t.drawn = s.drawn + 1)
    (id : v.id = uuid.text (s.drawn + 1)) (records : t.records = s.records.set v.id v)
    (counter : backend = .inMemory →
      t.versionCounters = s.versionCounters.set (typeKey v.tenantId v.playbookType) v.version)
    (higher : (s.versionCounters.get (typeKey v.tenantId v.playbookType)).getD 0 ≤ v.version ∨
      backend = .postgres) : t.Sound backend uuid := by
  refine ⟨?_, ?_⟩
  · intro i r hr
    rw [records, InsertionMap.get_set] at hr
    split at hr
    · rename_i hi
      cases hr
      exact ⟨hi.symm, s.drawn + 1, drawn.ge, hi.trans id⟩
    · obtain ⟨hid, n, hn, hi⟩ := h.ids i r hr
      exact ⟨hid, n, by omega, hi⟩
  · intro memory i r hr
    rw [counter memory, InsertionMap.get_set]
    rw [records, InsertionMap.get_set] at hr
    split at hr
    · cases hr
      simp
    · have bound := h.counted memory i r hr
      split
      · rename_i same
        rcases higher with higher | other
        · rw [same] at bound
          simp only [Option.getD_some]
          omega
        · rw [memory] at other
          cases other
      · exact bound

theorem Sound.counter {backend : Backend} {uuid : Supply} {s t : PlaybookVersionStore} {k : String}
    {n : Nat} (h : s.Sound backend uuid) (drawn : s.drawn ≤ t.drawn)
    (records : t.records = s.records)
    (counters : t.versionCounters = s.versionCounters.set k n)
    (higher : (s.versionCounters.get k).getD 0 ≤ n) : t.Sound backend uuid := by
  refine ⟨?_, ?_⟩
  · intro i r hr
    rw [records] at hr
    obtain ⟨hid, m, hm, hi⟩ := h.ids i r hr
    exact ⟨hid, m, by omega, hi⟩
  · intro memory i r hr
    rw [records] at hr
    have bound := h.counted memory i r hr
    rw [counters, InsertionMap.get_set]
    split
    · rename_i same
      rw [same] at bound
      simp only [Option.getD_some]
      omega
    · exact bound

section
variable {uuid : Supply} (now : Instant) {s : PlaybookVersionStore} (tenantId : String)
  (params : CreatePlaybookVersionParams)

theorem inMemory_drafts (h : s.Sound .inMemory uuid) :
    (InMemoryPlaybookVersionsRepository.create uuid now tenantId params).Ends s fun x t =>
      Drafts uuid now tenantId params s t x ∧ t.Sound .inMemory uuid := by
  refine Store.Ends.require_bind (fun _ => ⟨.refused _ rfl, h⟩) fun _ => ?_
  refine Store.Ends.read_bind (Store.Ends.modify_bind (Store.Ends.modify_bind ?_))
  refine Store.Ends.read_bind (Store.Ends.require_bind (fun _ => ?_) fun _ => ?_)
  · exact ⟨.refused _ rfl, Sound.counter h (Nat.le_succ _) rfl rfl (Nat.le_succ _)⟩
  · refine Store.Ends.modify_bind (Store.Ends.pure ⟨?_, ?_⟩)
    · refine .drafted _ _ rfl h.fresh rfl fun r hr => ?_
      obtain ⟨⟨i, hi⟩, tenant, type⟩ := mem_ofType.mp hr
      have bound := h.counted rfl i r hi
      rw [tenant, type] at bound
      omega
    · exact Sound.set h rfl rfl rfl (fun _ => rfl) (Or.inl (Nat.le_succ _))

theorem postgres_drafts (h : s.Sound .postgres uuid) :
    (PostgresPlaybookVersionsRepository.create uuid now tenantId params).Ends s fun x t =>
      Drafts uuid now tenantId params s t x ∧ t.Sound .postgres uuid := by
  refine Store.Ends.require_bind (fun _ => ⟨.refused _ rfl, h⟩) fun _ => ?_
  refine Store.Ends.transaction (R := fun x t => ∀ v, x = .ok v →
    Drafts uuid now tenantId params s t x ∧ t.Sound .postgres uuid) ?_
    (fun a _ ended => ended a rfl) (fun _ _ _ => ⟨.refused _ rfl, h⟩)
  refine Store.Ends.read_bind (Store.Ends.modify_bind (Store.Ends.read_bind ?_))
  refine Store.Ends.modify_bind (Store.Ends.require_bind (fun _ => ?_) fun _ => ?_)
  · intro v hv
    cases hv
  · refine Store.Ends.pure fun v _ => ⟨?_, ?_⟩
    · refine .drafted _ _ rfl h.fresh rfl fun r hr => Nat.lt_succ_of_le ?_
      exact (foldl_max_le _ 0).2 r.version (List.mem_map_of_mem hr)
    · exact Sound.set h rfl rfl rfl (fun memory => by cases memory) (Or.inr rfl)

end

/-- A drafted row is the active version of its tenant and type. -/
theorem drafted_active {s t : PlaybookVersionStore} {tenantId : String}
    {params : CreatePlaybookVersionParams} {v : PlaybookVersionRecord}
    (tenant : v.tenantId = tenantId) (type : v.playbookType = params.playbookType)
    (current : v.retiredAt = none) (records : t.records = s.records.set v.id v)
    (newest : ∀ r ∈ s.ofType tenantId params.playbookType, r.version < v.version) :
    t.active tenantId params.playbookType = some v := by
  refine newest_head ?_ ?_
  · simp only [List.mem_filter, current, Option.isNone_none, and_true]
    exact mem_ofType.mpr ⟨⟨v.id, by rw [records, InsertionMap.get_set_self]⟩, tenant, type⟩
  · intro r hr other
    obtain ⟨⟨i, hi⟩, rt, rp⟩ := mem_ofType.mp (List.mem_filter.mp hr).1
    rw [records, InsertionMap.get_set] at hi
    split at hi
    · exact absurd (Option.some.inj hi).symm other
    · exact newest r (mem_ofType.mpr ⟨⟨i, hi⟩, rt, rp⟩)

/-- A drafted row leaves the other tenants and types as they were. -/
theorem drafted_elsewhere {s t : PlaybookVersionStore} {v : PlaybookVersionRecord}
    (fresh : s.records.get v.id = none) (records : t.records = s.records.set v.id v)
    {tenantId : String} {playbookType : PlaybookType}
    (other : ¬ (v.tenantId = tenantId ∧ v.playbookType = playbookType)) :
    t.ofType tenantId playbookType = s.ofType tenantId playbookType := by
  unfold ofType
  rw [records, InsertionMap.values_set_fresh fresh, List.filter_append]
  simpa using not_and.mp other

end VantGrowth.Proofs.PlaybookEffects
