import VantGrowth.Db.Incidents

namespace VantGrowth.Proofs.IncidentFiling
open Db Db.IncidentStore Lib Lib.Text

/-- Every record is filed under its tenant and key and nowhere else. -/
structure Filed (uuid : Supply) (s : IncidentStore) : Prop where
  indexed : ∀ k i, s.recordIdByKey.get k = some i →
    ∃ r, s.recordsById.get i = some r ∧ key r.tenantId r.incidentKey = k
  stored : ∀ i r, s.recordsById.get i = some r → r.id = i ∧ isUuid r.tenantId = true ∧
    s.recordIdByKey.get (key r.tenantId r.incidentKey) = some i ∧ ∃ n ≤ s.drawn, i = uuid.text n

theorem empty_filed (uuid : Supply) : Filed uuid .empty := by
  refine ⟨?_, ?_⟩
  · rintro k i ⟨⟩
  · rintro i r ⟨⟩

section
variable {uuid : Supply} {s : IncidentStore} {r : IncidentRecord}

theorem Filed.fresh (h : Filed uuid s) {n : Nat} (later : s.drawn < n) :
    s.recordsById.get (uuid.text n) = none := by
  cases found : s.recordsById.get (uuid.text n) with
  | none => rfl
  | some r =>
    obtain ⟨_, _, _, m, bound, same⟩ := h.stored _ r found
    have := uuid.distinct same
    omega

theorem Filed.drawing (h : Filed uuid s) : Filed uuid { s with drawn := s.drawn + 1 } := by
  refine ⟨h.indexed, fun i r stored => ?_⟩
  obtain ⟨id, tenant, indexed, n, bound, name⟩ := h.stored i r stored
  exact ⟨id, tenant, indexed, n, Nat.le_succ_of_le bound, name⟩

/-- What was found is filed under what was asked for. -/
theorem Filed.found (h : Filed uuid s) {tenantId incidentKey : String} (tenant : isUuid tenantId = true)
    (found : s.find tenantId incidentKey = some r) :
    s.recordsById.get r.id = some r ∧ r.tenantId = tenantId ∧ r.incidentKey = incidentKey := by
  obtain ⟨i, indexed, stored⟩ := Option.bind_eq_some_iff.mp found
  obtain ⟨r', stored', filed⟩ := h.indexed _ i indexed
  rw [stored] at stored'
  cases stored'
  obtain ⟨id, tenant', _, _⟩ := h.stored i r stored
  obtain ⟨same, key⟩ := join_inj (uuid_no_colon tenant') (uuid_no_colon tenant) filed
  exact ⟨id ▸ stored, same, key⟩

theorem Filed.unindexed (h : Filed uuid s) {tenantId incidentKey : String}
    (missing : s.find tenantId incidentKey = none) :
    s.recordIdByKey.get (key tenantId incidentKey) = none := by
  cases indexed : s.recordIdByKey.get (key tenantId incidentKey) with
  | none => rfl
  | some i =>
    obtain ⟨r, stored, _⟩ := h.indexed _ i indexed
    rw [IncidentStore.find, indexed, Option.bind_some, stored] at missing
    cases missing

/-- Exactly the record that is found has this tenant and key. -/
theorem Filed.matching (h : Filed uuid s) {tenantId incidentKey : String}
    (tenant : isUuid tenantId = true) (found : s.find tenantId incidentKey = some r) :
    s.matching tenantId incidentKey = [r] := by
  obtain ⟨stored, rfl, rfl⟩ := h.found tenant found
  have nodup : s.recordsById.values.Nodup :=
    InsertionMap.values_nodup (f := IncidentRecord.id) fun i r hr => (h.stored i r hr).1
  refine filter_only nodup ((s.recordsById.mem_values r).mpr ⟨r.id, stored⟩) (by simp) ?_
  intro u member same
  obtain ⟨i, hi⟩ := (s.recordsById.mem_values u).mp member
  simp only [Bool.and_eq_true, beq_iff_eq] at same
  have filed := (h.stored i u hi).2.2.1
  rw [same.1, same.2, (h.stored _ r stored).2.2.1] at filed
  cases filed
  rw [stored] at hi
  exact (Option.some.inj hi).symm

/-- The incident store after a call: what was filed is filed still. -/
def Kept (uuid : Supply) (s t : IncidentStore) : Prop :=
  Filed uuid s → Filed uuid t ∧
    ∀ tenantId incidentKey, (s.find tenantId incidentKey).isSome = true →
      (t.find tenantId incidentKey).isSome = true

theorem Kept.refl (s : IncidentStore) : Kept uuid s s := fun h => ⟨h, fun _ _ hf => hf⟩

theorem Kept.trans {t u : IncidentStore} (first : Kept uuid s t) (second : Kept uuid t u) :
    Kept uuid s u := by
  intro filed
  obtain ⟨filed, found⟩ := first filed
  obtain ⟨filed, found'⟩ := second filed
  exact ⟨filed, fun tenantId key h => found' tenantId key (found tenantId key h)⟩

theorem find_insert (h : Filed uuid s) {tenantId incidentKey : String}
    (known : (s.find tenantId incidentKey).isSome = true) :
    ((s.insert r).find tenantId incidentKey).isSome = true := by
  cases indexed : s.recordIdByKey.get (key tenantId incidentKey) with
  | none => simp [IncidentStore.find, indexed] at known
  | some i =>
    obtain ⟨r', stored, _⟩ := h.indexed _ i indexed
    simp only [IncidentStore.find, IncidentStore.insert, InsertionMap.get_set]
    split
    · simp
    · rw [indexed, Option.bind_some]
      split <;> simp [stored]

theorem find_inserted (s : IncidentStore) (r : IncidentRecord) :
    (s.insert r).find r.tenantId r.incidentKey = some r := by
  simp [IncidentStore.find, IncidentStore.insert]

/-- A record under a new id and a free key. -/
theorem insert_fresh (h : Filed uuid s) (id : r.id = uuid.text (s.drawn + 1))
    (tenant : isUuid r.tenantId = true)
    (free : s.recordIdByKey.get (key r.tenantId r.incidentKey) = none) :
    Filed uuid (({ s with drawn := s.drawn + 1 } : IncidentStore).insert r) := by
  have absent := h.fresh (Nat.lt_succ_self s.drawn)
  refine ⟨?_, ?_⟩
  · intro k i indexed
    simp only [IncidentStore.insert, InsertionMap.get_set] at indexed ⊢
    split at indexed
    · rename_i same
      cases indexed
      exact ⟨r, if_pos rfl, same.symm⟩
    · obtain ⟨r', stored, filed⟩ := h.indexed k i indexed
      have other : i ≠ r.id := by
        rintro rfl
        rw [id, absent] at stored
        cases stored
      exact ⟨r', by rw [if_neg other, stored], filed⟩
  · intro i r' stored
    simp only [IncidentStore.insert, InsertionMap.get_set] at stored ⊢
    split at stored
    · rename_i same
      cases stored
      exact ⟨same.symm, tenant, by rw [if_pos rfl, same], _, Nat.le_refl _, same.trans id⟩
    · obtain ⟨rid, tenant', indexed, n, bound, name⟩ := h.stored i r' stored
      have other : key r'.tenantId r'.incidentKey ≠ key r.tenantId r.incidentKey := by
        intro same
        rw [same, free] at indexed
        cases indexed
      exact ⟨rid, tenant', by rw [if_neg other, indexed], n, Nat.le_succ_of_le bound, name⟩

/-- A record is rewritten in its place. -/
theorem insert_same (h : Filed uuid s) {r' : IncidentRecord} (stored : s.recordsById.get r.id = some r)
    (id : r'.id = r.id) (tenant : r'.tenantId = r.tenantId) (keyed : r'.incidentKey = r.incidentKey) :
    Filed uuid (s.insert r') := by
  obtain ⟨_, uuid_, indexed, n, bound, name⟩ := h.stored _ r stored
  refine ⟨?_, ?_⟩
  · intro k i there
    simp only [IncidentStore.insert, InsertionMap.get_set, id, tenant, keyed] at there ⊢
    split at there
    · rename_i same
      cases there
      exact ⟨r', if_pos rfl, by rw [tenant, keyed, same]⟩
    · rename_i other
      obtain ⟨u, hu, filed⟩ := h.indexed k i there
      have apart : i ≠ r.id := by
        rintro rfl
        rw [stored] at hu
        cases hu
        exact other filed.symm
      exact ⟨u, by rw [if_neg apart, hu], filed⟩
  · intro i u there
    simp only [IncidentStore.insert, InsertionMap.get_set, id, tenant, keyed] at there ⊢
    split at there
    · rename_i same
      cases there
      rw [tenant, keyed, if_pos rfl]
      exact ⟨id.trans same.symm, uuid_, congrArg some same.symm, n, bound, same.trans name⟩
    · rename_i other
      obtain ⟨uid, tenant', indexed', m, bound', name'⟩ := h.stored i u there
      have apart : key u.tenantId u.incidentKey ≠ key r.tenantId r.incidentKey := by
        intro same
        rw [same, indexed] at indexed'
        exact other (Option.some.inj indexed').symm
      exact ⟨uid, tenant', by rw [if_neg apart, indexed'], m, bound', name'⟩

theorem create_ends (s : IncidentStore) (now : Instant) (tenantId : String)
    (params : CreateIncidentParams) :
    (create uuid now tenantId params).Ends s fun x t => Kept uuid s t ∧
      ∀ r, x = .ok r → ∃ parsed, params.parse = some parsed ∧ isUuid tenantId = true ∧
        (t.find tenantId parsed.incidentKey).isSome = true := by
  refine Store.Ends.require_bind (fun _ => ⟨.refl s, by rintro r ⟨⟩⟩) fun tenant => ?_
  cases parse : params.parse with
  | none => exact Store.Ends.throw ⟨.refl s, by rintro r ⟨⟩⟩
  | some parsed =>
    dsimp only
    refine Store.Ends.read_bind ?_
    cases found : s.find tenantId parsed.incidentKey with
    | some r =>
      refine Store.Ends.pure ⟨.refl s, fun _ _ => ⟨parsed, rfl, tenant, ?_⟩⟩
      rw [found]
      rfl
    | none =>
      refine Store.Ends.modify_bind (Store.Ends.read_bind (Store.Ends.modify_bind
        (Store.Ends.pure ⟨fun h => ⟨?_, fun t k known => ?_⟩, fun _ _ => ⟨parsed, rfl, tenant, ?_⟩⟩)))
      · exact insert_fresh h rfl tenant (h.unindexed found)
      · exact find_insert h.drawing known
      · have there := find_inserted { s with drawn := s.drawn + 1 }
          (openedRecord (uuid.text (s.drawn + 1)) tenantId parsed now)
        exact there ▸ rfl

/-- For a tenant and parameters that pass their schemas the call returns. -/
theorem create_returns (s : IncidentStore) (now : Instant) {tenantId : String}
    {params parsed : CreateIncidentParams} (tenant : isUuid tenantId = true)
    (parse : params.parse = some parsed) :
    (create uuid now tenantId params).Ends s fun x t => (∃ r, x = .ok r) ∧
      (t.find tenantId parsed.incidentKey).isSome = true := by
  refine Store.Ends.require_bind (fun refused => absurd tenant refused) fun _ => ?_
  rw [parse]
  refine Store.Ends.read_bind ?_
  cases found : s.find tenantId parsed.incidentKey with
  | some r =>
    refine Store.Ends.pure ⟨⟨r, rfl⟩, ?_⟩
    rw [found]
    rfl
  | none =>
    refine Store.Ends.modify_bind (Store.Ends.read_bind (Store.Ends.modify_bind
      (Store.Ends.pure ⟨⟨_, rfl⟩, ?_⟩)))
    have there := find_inserted { s with drawn := s.drawn + 1 }
      (openedRecord (uuid.text (s.drawn + 1)) tenantId parsed now)
    exact there ▸ rfl

/-- The same of a health record, as far as its columns reach. -/
theorem record_returns (backend : Backend) (t : ComponentHealthStore) (now : Instant)
    {tenantId : String} {params parsed : RecordComponentHealthParams}
    (tenant : isUuid tenantId = true) (parse : params.parse = some parsed) :
    (ComponentHealthStore.record backend uuid now tenantId params).Ends t fun x _ =>
      (∃ r, x = .ok r) ↔
        (backend = .postgres → ComponentHealthStore.fitsColumns parsed = true) := by
  refine Store.Ends.require_bind (fun refused => absurd tenant refused) fun _ => ?_
  rw [parse]
  refine Store.Ends.require_bind (fun large => ?_) fun fits => Store.Ends.read_bind ?_
  · exact ⟨by rintro ⟨r, ⟨⟩⟩, fun fits => absurd fits large⟩
  · split
    · exact Store.Ends.pure ⟨fun _ => fits, fun _ => ⟨_, rfl⟩⟩
    · refine Store.Ends.modify_bind (Store.Ends.read_bind (Store.Ends.modify_bind
        (Store.Ends.pure ⟨fun _ => fits, fun _ => ⟨_, rfl⟩⟩)))

theorem upsertFailure_ends (s : IncidentStore) (now : Instant) (phase : FailurePhase)
    {action : ExternalActionRecord} (tenant : isUuid action.tenantId = true) :
    (upsertFailure uuid now phase action).Ends s fun _ t => Kept uuid s t := by
  refine Store.Ends.read_bind ?_
  cases found : s.find action.tenantId (failureKey action) with
  | some r =>
    intro h
    obtain ⟨stored, _, _⟩ := h.found tenant found
    exact ⟨insert_same h stored rfl rfl rfl, fun t k known => find_insert h known⟩
  | none =>
    refine Store.Ends.modify_bind (Store.Ends.read_bind ?_)
    intro h
    exact ⟨insert_fresh h rfl tenant (h.unindexed found), fun t k known => find_insert h.drawing known⟩

end

end VantGrowth.Proofs.IncidentFiling
