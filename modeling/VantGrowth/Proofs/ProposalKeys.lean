import VantGrowth.Proofs.ProposalLifecycle

namespace VantGrowth.Proofs.ProposalKeys
open Core Db Db.LearningProposalStore Lib Lib.Text ProposalEffects ProposalLifecycle

/-- What of a proposal no call changes. -/
structure Origin (π : Type) where
  id : String
  tenantId : String
  proposalKey : String
  experimentId : Option String
  risk : ChangeRisk
  proposalPayload : π

def origin (p : LearningProposalRecord π) : Origin π :=
  ⟨p.id, p.tenantId, p.proposalKey, p.experimentId, p.risk, p.proposalPayload⟩

theorem change_origin {now : Instant} {op : ProposalOperation π} {id : String}
    {p q : LearningProposalRecord π} {e : Lease.Event String Instant}
    (change : Change now op id p e q) : origin q = origin p := by
  cases change <;> rfl

/-- The rows and the unique index name each other. -/
structure Indexed (s : LearningProposalStore π) : Prop where
  listed : ∀ i p, s.recordsById.get i = some p →
    isUuid p.tenantId = true ∧ s.recordIdByKey.get (key p.tenantId p.proposalKey) = some i
  named : ∀ k i, s.recordIdByKey.get k = some i →
    ∃ p, s.recordsById.get i = some p ∧ key p.tenantId p.proposalKey = k

theorem empty_indexed : Indexed (empty : LearningProposalStore π) :=
  ⟨by simp [empty], by simp [empty]⟩

theorem Indexed.unclaimed {s : LearningProposalStore π} (h : Indexed s) {k : String}
    (vacant : (s.recordIdByKey.get k).bind s.recordsById.get = none) :
    s.recordIdByKey.get k = none := by
  cases hk : s.recordIdByKey.get k with
  | none => rfl
  | some i =>
    obtain ⟨p, hp, _⟩ := h.named k i hk
    rw [hk, Option.bind_some, hp] at vacant
    cases vacant

theorem effect_indexed {uuid : Supply} {now : Instant} {op : ProposalOperation π}
    {s t : LearningProposalStore π} {o : Option (String × Lease.Event String Instant)}
    (sound : Sound uuid s) (h : Indexed s) (effect : Effect uuid now op s t o) : Indexed t := by
  cases effect with
  | kept records drawn outbox index =>
    refine ⟨?_, ?_⟩
    · rw [records, index]
      exact h.listed
    · rw [records, index]
      exact h.named
  | created params tenantId tenant drawn records outbox index vacant =>
    have free := h.unclaimed vacant
    refine ⟨?_, ?_⟩
    · intro i p hp
      rw [records, InsertionMap.get_set] at hp
      rw [index, InsertionMap.get_set]
      split at hp
      · rename_i hi
        cases hp
        rw [hi]
        exact ⟨tenant, if_pos rfl⟩
      · obtain ⟨valid, listed⟩ := h.listed i p hp
        refine ⟨valid, ?_⟩
        rw [if_neg, listed]
        intro same
        rw [same, free] at listed
        cases listed
    · intro k i hi
      rw [index, InsertionMap.get_set] at hi
      rw [records]
      split at hi
      · rename_i hk
        cases hi
        exact ⟨_, InsertionMap.get_set_self _ _ _, hk.symm⟩
      · obtain ⟨p, hp, hk⟩ := h.named k i hi
        refine ⟨p, ?_, hk⟩
        rw [InsertionMap.get_set, if_neg, hp]
        rintro rfl
        rw [sound.fresh] at hp
        cases hp
  | changed id p q e _ stored change records drawn outbox reported index =>
    have same := change_origin change
    have tenant : q.tenantId = p.tenantId := congrArg Origin.tenantId same
    have owner : key q.tenantId q.proposalKey = key p.tenantId p.proposalKey := by
      rw [tenant, show q.proposalKey = p.proposalKey from congrArg Origin.proposalKey same]
    refine ⟨?_, ?_⟩
    · intro i r hr
      rw [records, InsertionMap.get_set] at hr
      rw [index]
      split at hr
      · rename_i hi
        cases hr
        obtain ⟨valid, listed⟩ := h.listed id p stored
        rw [owner, hi, tenant]
        exact ⟨valid, listed⟩
      · exact h.listed i r hr
    · intro k i hi
      rw [index] at hi
      rw [records]
      obtain ⟨r, hr, hk⟩ := h.named k i hi
      by_cases hid : i = id
      · subst hid
        rw [stored] at hr
        cases hr
        exact ⟨q, InsertionMap.get_set_self _ _ _, owner.trans hk⟩
      · exact ⟨r, by rw [InsertionMap.get_set, if_neg hid, hr], hk⟩

/-- Two rows of one tenant and key are one row. -/
theorem Indexed.one_row {s : LearningProposalStore π} (h : Indexed s) {i j : String}
    {p q : LearningProposalRecord π} (hp : s.recordsById.get i = some p)
    (hq : s.recordsById.get j = some q) (tenant : p.tenantId = q.tenantId)
    (proposalKey : p.proposalKey = q.proposalKey) : i = j := by
  have listed := (h.listed i p hp).2
  rw [tenant, proposalKey, (h.listed j q hq).2] at listed
  exact (Option.some.inj listed).symm

/-- The row an index entry names has the parts of the entry's key. -/
theorem Indexed.row_of_key {s : LearningProposalStore π} (h : Indexed s)
    {tenantId proposalKey i : String} (valid : isUuid tenantId = true)
    (named : s.recordIdByKey.get (key tenantId proposalKey) = some i) :
    ∃ p, s.recordsById.get i = some p ∧ p.tenantId = tenantId ∧ p.proposalKey = proposalKey := by
  obtain ⟨p, hp, hk⟩ := h.named _ i named
  obtain ⟨ht, hkey⟩ := join_inj (uuid_no_colon (h.listed i p hp).1) (uuid_no_colon valid) hk
  exact ⟨p, hp, ht, hkey⟩

section
variable {uuid : Supply} {now : Instant} {s : LearningProposalStore π} {tenantId : String}
  {raw params : CreateLearningProposalParams π}

/-- A creation whose arguments pass their schemas answers. -/
theorem inMemory_answers (tenant : isUuid tenantId = true) (parsed : raw.parse = some params) :
    (InMemoryLearningProposalRepository.create uuid now tenantId raw).Ends s
      fun x _ => ∃ p, x = .ok p := by
  have owner : uuidText tenantId = some tenantId := if_pos tenant
  unfold InMemoryLearningProposalRepository.create
  rw [owner, parsed]
  refine Store.Ends.pure_bind (Store.Ends.pure_bind (Store.Ends.read_bind ?_))
  split
  · exact Store.Ends.pure ⟨_, rfl⟩
  · exact randomUUID_bind (save_bind (Store.Ends.modify_bind (Store.Ends.pure ⟨_, rfl⟩)))

theorem postgres_answers (h : Indexed s) (tenant : isUuid tenantId = true)
    (parsed : raw.parse = some params) :
    (PostgresLearningProposalRepository.create uuid now tenantId raw).Ends s
      fun x _ => ∃ p, x = .ok p := by
  have owner : uuidText tenantId = some tenantId := if_pos tenant
  unfold PostgresLearningProposalRepository.create
  rw [owner, parsed]
  refine Store.Ends.pure_bind (Store.Ends.pure_bind (Store.Ends.read_bind ?_))
  split
  · exact randomUUID_bind (save_bind (Store.Ends.modify_bind (Store.Ends.pure ⟨_, rfl⟩)))
  · rename_i i named
    obtain ⟨p, stored, _⟩ := h.named _ i named
    refine Store.Ends.read_bind ?_
    rw [stored]
    exact Store.Ends.pure ⟨p, rfl⟩

end

/-- Every row of `s` is still there in `t`, of the same origin. -/
def Persists (s t : LearningProposalStore π) : Prop :=
  ∀ i p, s.recordsById.get i = some p →
    ∃ q, t.recordsById.get i = some q ∧ origin q = origin p

theorem effect_persists {uuid : Supply} {now : Instant} {op : ProposalOperation π}
    {s t : LearningProposalStore π} {o : Option (String × Lease.Event String Instant)}
    (sound : Sound uuid s) (effect : Effect uuid now op s t o) : Persists s t := by
  intro i p hp
  cases effect with
  | kept records => exact ⟨p, by rw [records, hp], rfl⟩
  | created params tenantId tenant drawn records =>
    refine ⟨p, ?_, rfl⟩
    rw [records, InsertionMap.get_set, if_neg, hp]
    rintro rfl
    rw [sound.fresh] at hp
    cases hp
  | changed id r q e _ stored change records =>
    rw [records]
    by_cases hi : i = id
    · subst hi
      rw [stored] at hp
      cases hp
      exact ⟨q, InsertionMap.get_set_self _ _ _, change_origin change⟩
    · exact ⟨p, by rw [InsertionMap.get_set, if_neg hi, hp], rfl⟩

theorem Persists.refl (s : LearningProposalStore π) : Persists s s := fun _ p hp => ⟨p, hp, rfl⟩

theorem Persists.trans {s t u : LearningProposalStore π} (h : Persists s t) (k : Persists t u) :
    Persists s u := by
  intro i p hp
  obtain ⟨q, hq, same⟩ := h i p hp
  obtain ⟨r, hr, again⟩ := k i q hq
  exact ⟨r, hr, again.trans same⟩

section
variable (s : LearningProposalStore π)

theorem inMemory_getById (tenantId id : String) :
    (InMemoryLearningProposalRepository.getById tenantId id).Ends s fun x t => t = s ∧
      ∀ a, x = .ok a → a = s.findScopedRecord tenantId id := by
  refine parse_bind ⟨rfl, fun _ ha => by cases ha⟩ fun tenant ht => ?_
  obtain ⟨rfl, _⟩ := uuidText_some ht
  refine Store.Ends.read _ ⟨rfl, fun a ha => ?_⟩
  cases ha
  rfl

theorem postgres_getById (tenantId id : String) :
    (PostgresLearningProposalRepository.getById tenantId id).Ends s fun x t => t = s ∧
      ∀ a, x = .ok a → a = s.findScopedRecord tenantId id := by
  refine parse_bind ⟨rfl, fun _ ha => by cases ha⟩ fun tenant ht => ?_
  obtain ⟨rfl, _⟩ := uuidText_some ht
  refine parse_bind ⟨rfl, fun _ ha => by cases ha⟩ fun parsedId hid => ?_
  obtain ⟨rfl, _⟩ := uuidText_some hid
  refine Store.Ends.read _ ⟨rfl, fun a ha => ?_⟩
  cases ha
  rfl

/-- The row of a key that is its own trim. -/
def rowOfKey (tenantId proposalKey : String) : Option (LearningProposalRecord π) :=
  (s.recordIdByKey.get (key tenantId proposalKey)).bind (s.findScopedRecord tenantId)

/-- A lookup by key changes nothing and answers with the row of the key, if the
key is its own trim. -/
def Looks (tenantId proposalKey : String) (x : Except DbError (Option (LearningProposalRecord π)))
    (t : LearningProposalStore π) : Prop :=
  t = s ∧ (jsTrim proposalKey = proposalKey → ∀ a, x = .ok a →
    isUuid tenantId = true ∧ a = rowOfKey s tenantId proposalKey)

theorem inMemory_getByProposalKey (tenantId proposalKey : String) :
    (InMemoryLearningProposalRepository.getByProposalKey tenantId proposalKey).Ends s
      (Looks s tenantId proposalKey) := by
  refine parse_bind ⟨rfl, fun _ _ ha => by cases ha⟩ fun tenant ht => ?_
  obtain ⟨rfl, valid⟩ := uuidText_some ht
  refine Store.Ends.read_bind ?_
  split
  · rename_i hk
    refine Store.Ends.pure ⟨rfl, fun _ a ha => ?_⟩
    cases ha
    exact ⟨valid, by rw [rowOfKey, hk]; rfl⟩
  · rename_i i hk
    refine (inMemory_getById s tenant i).weaken ?_
    rintro x t ⟨rfl, answered⟩
    refine ⟨rfl, fun _ a ha => ⟨valid, ?_⟩⟩
    rw [rowOfKey, hk, Option.bind_some]
    exact answered a ha

theorem postgres_getByProposalKey (tenantId proposalKey : String) :
    (PostgresLearningProposalRepository.getByProposalKey tenantId proposalKey).Ends s
      (Looks s tenantId proposalKey) := by
  refine parse_bind ⟨rfl, fun _ _ ha => by cases ha⟩ fun tenant ht => ?_
  obtain ⟨rfl, valid⟩ := uuidText_some ht
  refine parse_bind ⟨rfl, fun _ _ ha => by cases ha⟩ fun parsedKey hk => ?_
  refine Store.Ends.read _ ⟨rfl, fun trimmed a ha => ?_⟩
  have same : parsedKey = proposalKey := by
    unfold nonEmptyText at hk
    split at hk
    · cases hk
    · exact (Option.some.inj hk).symm.trans trimmed
  subst same
  cases ha
  exact ⟨valid, rfl⟩

end

/-- A parsed text is trimmed. -/
theorem nonEmptyText_trimmed {s t : String} (h : nonEmptyText s = some t) :
    t = jsTrim s ∧ jsTrim t = t ∧ t ≠ "" := by
  unfold nonEmptyText at h
  split at h
  · cases h
  · rename_i filled
    cases h
    exact ⟨rfl, jsTrim_trim s, filled⟩

/-- The row a lookup by key answers with is stored, under the key's parts. -/
theorem rowOfKey_stored {s : LearningProposalStore π} (h : Indexed s) {tenantId proposalKey : String}
    {q : LearningProposalRecord π} (valid : isUuid tenantId = true)
    (found : rowOfKey s tenantId proposalKey = some q) :
    ∃ i, s.recordsById.get i = some q ∧ q.tenantId = tenantId ∧ q.proposalKey = proposalKey := by
  obtain ⟨i, hi, hq⟩ := Option.bind_eq_some_iff.mp found
  obtain ⟨stored, owner⟩ := scoped_stored hq
  obtain ⟨p, hp, _, keyed⟩ := h.row_of_key valid hi
  rw [stored] at hp
  cases hp
  exact ⟨i, stored, owner, keyed⟩

end VantGrowth.Proofs.ProposalKeys
