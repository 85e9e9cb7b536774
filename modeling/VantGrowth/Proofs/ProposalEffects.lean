import VantGrowth.Db.LearningProposalCalls

namespace VantGrowth.Proofs.ProposalEffects
open Db Db.LearningProposalStore Lib Lib.Text

/-- How the call `op` may rewrite the proposal `id` at time `now`, with what
that does to its lease. -/
inductive Change (now : Instant) (op : ProposalOperation π) (id : String)
    (p : LearningProposalRecord π) :
    Lease.Event String Instant → LearningProposalRecord π → Prop where
  | evaluated (params : RecordLearningProposalEvaluationParams)
      (status : p.status.evaluable = true) (free : hasActivePromotionClaim p now = false)
      (asked : ∃ raw, op = .recordEvaluation p.tenantId id raw ∧ raw.parse = some params) :
      Change now op id p .revoke (evaluated params now p)
  | approved (approver : String) (status : p.status = .requires_approval)
      (asked : ∃ raw, (op = .approve p.tenantId id raw ∨ op = .approveAndEnqueue p.tenantId id raw)
        ∧ nonEmptyText raw = some approver) :
      Change now op id p .revoke (approvedBy approver now p)
  | claimed (token : String) (expiresAt : Instant) (status : p.status = .approved)
      (free : hasActivePromotionClaim p now = false)
      (asked : ∃ options, op = .claimPromotion p.tenantId id options) :
      Change now op id p (.issue token expiresAt) (claimedWith token expiresAt now p)
  | promoted (token versionRef : String) (status : p.status = .approved)
      (held : p.promotionClaimToken = some token)
      (active : hasActivePromotionClaim p now = true)
      (asked : ∃ raw, op = .markPromoted p.tenantId id raw token ∧
        nonEmptyText raw = some versionRef) :
      Change now op id p (.redeem token) (promotedTo versionRef now p)
  | rolledBack (versionRef : String) (status : p.status = .promoted)
      (asked : ∃ raw, op = .markRolledBack p.tenantId id raw ∧
        nonEmptyText raw = some versionRef) :
      Change now op id p .idle (rolledBackTo versionRef now p)

/-- Everything a call can do to the rows, with the lease event it reports. -/
inductive Effect (uuid : Supply) (now : Instant) (op : ProposalOperation π)
    (s t : LearningProposalStore π) :
    Option (String × Lease.Event String Instant) → Prop where
  | kept (records : t.recordsById = s.recordsById) (drawn : s.drawn ≤ t.drawn)
      (outbox : t.outboxRepository = s.outboxRepository)
      (index : t.recordIdByKey = s.recordIdByKey) : Effect uuid now op s t none
  | created (params : CreateLearningProposalParams π) (tenantId : String)
      (tenant : isUuid tenantId = true) (drawn : s.drawn < t.drawn)
      (records : t.recordsById = s.recordsById.set (uuid.text (s.drawn + 1))
        (newRecord params (uuid.text (s.drawn + 1)) tenantId now))
      (outbox : t.outboxRepository = s.outboxRepository)
      (index : t.recordIdByKey =
        s.recordIdByKey.set (key tenantId params.proposalKey) (uuid.text (s.drawn + 1)))
      (vacant : (s.recordIdByKey.get (key tenantId params.proposalKey)).bind
        s.recordsById.get = none)
      (asked : ∃ raw, op = .create tenantId raw ∧ raw.parse = some params) :
      Effect uuid now op s t none
  | changed (id : String) (p q : LearningProposalRecord π) (e : Lease.Event String Instant)
      (o : Option (String × Lease.Event String Instant))
      (stored : s.recordsById.get id = some p) (change : Change now op id p e q)
      (records : t.recordsById = s.recordsById.set id q) (drawn : s.drawn ≤ t.drawn)
      (outbox : t.outboxRepository = s.outboxRepository ∨
        InMemoryOutboxRepository.Sends (learningProposalApprovalOutboxCommand q)
          s.outboxRepository t.outboxRepository)
      (reported : o = some (id, e) ∨ o = none ∧ e = .idle)
      (index : t.recordIdByKey = s.recordIdByKey) : Effect uuid now op s t o

theorem parse_bind {s : LearningProposalStore π} {value : Option α} {g : α → ProposalStore π β}
    {Q : Except DbError β → LearningProposalStore π → Prop} (refused : Q (.error .zod) s)
    (parsed : ∀ a, value = some a → (g a).Ends s Q) : (parse value >>= g).Ends s Q := by
  cases value with
  | none => exact Store.Ends.throw_bind refused
  | some a => exact Store.Ends.pure_bind (parsed a rfl)

theorem uuidText_some {s t : String} (h : uuidText s = some t) : t = s ∧ isUuid t = true := by
  unfold uuidText at h
  split at h
  · cases h
    exact ⟨rfl, ‹_›⟩
  · cases h

theorem scoped_stored {s : LearningProposalStore π} {tenantId id : String}
    {p : LearningProposalRecord π} (h : s.findScopedRecord tenantId id = some p) :
    s.recordsById.get id = some p ∧ p.tenantId = tenantId := by
  obtain ⟨hp, ht⟩ := Option.filter_eq_some_iff.mp h
  exact ⟨hp, by simpa using ht⟩

theorem randomUUID_bind {s : LearningProposalStore π} {uuid : Supply}
    {g : String → ProposalStore π β} {Q : Except DbError β → LearningProposalStore π → Prop}
    (h : (g (uuid.text (s.drawn + 1))).Ends { s with drawn := s.drawn + 1 } Q) :
    (randomUUID uuid >>= g).Ends s Q := h

theorem save_bind {s : LearningProposalStore π} {id : String} {p : LearningProposalRecord π}
    {g : Unit → ProposalStore π β} {Q : Except DbError β → LearningProposalStore π → Prop}
    (h : (g ()).Ends { s with recordsById := s.recordsById.set id p } Q) :
    (save id p >>= g).Ends s Q := h

/-- What a call that answers with an option does and says: a record in its
answer is the record as the call left it. -/
structure Reports (uuid : Supply) (now : Instant) (op : ProposalOperation π)
    (s : LearningProposalStore π) (event : α → String × Lease.Event String Instant)
    (record : α → LearningProposalRecord π) (x : Except DbError (Option α))
    (t : LearningProposalStore π) : Prop where
  effect : Effect uuid now op s t (answer (x, t) event).2
  answered : ∀ a, x = .ok (some a) → t.recordsById.get (event a).1 = some (record a)

/-- What a creation does and says. -/
structure Creates (uuid : Supply) (now : Instant) (tenantId : String)
    (raw : CreateLearningProposalParams π) (s : LearningProposalStore π)
    (x : Except DbError (LearningProposalRecord π)) (t : LearningProposalStore π) : Prop where
  effect : Effect uuid now (.create tenantId raw) s t none
  answered : ∀ p, x = .ok p → ∃ params i, raw.parse = some params ∧ isUuid tenantId = true ∧
    t.recordIdByKey.get (key tenantId params.proposalKey) = some i ∧
    t.recordsById.get i = some p

theorem unchanged {uuid : Supply} {now : Instant} {op : ProposalOperation π}
    {s : LearningProposalStore π} : Effect uuid now op s s none :=
  .kept rfl (Nat.le_refl _) rfl rfl

theorem drawn_only {uuid : Supply} {now : Instant} {op : ProposalOperation π}
    {s : LearningProposalStore π} : Effect uuid now op s { s with drawn := s.drawn + 1 } none :=
  .kept rfl (Nat.le_succ _) rfl rfl

section
variable {uuid : Supply} {now : Instant} {op : ProposalOperation π}
  {s : LearningProposalStore π} {event : α → String × Lease.Event String Instant}
  {record : α → LearningProposalRecord π}

theorem reports_answer {m : ProposalStore π (Option α)}
    (h : m.Ends s (Reports uuid now op s event record)) :
    Effect uuid now op s (answer (m.run s) event).1 (answer (m.run s) event).2 := by
  have effect := Reports.effect h
  rcases hm : m.run s with ⟨x, t⟩
  rw [hm] at effect
  cases x with
  | error e => exact effect
  | ok o =>
    cases o with
    | none => exact effect
    | some a => exact effect

theorem thrown {e : DbError} {t : LearningProposalStore π} (effect : Effect uuid now op s t none) :
    Reports uuid now op s event record (.error e) t :=
  ⟨effect, fun _ ha => by cases ha⟩

theorem declined {t : LearningProposalStore π} (effect : Effect uuid now op s t none) :
    Reports uuid now op s event record (.ok none) t :=
  ⟨effect, fun _ ha => by cases ha⟩

/-- The call rewrote one record and answers with it. -/
theorem rewritten {t : LearningProposalStore π} {a : α} {p : LearningProposalRecord π}
    (stored : s.recordsById.get (event a).1 = some p)
    (change : Change now op (event a).1 p (event a).2 (record a))
    (records : t.recordsById = s.recordsById.set (event a).1 (record a)) (drawn : s.drawn ≤ t.drawn)
    (outbox : t.outboxRepository = s.outboxRepository ∨
      InMemoryOutboxRepository.Sends (learningProposalApprovalOutboxCommand (record a))
        s.outboxRepository t.outboxRepository)
    (index : t.recordIdByKey = s.recordIdByKey) :
    Reports uuid now op s event record (.ok (some a)) t := by
  refine ⟨.changed _ p _ _ _ stored change records drawn outbox (Or.inl rfl) index, ?_⟩
  intro b hb
  cases hb
  rw [records, InsertionMap.get_set_self]

end

section
variable {π : Type} (uuid : Supply) (now : Instant) (s : LearningProposalStore π)

theorem inMemory_evaluation (tenantId id : String)
    (params : RecordLearningProposalEvaluationParams) :
    (InMemoryLearningProposalRepository.recordEvaluation now tenantId id params).Ends s
      (Reports uuid now (.recordEvaluation tenantId id params) s (fun _ => (id, .revoke)) fun q => q) := by
  refine parse_bind (thrown unchanged) fun tenant ht => ?_
  obtain ⟨rfl, _⟩ := uuidText_some ht
  refine parse_bind (thrown unchanged) fun parsed hparsed => ?_
  refine Store.Ends.read_bind ?_
  split
  · exact Store.Ends.pure (declined unchanged)
  · rename_i p hp
    obtain ⟨stored, rfl⟩ := scoped_stored hp
    refine Store.Ends.ite (fun _ => Store.Ends.pure (declined unchanged)) fun guard => ?_
    simp only [not_or, Bool.not_eq_false, Bool.not_eq_true] at guard
    refine save_bind (Store.Ends.pure ?_)
    exact rewritten stored (.evaluated parsed guard.1 guard.2 ⟨params, rfl, hparsed⟩) rfl
      (Nat.le_refl _) (Or.inl rfl) rfl

theorem approval_valid {p : LearningProposalRecord π} (tenant : isUuid p.tenantId = true) :
    (learningProposalApprovalOutboxCommand p).valid = true := by
  have type : isOutboxEventType learningProposalApprovedEventType = true := by decide
  simp [EnqueueOutboxEvent.valid, learningProposalApprovalOutboxCommand, tenant, type,
    join_ne_empty]

theorem enqueue_ends {s : LearningProposalStore π} {command : EnqueueOutboxEvent}
    (h : s.outboxRepository.Consistent) (valid : command.valid = true) :
    (enqueue now command).Ends s fun x t => (∃ e, x = .ok e) ∧
      t.recordsById = s.recordsById ∧ t.recordIdByKey = s.recordIdByKey ∧ t.drawn = s.drawn ∧
      InMemoryOutboxRepository.Sends command s.outboxRepository t.outboxRepository := by
  refine Store.Ends.zoom (InMemoryOutboxRepository.enqueue_sends h now valid) ?_
  rintro x o ⟨answered, sends⟩
  exact ⟨answered, rfl, rfl, rfl, sends⟩

theorem inMemory_approval (h : s.outboxRepository.Consistent) {op : ProposalOperation π}
    (tenantId id approver : String)
    (named : op = .approve tenantId id approver ∨ op = .approveAndEnqueue tenantId id approver) :
    (InMemoryLearningProposalRepository.approveAndEnqueue now tenantId id approver).Ends s
      (Reports uuid now op s (fun _ => (id, .revoke)) Prod.fst) := by
  refine parse_bind (thrown unchanged) fun tenant ht => ?_
  obtain ⟨rfl, valid⟩ := uuidText_some ht
  refine parse_bind (thrown unchanged) fun parsed hparsed => ?_
  refine Store.Ends.read_bind ?_
  split
  · exact Store.Ends.pure (declined unchanged)
  · rename_i p hp
    obtain ⟨stored, rfl⟩ := scoped_stored hp
    refine Store.Ends.ite (fun _ => Store.Ends.pure (declined unchanged)) fun guard => ?_
    rw [not_not] at guard
    refine save_bind ?_
    refine Store.Ends.tryCatch (R := fun x t => (∃ a, x = .ok (some a)) ∧
      Reports uuid now op s (fun _ => (id, .revoke)) Prod.fst x t) ?_ ?_ ?_
    · refine Store.Ends.bind (enqueue_ends now h (approval_valid valid)) ?_ ?_
      · rintro e t ⟨⟨d, hd⟩, _⟩
        cases hd
      · rintro d t ⟨_, records, index, drawn, sends⟩
        refine Store.Ends.pure ⟨⟨_, rfl⟩, ?_⟩
        exact rewritten stored (.approved parsed guard ⟨approver, named, hparsed⟩) records
          drawn.ge (Or.inr sends) index
    · rintro o t ⟨_, reports⟩
      exact reports
    · rintro e t ⟨⟨a, ha⟩, _⟩
      cases ha

theorem inMemory_claim (tenantId id : String) (options : PromotionClaimOptions) :
    (InMemoryLearningProposalRepository.claimPromotion uuid now tenantId id options).Ends s
      (Reports uuid (options.now.getD now) (.claimPromotion tenantId id options) s
        (fun claim => (id, .issue claim.token claim.expiresAt)) (·.proposal)) := by
  refine parse_bind (thrown unchanged) fun tenant ht => ?_
  obtain ⟨rfl, _⟩ := uuidText_some ht
  refine Store.Ends.require_bind (fun _ => thrown unchanged) fun _ => ?_
  generalize options.now.getD now = now
  refine Store.Ends.read_bind ?_
  split
  · exact Store.Ends.pure (declined unchanged)
  · rename_i p hp
    obtain ⟨stored, rfl⟩ := scoped_stored hp
    refine Store.Ends.ite (fun _ => Store.Ends.pure (declined unchanged)) fun guard => ?_
    simp only [not_or, not_not, Bool.not_eq_true] at guard
    refine randomUUID_bind ?_
    split
    · exact Store.Ends.throw (thrown drawn_only)
    · rename_i expiresAt _
      refine save_bind (Store.Ends.pure ?_)
      exact rewritten stored (.claimed _ expiresAt guard.1 guard.2 ⟨options, rfl⟩) rfl
        (Nat.le_succ _) (Or.inl rfl) rfl

theorem inMemory_promotion (tenantId id versionRef token : String) :
    (InMemoryLearningProposalRepository.markPromoted now tenantId id versionRef token).Ends s
      (Reports uuid now (.markPromoted tenantId id versionRef token) s
        (fun _ => (id, .redeem token)) fun q => q) := by
  refine parse_bind (thrown unchanged) fun tenant ht => ?_
  obtain ⟨rfl, _⟩ := uuidText_some ht
  refine parse_bind (thrown unchanged) fun parsed hparsed => ?_
  refine parse_bind (thrown unchanged) fun claimToken hc => ?_
  obtain ⟨rfl, _⟩ := uuidText_some hc
  refine Store.Ends.read_bind ?_
  split
  · exact Store.Ends.pure (declined unchanged)
  · rename_i p hp
    obtain ⟨stored, rfl⟩ := scoped_stored hp
    refine Store.Ends.ite (fun _ => Store.Ends.pure (declined unchanged)) fun guard => ?_
    simp only [not_or, not_not, Bool.not_eq_false] at guard
    refine save_bind (Store.Ends.pure ?_)
    exact rewritten stored
      (.promoted claimToken parsed guard.1 guard.2.1 guard.2.2 ⟨versionRef, rfl, hparsed⟩) rfl
      (Nat.le_refl _) (Or.inl rfl) rfl

theorem inMemory_rollback (tenantId id versionRef : String) :
    (InMemoryLearningProposalRepository.markRolledBack now tenantId id versionRef).Ends s
      fun _ t => Effect uuid now (.markRolledBack tenantId id versionRef) s t none := by
  refine parse_bind unchanged fun tenant ht => ?_
  obtain ⟨rfl, _⟩ := uuidText_some ht
  refine parse_bind unchanged fun parsed hparsed => ?_
  refine Store.Ends.read_bind ?_
  split
  · exact Store.Ends.pure unchanged
  · rename_i p hp
    obtain ⟨stored, rfl⟩ := scoped_stored hp
    refine Store.Ends.ite (fun _ => Store.Ends.pure unchanged) fun guard => ?_
    rw [not_not] at guard
    refine save_bind (Store.Ends.pure ?_)
    exact .changed id p _ .idle none stored (.rolledBack parsed guard ⟨versionRef, rfl, hparsed⟩)
      rfl (Nat.le_refl _) (Or.inl rfl) (Or.inr ⟨rfl, rfl⟩) rfl

/-- Inserting a row under a key no row has. -/
theorem inserted {tenantId : String} {raw params : CreateLearningProposalParams π}
    (tenant : isUuid tenantId = true) (parsed : raw.parse = some params)
    (vacant : (s.recordIdByKey.get (key tenantId params.proposalKey)).bind s.recordsById.get =
      none) :
    Creates uuid now tenantId raw s (.ok (newRecord params (uuid.text (s.drawn + 1)) tenantId now))
      { s with
        drawn := s.drawn + 1
        recordsById := s.recordsById.set (uuid.text (s.drawn + 1))
          (newRecord params (uuid.text (s.drawn + 1)) tenantId now)
        recordIdByKey := s.recordIdByKey.set (key tenantId params.proposalKey)
          (uuid.text (s.drawn + 1)) } := by
  refine ⟨.created params tenantId tenant (Nat.lt_succ_self _) rfl rfl rfl vacant
    ⟨raw, rfl, parsed⟩, ?_⟩
  intro p hp
  cases hp
  exact ⟨params, uuid.text (s.drawn + 1), parsed, tenant, InsertionMap.get_set_self _ _ _,
    InsertionMap.get_set_self _ _ _⟩

theorem creation_refused {tenantId : String} {raw : CreateLearningProposalParams π} {e : DbError} :
    Creates uuid now tenantId raw s (.error e) s :=
  ⟨unchanged, fun _ hp => by cases hp⟩

theorem inMemory_creation (tenantId : String) (raw : CreateLearningProposalParams π) :
    (InMemoryLearningProposalRepository.create uuid now tenantId raw).Ends s
      (Creates uuid now tenantId raw s) := by
  refine parse_bind (creation_refused uuid now s) fun tenant ht => ?_
  obtain ⟨rfl, valid⟩ := uuidText_some ht
  refine parse_bind (creation_refused uuid now s) fun params hparams => ?_
  refine Store.Ends.read_bind ?_
  split
  · rename_i existing hs
    obtain ⟨i, hi, he⟩ := Option.bind_eq_some_iff.mp hs
    refine Store.Ends.pure ⟨unchanged, fun p hp => ?_⟩
    cases hp
    exact ⟨params, i, hparams, valid, hi, he⟩
  · rename_i hs
    refine randomUUID_bind (save_bind (Store.Ends.modify_bind (Store.Ends.pure ?_)))
    exact inserted uuid now s valid hparams hs

/-- A conditional update rewrites the row the condition holds of, or nothing. -/
theorem updateWhere_ends (tenantId id : String) (guard : LearningProposalRecord π → Bool)
    (set : LearningProposalRecord π → LearningProposalRecord π) :
    (PostgresLearningProposalRepository.updateWhere tenantId id guard set).Ends s fun x t =>
      (x = .ok none ∧ t = s) ∨ ∃ p, s.recordsById.get id = some p ∧ p.tenantId = tenantId ∧
        guard p = true ∧ x = .ok (some (set p)) ∧
        t = { s with recordsById := s.recordsById.set id (set p) } := by
  refine Store.Ends.read_bind ?_
  split
  · exact Store.Ends.pure (Or.inl ⟨rfl, rfl⟩)
  · rename_i p hp
    obtain ⟨found, guarded⟩ := Option.filter_eq_some_iff.mp hp
    obtain ⟨stored, owner⟩ := scoped_stored found
    exact save_bind (Store.Ends.pure (Or.inr ⟨p, stored, owner, guarded, rfl, rfl⟩))

/-- The SQL condition on the lease lets through only rows without an active
claim. -/
theorem claimable_free {p : LearningProposalRecord π}
    (h : PostgresLearningProposalRepository.claimable p now = true) :
    hasActivePromotionClaim p now = false := by
  unfold PostgresLearningProposalRepository.claimable at h
  unfold hasActivePromotionClaim
  cases ht : p.promotionClaimToken with
  | none => rfl
  | some token =>
    cases hx : p.promotionClaimExpiresAt with
    | none => rfl
    | some expiresAt => simpa [ht, hx] using h

/-- An update that answers with the row it wrote. -/
theorem update_reports {now : Instant} {op : ProposalOperation π} {tenantId id : String}
    {e : Lease.Event String Instant} {guard : LearningProposalRecord π → Bool}
    {set : LearningProposalRecord π → LearningProposalRecord π}
    (change : ∀ p, p.tenantId = tenantId → guard p = true → Change now op id p e (set p)) :
    (PostgresLearningProposalRepository.updateWhere tenantId id guard set).Ends s
      (Reports uuid now op s (fun _ => (id, e)) fun q => q) := by
  refine (updateWhere_ends s tenantId id guard set).weaken ?_
  rintro x t (⟨rfl, rfl⟩ | ⟨p, stored, owner, guarded, rfl, rfl⟩)
  · exact declined unchanged
  · exact rewritten stored (change p owner guarded) rfl (Nat.le_refl _) (Or.inl rfl) rfl

theorem postgres_evaluation (tenantId id : String)
    (params : RecordLearningProposalEvaluationParams) :
    (PostgresLearningProposalRepository.recordEvaluation now tenantId id params).Ends s
      (Reports uuid now (.recordEvaluation tenantId id params) s (fun _ => (id, .revoke)) fun q => q) := by
  refine parse_bind (thrown unchanged) fun tenant ht => ?_
  obtain ⟨rfl, _⟩ := uuidText_some ht
  refine parse_bind (thrown unchanged) fun parsedId hid => ?_
  obtain ⟨rfl, _⟩ := uuidText_some hid
  refine parse_bind (thrown unchanged) fun parsed hparsed => Store.Ends.read_bind ?_
  split
  · exact Store.Ends.pure (declined unchanged)
  · rename_i current _
    refine Store.Ends.ite (fun _ => Store.Ends.pure (declined unchanged)) fun seen => ?_
    simp only [not_or, Bool.not_eq_false, Bool.not_eq_true] at seen
    refine update_reports uuid s fun p owner guarded => ?_
    simp only [Bool.and_eq_true, beq_iff_eq] at guarded
    subst owner
    exact .evaluated parsed (guarded.1 ▸ seen.1) (claimable_free now guarded.2)
      ⟨params, rfl, hparsed⟩

theorem postgres_approval (h : s.outboxRepository.Consistent) {op : ProposalOperation π}
    (tenantId id approver : String)
    (named : op = .approve tenantId id approver ∨ op = .approveAndEnqueue tenantId id approver) :
    (PostgresLearningProposalRepository.approveAndEnqueue now tenantId id approver).Ends s
      (Reports uuid now op s (fun _ => (id, .revoke)) Prod.fst) := by
  refine parse_bind (thrown unchanged) fun tenant ht => ?_
  obtain ⟨rfl, valid⟩ := uuidText_some ht
  refine parse_bind (thrown unchanged) fun parsedId hid => ?_
  obtain ⟨rfl, _⟩ := uuidText_some hid
  refine parse_bind (thrown unchanged) fun parsed hparsed => ?_
  refine Store.Ends.transaction
    (R := Reports uuid now op s (fun _ => (parsedId, .revoke)) Prod.fst) ?_
    (fun _ _ h => h) (fun _ _ _ => thrown unchanged)
  refine Store.Ends.bind (updateWhere_ends s _ _ _ _) ?_ ?_
  · rintro e t (⟨he, _⟩ | ⟨p, _, _, _, he, _⟩)
    · cases he
    · cases he
  · rintro o t (⟨ho, rfl⟩ | ⟨p, stored, owner, guarded, ho, rfl⟩)
    · cases ho
      exact Store.Ends.pure (declined unchanged)
    · cases ho
      subst owner
      refine Store.Ends.bind (enqueue_ends now h (approval_valid valid)) ?_ ?_
      · rintro e t ⟨⟨d, hd⟩, _⟩
        cases hd
      · rintro d t ⟨_, records, index, drawn, sends⟩
        refine Store.Ends.pure ?_
        exact rewritten stored
          (.approved parsed (by simpa using guarded) ⟨approver, named, hparsed⟩) records
          drawn.ge (Or.inr sends) index

theorem postgres_claim (tenantId id : String) (options : PromotionClaimOptions) :
    (PostgresLearningProposalRepository.claimPromotion uuid now tenantId id options).Ends s
      (Reports uuid (options.now.getD now) (.claimPromotion tenantId id options) s
        (fun claim => (id, .issue claim.token claim.expiresAt)) (·.proposal)) := by
  refine parse_bind (thrown unchanged) fun tenant ht => ?_
  obtain ⟨rfl, _⟩ := uuidText_some ht
  refine parse_bind (thrown unchanged) fun parsedId hid => ?_
  obtain ⟨rfl, _⟩ := uuidText_some hid
  refine Store.Ends.require_bind (fun _ => thrown unchanged) fun _ => ?_
  generalize options.now.getD now = now
  refine randomUUID_bind ?_
  split
  · exact Store.Ends.throw (thrown drawn_only)
  · rename_i expiresAt _
    refine Store.Ends.bind (updateWhere_ends _ _ _ _ _) ?_ ?_
    · rintro e t (⟨he, _⟩ | ⟨p, _, _, _, he, _⟩)
      · cases he
      · cases he
    · rintro o t (⟨ho, rfl⟩ | ⟨p, stored, owner, guarded, ho, rfl⟩)
      · cases ho
        exact Store.Ends.pure (declined drawn_only)
      · cases ho
        subst owner
        simp only [Bool.and_eq_true, beq_iff_eq] at guarded
        refine Store.Ends.pure ?_
        exact rewritten stored
          (.claimed _ expiresAt guarded.1 (claimable_free now guarded.2) ⟨options, rfl⟩) rfl
          (Nat.le_succ _) (Or.inl rfl) rfl

theorem postgres_promotion (tenantId id versionRef token : String) :
    (PostgresLearningProposalRepository.markPromoted now tenantId id versionRef token).Ends s
      (Reports uuid now (.markPromoted tenantId id versionRef token) s
        (fun _ => (id, .redeem token)) fun q => q) := by
  refine parse_bind (thrown unchanged) fun tenant ht => ?_
  obtain ⟨rfl, _⟩ := uuidText_some ht
  refine parse_bind (thrown unchanged) fun parsedId hid => ?_
  obtain ⟨rfl, _⟩ := uuidText_some hid
  refine parse_bind (thrown unchanged) fun parsed hparsed => ?_
  refine parse_bind (thrown unchanged) fun claimToken hc => ?_
  obtain ⟨rfl, _⟩ := uuidText_some hc
  refine update_reports uuid s fun p owner guarded => ?_
  simp only [Bool.and_eq_true, beq_iff_eq] at guarded
  subst owner
  refine .promoted claimToken parsed guarded.1.1 guarded.1.2 ?_ ⟨versionRef, rfl, hparsed⟩
  simp [hasActivePromotionClaim, guarded.1.2, guarded.2]

theorem postgres_rollback (tenantId id versionRef : String) :
    (PostgresLearningProposalRepository.markRolledBack now tenantId id versionRef).Ends s
      fun _ t => Effect uuid now (.markRolledBack tenantId id versionRef) s t none := by
  refine parse_bind unchanged fun tenant ht => ?_
  obtain ⟨rfl, _⟩ := uuidText_some ht
  refine parse_bind unchanged fun parsedId hid => ?_
  obtain ⟨rfl, _⟩ := uuidText_some hid
  refine parse_bind unchanged fun parsed hparsed => ?_
  refine (updateWhere_ends s _ _ _ _).weaken ?_
  rintro x t (⟨_, rfl⟩ | ⟨p, stored, rfl, guarded, _, rfl⟩)
  · exact unchanged
  · exact .changed parsedId p _ .idle none stored
      (.rolledBack parsed (by simpa using guarded) ⟨versionRef, rfl, hparsed⟩) rfl
      (Nat.le_refl _) (Or.inl rfl) (Or.inr ⟨rfl, rfl⟩) rfl

theorem postgres_creation (tenantId : String) (raw : CreateLearningProposalParams π) :
    (PostgresLearningProposalRepository.create uuid now tenantId raw).Ends s
      (Creates uuid now tenantId raw s) := by
  refine parse_bind (creation_refused uuid now s) fun tenant ht => ?_
  obtain ⟨rfl, valid⟩ := uuidText_some ht
  refine parse_bind (creation_refused uuid now s) fun params hparams => ?_
  refine Store.Ends.read_bind ?_
  split
  · rename_i hs
    refine randomUUID_bind (save_bind (Store.Ends.modify_bind (Store.Ends.pure ?_)))
    exact inserted uuid now s valid hparams (by rw [hs]; rfl)
  · rename_i i hi
    refine Store.Ends.read_bind ?_
    split
    · rename_i existing he
      refine Store.Ends.pure ⟨unchanged, fun p hp => ?_⟩
      cases hp
      exact ⟨params, i, hparams, valid, hi, he⟩
    · exact Store.Ends.throw (creation_refused uuid now s)

/-- `approve` drops the event and keeps everything else. -/
theorem map_reports {now : Instant} {op : ProposalOperation π}
    {e : String × Lease.Event String Instant}
    {m : ProposalStore π (Option (LearningProposalRecord π × β))}
    (h : m.Ends s (Reports uuid now op s (fun _ => e) Prod.fst)) :
    (m >>= fun result => pure (result.map Prod.fst)).Ends s
      (Reports uuid now op s (fun _ => e) fun q => q) := by
  refine Store.Ends.bind h (fun _ _ h => thrown h.effect) ?_
  intro o t reports
  cases o with
  | none => exact Store.Ends.pure (declined reports.effect)
  | some a =>
    refine Store.Ends.pure ⟨reports.effect, fun b hb => ?_⟩
    cases hb
    exact reports.answered a rfl

theorem perform_effect (backend : Backend) (h : s.outboxRepository.Consistent)
    (call : ProposalCall π) :
    Effect uuid call.time call.operation s (perform backend uuid s call).1
      (perform backend uuid s call).2 := by
  obtain ⟨now, operation⟩ := call
  cases backend with
  | inMemory =>
    cases operation with
    | create tenantId params => exact (inMemory_creation uuid now s tenantId params).effect
    | recordEvaluation tenantId id params =>
      exact reports_answer (inMemory_evaluation uuid now s tenantId id params)
    | approve tenantId id approver =>
      exact reports_answer
        (map_reports uuid s (inMemory_approval uuid now s h tenantId id approver (Or.inl rfl)))
    | approveAndEnqueue tenantId id approver =>
      exact reports_answer (inMemory_approval uuid now s h tenantId id approver (Or.inr rfl))
    | claimPromotion tenantId id options =>
      exact reports_answer (inMemory_claim uuid now s tenantId id options)
    | markPromoted tenantId id versionRef token =>
      exact reports_answer (inMemory_promotion uuid now s tenantId id versionRef token)
    | markRolledBack tenantId id versionRef =>
      exact inMemory_rollback uuid now s tenantId id versionRef
  | postgres =>
    cases operation with
    | create tenantId params => exact (postgres_creation uuid now s tenantId params).effect
    | recordEvaluation tenantId id params =>
      exact reports_answer (postgres_evaluation uuid now s tenantId id params)
    | approve tenantId id approver =>
      exact reports_answer
        (map_reports uuid s (postgres_approval uuid now s h tenantId id approver (Or.inl rfl)))
    | approveAndEnqueue tenantId id approver =>
      exact reports_answer (postgres_approval uuid now s h tenantId id approver (Or.inr rfl))
    | claimPromotion tenantId id options =>
      exact reports_answer (postgres_claim uuid now s tenantId id options)
    | markPromoted tenantId id versionRef token =>
      exact reports_answer (postgres_promotion uuid now s tenantId id versionRef token)
    | markRolledBack tenantId id versionRef =>
      exact postgres_rollback uuid now s tenantId id versionRef

end

end VantGrowth.Proofs.ProposalEffects
