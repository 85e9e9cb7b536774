import VantGrowth.Proofs.SystemLogs

namespace VantGrowth.Proofs.ApprovalMessages
open Core Db Db.LearningProposalStore Lib Lib.Text Learning
open ProposalEffects ProposalLifecycle ProposalKeys WorldSteps WorkerAwaits SystemLogs ProposalTasks
open InMemoryOutboxRepository (Sends Consumes Consistent)

/-- The call sends nothing and consumes nothing. -/
def SameOutbox (m : ProposalStore π α) : Prop :=
  ∀ s, m.Ends s fun _ t => t.outboxRepository = s.outboxRepository

section
variable {π α β : Type} {m : ProposalStore π α} {f : α → ProposalStore π β}

theorem same_pure (a : α) : SameOutbox (pure a : ProposalStore π α) := fun _ => rfl

theorem same_bind (first : SameOutbox m) (next : ∀ a, SameOutbox (f a)) :
    SameOutbox (m >>= f) := by
  intro s
  refine Store.Ends.bind (first s) (fun _ _ same => same) fun a t same => ?_
  exact (next a t).weaken fun _ _ later => later.trans same

theorem same_parse {value : Option α} (next : ∀ a, SameOutbox (f a)) :
    SameOutbox (parse value >>= f) := by
  intro s
  exact parse_bind rfl fun a _ => next a s

theorem same_require {p : Prop} [Decidable p] {e : DbError} {g : Unit → ProposalStore π β}
    (next : SameOutbox (g ())) : SameOutbox (Store.require p e >>= g) := by
  intro s
  exact Store.Ends.require_bind (fun _ => rfl) fun _ => next s

theorem same_read {g : LearningProposalStore π → α} (next : ∀ a, SameOutbox (f a)) :
    SameOutbox (Store.read g >>= f) :=
  same_bind (fun _ => rfl) next

theorem same_save {id : String} {p : LearningProposalRecord π} {g : Unit → ProposalStore π β}
    (next : SameOutbox (g ())) : SameOutbox (save id p >>= g) :=
  same_bind (fun _ => rfl) fun _ => next

theorem same_draw {uuid : Supply} {g : String → ProposalStore π β}
    (next : ∀ id, SameOutbox (g id)) : SameOutbox (randomUUID uuid >>= g) :=
  same_bind (fun _ => rfl) next

theorem same_ite {p : Prop} [Decidable p] {m n : ProposalStore π α} (yes : SameOutbox m)
    (no : SameOutbox n) : SameOutbox (if p then m else n) := by
  intro s
  exact Store.Ends.ite (fun _ => yes s) fun _ => no s

variable (uuid : Supply) (now : Instant) (tenantId id : String)

theorem update_silent (guard : LearningProposalRecord π → Bool)
    (set : LearningProposalRecord π → LearningProposalRecord π) :
    SameOutbox (PostgresLearningProposalRepository.updateWhere tenantId id guard set) := by
  refine same_read fun row => ?_
  split
  · exact same_pure _
  · exact same_save (same_pure _)

theorem creation_silent (params : CreateLearningProposalParams π) :
    SameOutbox (InMemoryLearningProposalRepository.create uuid now tenantId params) ∧
      SameOutbox (PostgresLearningProposalRepository.create uuid now tenantId params) := by
  have inserted : ∀ (key : String) (record : String → LearningProposalRecord π),
      SameOutbox (do
        let id ← randomUUID uuid
        save (record id).id (record id)
        Store.modify fun s => { s with recordIdByKey := s.recordIdByKey.set key (record id).id }
        return record id) := by
    intro key record
    exact same_draw fun _ => same_save (same_bind (fun _ => rfl) fun _ => same_pure _)
  constructor
  · refine same_parse fun tenant => same_parse fun parsed => same_read fun found => ?_
    split
    · exact same_pure _
    · exact inserted _ fun id => newRecord parsed id tenant now
  · refine same_parse fun tenant => same_parse fun parsed => same_read fun found => ?_
    split
    · exact inserted _ fun id => newRecord parsed id tenant now
    · refine same_read fun existing => ?_
      split
      · exact same_pure _
      · exact fun _ => rfl

theorem evaluation_silent (params : RecordLearningProposalEvaluationParams) :
    SameOutbox (InMemoryLearningProposalRepository.recordEvaluation (π := π) now tenantId id params) ∧
      SameOutbox
        (PostgresLearningProposalRepository.recordEvaluation (π := π) now tenantId id params) := by
  constructor
  · refine same_parse fun tenant => same_parse fun parsed => same_read fun found => ?_
    split
    · exact same_pure _
    · exact same_ite (same_pure _) (same_save (same_pure _))
  · refine same_parse fun tenant => same_parse fun parsedId => same_parse fun parsed =>
      same_read fun found => ?_
    split
    · exact same_pure _
    · exact same_ite (same_pure _) (update_silent _ _ _ _)

theorem claim_silent (options : PromotionClaimOptions) :
    SameOutbox
        (InMemoryLearningProposalRepository.claimPromotion (π := π) uuid now tenantId id options) ∧
      SameOutbox
        (PostgresLearningProposalRepository.claimPromotion (π := π) uuid now tenantId id options) := by
  constructor
  · refine same_parse fun tenant => same_require (same_read fun found => ?_)
    split
    · exact same_pure _
    · refine same_ite (same_pure _) (same_draw fun token => ?_)
      split
      · exact fun _ => rfl
      · exact same_save (same_pure _)
  · refine same_parse fun tenant => same_parse fun parsedId => same_require ?_
    refine same_draw fun token => ?_
    split
    · exact fun _ => rfl
    · exact same_bind (update_silent _ _ _ _) fun _ => same_pure _

theorem promotion_silent (versionRef token : String) :
    SameOutbox (InMemoryLearningProposalRepository.markPromoted (π := π) now tenantId id versionRef
        token) ∧
      SameOutbox (PostgresLearningProposalRepository.markPromoted (π := π) now tenantId id
        versionRef token) := by
  constructor
  · refine same_parse fun tenant => same_parse fun parsedRef => same_parse fun claimToken =>
      same_read fun found => ?_
    split
    · exact same_pure _
    · exact same_ite (same_pure _) (same_save (same_pure _))
  · exact same_parse fun tenant => same_parse fun parsedId => same_parse fun parsedRef =>
      same_parse fun claimToken => update_silent _ _ _ _

theorem rollback_silent (versionRef : String) :
    SameOutbox (InMemoryLearningProposalRepository.markRolledBack (π := π) now tenantId id
        versionRef) ∧
      SameOutbox (PostgresLearningProposalRepository.markRolledBack (π := π) now tenantId id
        versionRef) := by
  constructor
  · refine same_parse fun tenant => same_parse fun parsedRef => same_read fun found => ?_
    split
    · exact same_pure _
    · exact same_ite (same_pure _) (same_save (same_pure _))
  · exact same_parse fun tenant => same_parse fun parsedId => same_parse fun parsedRef =>
      update_silent _ _ _ _

end

/-- A granted approval: what it found, wrote and sent. -/
structure Grants (now : Instant) (id approver : String) (p : LearningProposalRecord π)
    (s t : LearningProposalStore π) : Prop where
  stored : s.recordsById.get id = some p
  status : p.status = .requires_approval
  records : t.recordsById = s.recordsById.set id (approvedBy approver now p)
  sends : Sends (learningProposalApprovalOutboxCommand (approvedBy approver now p))
    s.outboxRepository t.outboxRepository

/-- A call of `approveAndEnqueue` granted the approval, or it sent nothing and
gave no record. -/
def Decides (now : Instant) (tenantId id : String) (s : LearningProposalStore π)
    (x : Except DbError (Option (LearningProposalRecord π × StoredOutboxEvent)))
    (t : LearningProposalStore π) : Prop :=
  (∃ approver p, p.tenantId = tenantId ∧ Grants now id approver p s t) ∨
    t.outboxRepository = s.outboxRepository ∧ ∀ a, x ≠ .ok (some a)

section
variable {π : Type} (now : Instant) (s : LearningProposalStore π)

theorem refused {now : Instant} {tenantId id : String} {s : LearningProposalStore π} {e : DbError} :
    Decides now tenantId id s (.error e) s :=
  Or.inr ⟨rfl, fun _ ha => by cases ha⟩

theorem unfound {now : Instant} {tenantId id : String} {s : LearningProposalStore π} :
    Decides now tenantId id s (.ok none) s :=
  Or.inr ⟨rfl, fun _ ha => by cases ha⟩

theorem inMemory_decides (h : s.outboxRepository.Consistent) (tenantId id approver : String) :
    (InMemoryLearningProposalRepository.approveAndEnqueue now tenantId id approver).Ends s
      (Decides now tenantId id s) := by
  refine parse_bind refused fun tenant ht => ?_
  obtain ⟨rfl, valid⟩ := uuidText_some ht
  refine parse_bind refused fun parsed _ => Store.Ends.read_bind ?_
  split
  · exact Store.Ends.pure unfound
  · rename_i p hp
    obtain ⟨stored, rfl⟩ := scoped_stored hp
    refine Store.Ends.ite (fun _ => Store.Ends.pure unfound) fun guard => save_bind ?_
    rw [not_not] at guard
    refine Store.Ends.tryCatch (R := fun x t => (∃ a, x = .ok (some a)) ∧
      Decides now p.tenantId id s x t) ?_ ?_ ?_
    · refine Store.Ends.bind (enqueue_ends now h (approval_valid valid)) ?_ ?_
      · rintro e t ⟨⟨d, hd⟩, _⟩
        cases hd
      · rintro d t ⟨_, records, _, _, sends⟩
        exact Store.Ends.pure ⟨⟨_, rfl⟩, Or.inl ⟨parsed, p, rfl, stored, guard, records, sends⟩⟩
    · rintro o t ⟨_, decides⟩
      exact decides
    · rintro e t ⟨⟨a, ha⟩, _⟩
      cases ha

theorem postgres_decides (h : s.outboxRepository.Consistent) (tenantId id approver : String) :
    (PostgresLearningProposalRepository.approveAndEnqueue now tenantId id approver).Ends s
      (Decides now tenantId id s) := by
  refine parse_bind refused fun tenant ht => ?_
  obtain ⟨rfl, valid⟩ := uuidText_some ht
  refine parse_bind refused fun parsedId hid => ?_
  obtain ⟨rfl, _⟩ := uuidText_some hid
  refine parse_bind refused fun parsed _ => ?_
  refine Store.Ends.transaction (R := Decides now tenant parsedId s) ?_ (fun _ _ h => h)
    (fun _ _ _ => refused)
  refine Store.Ends.bind (updateWhere_ends s _ _ _ _) ?_ ?_
  · rintro e t (⟨he, _⟩ | ⟨p, _, _, _, he, _⟩)
    · cases he
    · cases he
  · rintro o t (⟨ho, rfl⟩ | ⟨p, stored, owner, guarded, ho, rfl⟩)
    · cases ho
      exact Store.Ends.pure unfound
    · cases ho
      subst owner
      refine Store.Ends.bind (enqueue_ends now h (approval_valid valid)) ?_ ?_
      · rintro e t ⟨⟨d, hd⟩, _⟩
        cases hd
      · rintro d t ⟨_, records, _, _, sends⟩
        exact Store.Ends.pure
          (Or.inl ⟨parsed, p, rfl, stored, by simpa using guarded, records, sends⟩)

end

section
variable (d : Deployment) (w : World)

theorem approval_decides (h : w.proposals.outboxRepository.Consistent)
    (tenantId id approver : String) :
    (exec d (.approveAndEnqueue tenantId id approver)).Ends w fun x t =>
      Decides w.clock tenantId id w.proposals x t.proposals :=
  (onProposals_ends (choose_ends (inMemory_decides w.clock w.proposals h tenantId id approver)
    (postgres_decides w.clock w.proposals h tenantId id approver))).weaken fun _ _ step => step.1

/-- No call on the proposals but an approval touches the outbox. -/
theorem exec_silent {op : Op} {call : ProposalOperation CritiqueProposalPayload}
    (calls : asCall op = some call) (other : ∀ t id a, op ≠ .approveAndEnqueue t id a) :
    ((exec d op).run w).2.proposals.outboxRepository = w.proposals.outboxRepository := by
  have silent : ∀ {α : Type} {a b : Instant → ProposalStore CritiqueProposalPayload α},
      SameOutbox (a w.clock) ∧ SameOutbox (b w.clock) →
      (onProposals fun now => d.choose (a now) (b now)).Ends w fun _ t =>
        t.proposals.outboxRepository = w.proposals.outboxRepository := by
    rintro α a b ⟨inMemory, postgres⟩
    refine (onProposals_ends (Q := fun _ t =>
      t.outboxRepository = w.proposals.outboxRepository)
      (choose_ends (inMemory w.proposals) (postgres w.proposals))).weaken ?_
    exact fun _ _ step => step.1
  cases op with
  | createProposal tenantId params => exact silent (creation_silent d.uuid w.clock tenantId params)
  | recordEvaluation tenantId id params => exact silent (evaluation_silent w.clock tenantId id params)
  | claimPromotion tenantId id => exact silent (claim_silent d.uuid w.clock tenantId id {})
  | markPromoted tenantId id versionRef token =>
    exact silent (promotion_silent w.clock tenantId id versionRef token)
  | markRolledBack tenantId id versionRef =>
    exact silent (rollback_silent w.clock tenantId id versionRef)
  | approveAndEnqueue tenantId id approver => exact absurd rfl (other tenantId id approver)
  | _ => cases calls

/-- Which messages are published and not acknowledged. -/
theorem exec_stream (op : Op) : ((exec d op).run w).2.stream =
    match op with
    | .publish event => w.stream ++ [event]
    | .acknowledge eventId => w.stream.eraseP (·.id == eventId)
    | _ => w.stream := by
  cases op <;> rfl

/-- The event is stored, consumed or not. -/
def Keeps (o : InMemoryOutboxRepository) (i : Nat) (e : StoredOutboxEvent) : Prop :=
  ∃ at_, o.eventsById.get i = some { e with consumedAt := at_ }

variable {d w}

/-- An event stays, and only its consumption marks it. -/
theorem exec_keeps (h : w.proposals.outboxRepository.Consistent) (op : Op) {i : Nat}
    {e : StoredOutboxEvent} (found : w.proposals.outboxRepository.eventsById.get i = some e) :
    ∃ at_, ((exec d op).run w).2.proposals.outboxRepository.eventsById.get i =
        some { e with consumedAt := at_ } ∧
      (at_ = e.consumedAt ∨ ∃ tenantId, op = .markConsumed tenantId i) := by
  have still : ∀ {o}, o = w.proposals.outboxRepository ∨
      (∃ command, Sends command w.proposals.outboxRepository o) →
      ∃ at_, o.eventsById.get i = some { e with consumedAt := at_ } ∧
        (at_ = e.consumedAt ∨ ∃ tenantId, op = .markConsumed tenantId i) := by
    rintro o (rfl | ⟨command, sends⟩)
    · exact ⟨e.consumedAt, found, Or.inl rfl⟩
    · exact ⟨e.consumedAt, sends.keeps i e found, Or.inl rfl⟩
  cases hc : asCall op with
  | some call =>
    by_cases approves : ∃ t id a, op = .approveAndEnqueue t id a
    · obtain ⟨tenantId, id, approver, rfl⟩ := approves
      rcases approval_decides d w h tenantId id approver with ⟨_, _, _, grants⟩ | ⟨same, _⟩
      · exact still (Or.inr ⟨_, grants.sends⟩)
      · exact still (Or.inl same)
    · exact still (Or.inl (exec_silent d w hc fun t id a same => approves ⟨t, id, a, same⟩))
  | none =>
    have step := (exec_quiet d w h hc).2
    cases op with
    | enqueue command =>
      rcases step with same | sends
      · exact still (Or.inl same)
      · exact still (Or.inr ⟨_, sends⟩)
    | markConsumed tenantId id =>
      rcases step with same | consumes
      · exact still (Or.inl same)
      · obtain ⟨e', at_, stored, _, set⟩ := consumes.event
        rw [set, InsertionMap.get_set]
        split
        · rename_i same
          subst same
          rw [stored] at found
          cases found
          exact ⟨some at_, rfl, Or.inr ⟨tenantId, rfl⟩⟩
        · exact ⟨e.consumedAt, found, Or.inl rfl⟩
    | createProposal | recordEvaluation | claimPromotion | markPromoted | approveAndEnqueue
    | markRolledBack => cases hc
    | _ => exact still (Or.inl step)

end

section
variable {d : Deployment} {w : World}

theorem keeps_after (h : Fresh d w) {a : Log} (b : Log) {i : Nat} {e : StoredOutboxEvent}
    (found : (after d w a).proposals.outboxRepository.eventsById.get i = some e) :
    Keeps (after d w (a ++ b)).proposals.outboxRepository i e := by
  rw [after_append]
  refine Machine.replay_related (I := WorldSound d)
    (R := fun s t => ∀ i e, s.proposals.outboxRepository.eventsById.get i = some e →
      Keeps t.proposals.outboxRepository i e) ?_ ?_ (fun _ op hs => exec_sound d op hs) ?_
    (sound_after h a) b i e found
  · exact fun s i e found => ⟨e.consumedAt, found⟩
  · intro s t u first second i e found
    obtain ⟨_, found'⟩ := first i e found
    obtain ⟨at_, found''⟩ := second i _ found'
    exact ⟨at_, found''⟩
  · intro s op hs i e found
    obtain ⟨at_, found', _⟩ := exec_keeps hs.proposals.outbox op found
    exact ⟨at_, found'⟩

/-- What is published was listed, and so is stored. -/
theorem published_stored (h : Fresh d w) {log : Log} (valid : Explained d w log)
    {actor : Machine.Actor Start} {event : StoredOutboxEvent} {r : Except DbError Unit}
    (published : .did actor (.publish event) r ∈ log) :
    Keeps (after d w log).proposals.outboxRepository event.id event := by
  obtain ⟨x, y, rfl⟩ := List.append_of_mem published
  obtain ⟨i, s, _, _, tenantId, limit, pending, listed, member⟩ := by_worker valid rfl (by simp)
  obtain ⟨s', there⟩ := Machine.mem_history listed
  obtain ⟨x₁, x₂, rfl⟩ := List.append_of_mem there
  have answered := answered_run valid.init_
  have pendingEq : pending =
      (after d w x₁).proposals.outboxRepository.listUnconsumed tenantId limit :=
    Except.ok.inj answered
  obtain ⟨stored, _, _⟩ := InMemoryOutboxRepository.mem_listUnconsumed (pendingEq ▸ member)
  have found := (sound_after h x₁).proposals.outbox.event stored
  have later := keeps_after h (.did (.worker i s') (.listUnconsumed tenantId limit) (.ok pending) ::
    x₂ ++ .did actor (.publish event) r :: y) found
  simpa only [List.append_assoc, List.cons_append] using later

/-- What is in the stream was published. -/
theorem stream_published (h : Fresh d w) {log : Log} (valid : Explained d w log) :
    ∀ m ∈ (after d w log).stream, ∃ actor r, .did actor (.publish m) r ∈ log := by
  refine Machine.Valid.rec_ (J := fun log => ∀ m ∈ (after d w log).stream,
    ∃ actor r, .did actor (.publish m) r ∈ log) ?_ ?_ valid
  · intro m member
    have none_ : (after d w []).stream = [] := h.stream
    rw [none_] at member
    cases member
  · intro a e _ ih m member
    have before : m ∈ (after d w a).stream → ∃ actor r, .did actor (.publish m) r ∈ a ++ [e] := by
      intro there
      obtain ⟨actor, r, published⟩ := ih m there
      exact ⟨actor, r, List.mem_append_left _ published⟩
    cases e with
    | spawned i s =>
      rw [after_spawned] at member
      exact before member
    | did actor op r =>
      rw [after_did, exec_stream] at member
      cases op with
      | publish event =>
        rcases List.mem_append.mp member with there | new
        · exact before there
        · cases List.mem_singleton.mp new
          exact ⟨actor, r, by simp⟩
      | acknowledge eventId => exact before (List.mem_of_mem_eraseP member)
      | _ => exact before member

/-- Where a stored event comes from: it was there, a worker asked for it, or a
granted approval sent it. -/
theorem exec_sources {d : Deployment} {w : World} (h : WorldSound d w) {op : Op}
    {e : StoredOutboxEvent}
    (member : e ∈ ((exec d op).run w).2.proposals.outboxRepository.events) :
    (∃ e' ∈ w.proposals.outboxRepository.events,
      e'.toEnqueueOutboxEvent = e.toEnqueueOutboxEvent) ∨
    op = .enqueue e.toEnqueueOutboxEvent ∨
    ∃ tenantId id approver parsed p, op = .approveAndEnqueue tenantId id approver ∧
      Grants w.clock id parsed p w.proposals ((exec d op).run w).2.proposals ∧
      e.toEnqueueOutboxEvent =
        learningProposalApprovalOutboxCommand (approvedBy parsed w.clock p) := by
  have outbox := h.proposals.outbox
  have still : ((exec d op).run w).2.proposals.outboxRepository = w.proposals.outboxRepository →
      ∃ e' ∈ w.proposals.outboxRepository.events,
        e'.toEnqueueOutboxEvent = e.toEnqueueOutboxEvent :=
    fun same => ⟨e, same ▸ member, rfl⟩
  have sent : ∀ {command}, Sends command w.proposals.outboxRepository
      ((exec d op).run w).2.proposals.outboxRepository →
      (∃ e' ∈ w.proposals.outboxRepository.events,
        e'.toEnqueueOutboxEvent = e.toEnqueueOutboxEvent) ∨
      e.toEnqueueOutboxEvent = command := by
    intro command sends
    rcases sends.events with ⟨same, _⟩ | ⟨new, grown, written, _, _⟩
    · exact Or.inl (still same)
    · rcases List.mem_append.mp (grown ▸ member) with there | last
      · exact Or.inl ⟨e, there, rfl⟩
      · exact Or.inr (List.mem_singleton.mp last ▸ written)
  cases hc : asCall op with
  | some call =>
    by_cases approves : ∃ t id approver, op = .approveAndEnqueue t id approver
    · obtain ⟨tenantId, id, approver, rfl⟩ := approves
      rcases approval_decides d w outbox tenantId id approver with
        ⟨parsed, p, _, grants⟩ | ⟨same, _⟩
      · rcases sent grants.sends with there | command
        · exact Or.inl there
        · exact Or.inr (Or.inr ⟨tenantId, id, approver, parsed, p, rfl, grants, command⟩)
      · exact Or.inl (still same)
    · refine Or.inl (still ?_)
      exact exec_silent d w hc fun t id approver same => approves ⟨t, id, approver, same⟩
  | none =>
    have step := (exec_quiet d w outbox hc).2
    cases op with
    | enqueue command =>
      rcases step with same | sends
      · exact Or.inl (still same)
      · rcases sent sends with there | rfl
        · exact Or.inl there
        · exact Or.inr (Or.inl rfl)
    | markConsumed tenantId id =>
      rcases step with same | consumes
      · exact Or.inl (still same)
      · obtain ⟨e', at_, stored, _, set⟩ := consumes.event
        have found := consumes.consistent.event member
        rw [set, InsertionMap.get_set] at found
        split at found
        · cases found
          exact Or.inl ⟨e', (InsertionMap.mem_values _ e').mpr ⟨id, stored⟩, rfl⟩
        · exact Or.inl ⟨e, (InsertionMap.mem_values _ e).mpr ⟨e.id, found⟩, rfl⟩
    | createProposal | recordEvaluation | claimPromotion | markPromoted | approveAndEnqueue
    | markRolledBack => cases hc
    | _ => exact Or.inl (still step)

/-- A stored approval event announces a proposal a founder approved. -/
def Announced (w : World) (e : StoredOutboxEvent) : Prop :=
  ∃ id p, e.idempotencyKey = join "learning-proposal-approved" id ∧
    w.proposals.recordsById.get id = some p ∧ p.humanApprovedAt ≠ none

theorem announced (h : Fresh d w) {log : Log} (valid : Explained d w log) :
    ∀ e ∈ (after d w log).proposals.outboxRepository.events,
      e.eventType = learningProposalApprovedEventType → Announced (after d w log) e := by
  refine Machine.Valid.rec_ (J := fun log =>
    ∀ e ∈ (after d w log).proposals.outboxRepository.events,
      e.eventType = learningProposalApprovedEventType → Announced (after d w log) e) ?_ ?_ valid
  · intro e member
    have none_ : (after d w []).proposals.outboxRepository.events = [] := by
      change w.proposals.outboxRepository.events = []
      rw [h.proposals]
      rfl
    rw [none_] at member
    cases member
  · intro a entry valid ih e member kind
    have kept : ∀ e' ∈ (after d w a).proposals.outboxRepository.events,
        e'.toEnqueueOutboxEvent = e.toEnqueueOutboxEvent →
        Announced (after d w (a ++ [entry])) e := by
      intro e' there same
      have kind' : e'.eventType = learningProposalApprovedEventType :=
        (congrArg EnqueueOutboxEvent.eventType same).trans kind
      obtain ⟨id, p, key, stored, approved⟩ := ih e' there kind'
      obtain ⟨q, found, _, evolves⟩ := row_after h a [entry] stored
      exact ⟨id, q, (congrArg EnqueueOutboxEvent.idempotencyKey same).symm.trans key, found,
        (evolves.approval approved).1⟩
    cases entry with
    | spawned i s =>
      rw [after_spawned] at member
      exact kept e member rfl
    | did actor op r =>
      rw [after_did] at member
      rcases exec_sources (sound_after h a) member with
        ⟨e', there, same⟩ | rfl | ⟨tenantId, id, approver, parsed, p, rfl, grants, command⟩
      · exact kept e' there same
      · obtain ⟨i, s, _, _, other⟩ := by_worker valid rfl (by simp)
        exact absurd kind other
      · have named := ((sound_after h a).proposals.ids id p grants.stored).1
        refine ⟨id, approvedBy parsed (after d w a).clock p, ?_, ?_, by simp [approvedBy]⟩
        · rw [← named]
          exact congrArg EnqueueOutboxEvent.idempotencyKey command
        · rw [after_did, grants.records, InsertionMap.get_set_self]

end

end VantGrowth.Proofs.ApprovalMessages
