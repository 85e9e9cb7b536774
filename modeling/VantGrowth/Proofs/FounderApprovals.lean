import VantGrowth.Proofs.ApprovalMessages
import VantGrowth.Proofs.HumanApproval

namespace VantGrowth.Proofs.FounderApprovals
open Core Db Db.LearningProposalStore Lib Lib.Logs Lib.Text Learning
open ProposalEffects ProposalLifecycle ProposalKeys WorldSteps WorkerAwaits SystemLogs ProposalTasks
open HumanApproval ApprovalMessages

/-- Whether a founder approved the proposal since worker `i` last read one by
its key. -/
def approvedSince (i : Nat) (tenantId id : String) (since : Bool) : Entry → Bool
  | .did .outside (.approveAndEnqueue tenantId' id' _) (.ok (some _)) =>
    since || (tenantId' == tenantId && id' == id)
  | .did (.worker j _) (.getByProposalKey _ _) (.ok (some _)) => if j = i then false else since
  | _ => since

/-- A worker records what it made of a proposal it read before a founder
approved it. -/
def outdated (before : Log) : Entry → Bool
  | .did (.worker i _) (.recordEvaluation tenantId id _) (.ok (some _)) =>
    before.foldl (approvedSince i tenantId id) false
  | _ => false

/-- No worker records an outdated evaluation. -/
def Current (log : Log) : Prop := Each (fun before e => outdated before e = false) log

instance (log : Log) : Decidable (Current log) :=
  inferInstanceAs (Decidable (Each (fun before e => outdated before e = false) log))

/-- The outbox holds an event of the approval that is yet to be published. -/
def Pending (w : World) (tenantId id : String) : Prop :=
  ∃ e ∈ w.proposals.outboxRepository.events,
    e.consumedAt = none ∧ isApproval e e.id tenantId id = true

/-- A published message of the approval is yet to be acknowledged. -/
def InStream (w : World) (tenantId id : String) : Prop :=
  ∃ m ∈ w.stream, isApproval m m.id tenantId id = true

/-- What a worker read of the proposal. -/
def readOf (tenantId id : String) : Entry → Option Proposal
  | .did (.worker _ _) (.getProposal tenantId' _) (.ok (some p))
  | .did (.worker _ _) (.getByProposalKey tenantId' _) (.ok (some p)) =>
    if tenantId' = tenantId ∧ p.id = id then some p else none
  | _ => none

def ReadApproved (tenantId id : String) (log : Log) : Prop :=
  ∃ e ∈ log, (readOf tenantId id e).map (·.status) = some .approved

/-- A proposal read by its key is stored, whatever the key. -/
theorem keyed_stored (d : Deployment) (w : World) (tenantId proposalKey : String) :
    (exec d (.getByProposalKey tenantId proposalKey)).Ends w fun x _ => ∀ p, x = .ok (some p) →
      ∃ i, w.proposals.recordsById.get i = some p := by
  refine (onProposals_ends (Q := fun x _ => ∀ p, x = .ok (some p) →
    ∃ i, w.proposals.recordsById.get i = some p) (choose_ends ?_ ?_)).weaken
    fun _ _ step => step.1
  · refine parse_bind (fun _ hp => by cases hp) fun tenant _ => Store.Ends.read_bind ?_
    split
    · exact Store.Ends.pure fun _ hp => by cases hp
    · rename_i i _
      refine (inMemory_getById w.proposals tenant i).weaken ?_
      rintro x t ⟨_, answered⟩ p rfl
      exact ⟨i, (scoped_stored (answered _ rfl).symm).1⟩
  · refine parse_bind (fun _ hp => by cases hp) fun tenant _ => ?_
    refine parse_bind (fun _ hp => by cases hp) fun parsedKey _ => Store.Ends.read _ ?_
    intro p hp
    obtain ⟨i, _, found⟩ := Option.bind_eq_some_iff.mp (Except.ok.inj hp)
    exact ⟨i, (scoped_stored found).1⟩

section
variable {d : Deployment} {w : World}

/-- What a worker read is the row as it was. -/
theorem read_row (h : Fresh d w) {a b : Log} {e : Entry} (valid : Explained d w (a ++ e :: b))
    {tenantId id : String} {p : Proposal} (read : readOf tenantId id e = some p) :
    (after d w a).proposals.recordsById.get id = some p := by
  have named : ∀ {i q}, (after d w a).proposals.recordsById.get i = some q → q.id = id →
      (after d w a).proposals.recordsById.get id = some q := by
    intro i q stored same
    have own := ((sound_after h a).proposals.ids i q stored).1
    exact own.symm.trans same ▸ stored
  unfold readOf at read
  split at read
  · rename_i tenantId' id' q
    split at read
    · rename_i hits
      cases read
      have found := (did_ends valid (getProposal_step d _ tenantId' id')).2 _ rfl
      exact named (scoped_stored found.symm).1 hits.2
    · cases read
  · rename_i tenantId' key q
    split at read
    · rename_i hits
      cases read
      obtain ⟨i, stored⟩ := did_ends valid (keyed_stored d _ tenantId' key) _ rfl
      exact named stored hits.2
    · cases read
  · cases read

/-- Where a founder's approval is followed by nothing outdated, the worker read
again after it. -/
theorem read_since {i : Nat} {tenantId id : String} {log : Log}
    (current : log.foldl (approvedSince i tenantId id) true = false) :
    ∃ s tenantId' key p, .did (.worker i s) (.getByProposalKey tenantId' key) (.ok (some p)) ∈
      log := by
  induction log with
  | nil => cases current
  | cons e log ih =>
    rw [List.foldl_cons] at current
    cases hs : approvedSince i tenantId id true e with
    | true =>
      rw [hs] at current
      obtain ⟨s, tenantId', key, p, member⟩ := ih current
      exact ⟨s, tenantId', key, p, List.mem_cons_of_mem _ member⟩
    | false =>
      unfold approvedSince at hs
      split at hs
      · simp at hs
      · split at hs
        · rename_i j _ _ _ _ same
          subst same
          exact ⟨_, _, _, _, List.mem_cons_self⟩
        · cases hs
      · cases hs

/-- A worker reads by key once. -/
theorem judged_read {s : Start} {hist : List (Did Res)} {t : Task} {j : Judgement}
    (judged : Judged d s hist t j) {tenantId key : String} {p : Proposal}
    (told : ⟨.getByProposalKey tenantId key, some p⟩ ∈ hist) :
    tenantId = t.tenantId ∧ p = j.persisted := by
  cases judged with
  | read before _ _ experimentId taken =>
    rcases List.mem_append.mp told with earlier | now
    · cases taken <;> simp at earlier
    · obtain ⟨⟨owner, _⟩, same⟩ :
          (tenantId = t.tenantId ∧ key = j.proposalKey) ∧ p = j.persisted := by
        simpa using now
      exact ⟨owner, same⟩

/-- An evaluation that is not outdated rests on a read that came after the
founder's approval. -/
theorem fresh_read (h : Fresh d w) {a b : Log} {entry : Entry} {i : Nat} {s : Start} {t : Task}
    {j : Judgement} (valid : Explained d w (a ++ entry :: b))
    (spawned : .spawned i s ∈ a ++ entry :: b)
    (judged : Judged d s (Machine.history i (a ++ entry :: b)) t j)
    (since : b.foldl (approvedSince i t.tenantId t.persisted.id) true = false) :
    ∃ e ∈ b, readOf t.tenantId t.persisted.id e = some j.persisted := by
  obtain ⟨s', tenantId, key, p, member⟩ := read_since since
  have told : ⟨.getByProposalKey tenantId key, some p⟩ ∈ Machine.history i (a ++ entry :: b) :=
    Machine.history_mem (List.mem_append_right _ (List.mem_cons_of_mem _ member))
  obtain ⟨owner, rfl⟩ := judged_read judged told
  obtain ⟨a₁, a₂, _, stored⟩ := judged_row h valid spawned judged (List.append_nil _).symm
  have named := ((sound_after h a₁).proposals.ids _ _ stored).1
  exact ⟨_, member, if_pos ⟨owner, named⟩⟩

theorem since_approval {a b : Log} {tenantId id approver : String}
    {approval : Proposal × StoredOutboxEvent} {i : Nat} {s : Start}
    {params : RecordLearningProposalEvaluationParams} {recorded : Proposal}
    (current : outdated (a ++ .did .outside (.approveAndEnqueue tenantId id approver)
      (.ok (some approval)) :: b)
      (.did (.worker i s) (.recordEvaluation tenantId id params) (.ok (some recorded))) = false) :
    b.foldl (approvedSince i tenantId id) true = false := by
  simpa only [outdated, List.foldl_append, List.foldl_cons, approvedSince, beq_self_eq_true,
    Bool.and_self, Bool.or_true] using current

/-- Who recorded an evaluation that changed a row. -/
theorem evaluation_entry {a b : Log} {actor : Machine.Actor Start} {op : Op}
    {r : Except DbError (Res op)} (valid : Explained d w (a ++ .did actor op r :: b))
    {tenantId id : String} {raw : RecordLearningProposalEvaluationParams}
    (calls : asCall op = some (.recordEvaluation tenantId id raw))
    (reported : leaseReport op r = some (id, .revoke) ∨
      leaseReport op r = none ∧ (Lease.Event.revoke : Lease.Event String Instant) = .idle) :
    ∃ i s recorded, (.did actor op r : Entry) =
      .did (.worker i s) (.recordEvaluation tenantId id raw) (.ok (some recorded)) := by
  rcases reported with reported | ⟨_, idle⟩
  · cases op with
    | recordEvaluation tenantId' id' raw' =>
      cases calls
      obtain ⟨i, s, rfl, _⟩ := by_worker valid rfl (by simp)
      rcases r with error | (_ | recorded)
      · cases reported
      · cases reported
      · exact ⟨i, s, recorded, rfl⟩
    | _ => cases calls
  · cases idle

/-- A granted approval leaves the row approved. -/
theorem approval_grants (h : Fresh d w) {a b : Log} {actor : Machine.Actor Start}
    {tenantId id approver : String} {approval : Proposal × StoredOutboxEvent}
    (valid : Explained d w (a ++ .did actor (.approveAndEnqueue tenantId id approver)
      (.ok (some approval)) :: b)) :
    ∃ parsed p, p.tenantId = tenantId ∧ Grants (after d w a).clock id parsed p
      (after d w a).proposals (after d w (a ++ [.did actor (.approveAndEnqueue tenantId id approver)
        (.ok (some approval))])).proposals := by
  have outbox := (sound_after h a).proposals.outbox
  rcases did_ends valid (approval_decides d _ outbox tenantId id approver) with
    ⟨parsed, p, owner, grants⟩ | ⟨_, ungranted⟩
  · exact ⟨parsed, p, owner, grants⟩
  · exact absurd rfl (ungranted approval)

/-- From a founder's approval on the row shows it. -/
theorem approved_row (h : Fresh d w) {a : Log} (b : Log) {tenantId id approver : String}
    {approval : Proposal × StoredOutboxEvent}
    (valid : Explained d w (a ++ .did .outside (.approveAndEnqueue tenantId id approver)
      (.ok (some approval)) :: b)) :
    ∃ q, (after d w (a ++ .did .outside (.approveAndEnqueue tenantId id approver)
      (.ok (some approval)) :: b)).proposals.recordsById.get id = some q ∧
      q.tenantId = tenantId ∧ q.humanApprovedAt ≠ none := by
  obtain ⟨parsed, p, owner, grants⟩ := approval_grants h valid
  have stored : (after d w (a ++ [.did .outside (.approveAndEnqueue tenantId id approver)
      (.ok (some approval))])).proposals.recordsById.get id =
      some (approvedBy parsed (after d w a).clock p) := by
    rw [grants.records, InsertionMap.get_set_self]
  obtain ⟨q, found, same, evolves⟩ := row_after h _ b stored
  rw [List.append_assoc, List.singleton_append] at found
  refine ⟨q, found, (congrArg Origin.tenantId same).trans owner, ?_⟩
  exact (evolves.approval (by simp [approvedBy])).1

/-- What a worker reads from then on shows it too. -/
theorem approved_read (h : Fresh d w) {a b : Log} {tenantId id approver : String}
    {approval : Proposal × StoredOutboxEvent}
    (valid : Explained d w (a ++ .did .outside (.approveAndEnqueue tenantId id approver)
      (.ok (some approval)) :: b)) {e : Entry} (member : e ∈ b) {p : Proposal}
    (read : readOf tenantId id e = some p) : p.humanApprovedAt ≠ none := by
  obtain ⟨y, z, rfl⟩ := List.append_of_mem member
  rw [← List.cons_append, ← List.append_assoc] at valid
  obtain ⟨q, found, _, approved⟩ := approved_row h y valid.init_
  rw [read_row h valid read] at found
  cases found
  exact approved

theorem parse_decision {raw params : RecordLearningProposalEvaluationParams}
    (h : raw.parse = some params) : params.decision = raw.decision := by
  simp only [RecordLearningProposalEvaluationParams.parse, bind, Option.bind_eq_some_iff] at h
  obtain ⟨reasons, _, h⟩ := h
  split at h
  · cases h
  · cases h
    rfl

/-- A proposal that waits for a founder was never approved, and its risk asks
for one. -/
theorem waiting_unapproved (h : Fresh d w) {log : Log} (valid : Explained d w log)
    (current : Current log) : ∀ id p, (after d w log).proposals.recordsById.get id = some p →
      p.status = .requires_approval →
      p.humanApprovedAt = none ∧ p.risk ∈ d.learningPolicy.humanApprovalFor := by
  intro id p stored
  refine rows_induction h (K := fun log _ p => Current log → p.status = .requires_approval →
    p.humanApprovedAt = none ∧ p.risk ∈ d.learningPolicy.humanApprovalFor) ?_ ?_ ?_ valid id p
    stored current
  · exact fun a e _ p before current => before current.init
  · intro a actor tenantId raw r params id now _ _ _ waits
    cases waits
  · intro a actor op r call id p q e valid calls stored change reported before current waits
    cases change with
    | evaluated params status free asked =>
      obtain ⟨raw, rfl, parses⟩ := asked
      obtain ⟨i, s, recorded, entry⟩ := evaluation_entry valid calls reported
      rw [entry] at valid current
      have decided : params.decision = .requires_approval := by
        cases hd : params.decision <;>
          simp [evaluated, proposalStatusForDecision, hd] at waits ⊢
      obtain ⟨spawned, t, j, judged, owner, named, rfl⟩ := valid.worked _ [] i s _ _ rfl
      obtain ⟨_, _, gate, _⟩ := judged.parts
      obtain ⟨risky, unseen⟩ := asked_unapproved gate ((parse_decision parses).symm.trans decided)
      obtain ⟨a₁, a₂, cut, read⟩ := judged_row h valid.init_ spawned judged (List.append_nil _).symm
      obtain ⟨q, found, same, _⟩ := row_after h a₁ a₂ read
      rw [← cut, ← named, stored] at found
      cases found
      have risk : p.risk = j.persisted.risk := congrArg Origin.risk same
      refine ⟨?_, ?_⟩
      · by_contra approved
        obtain ⟨approver, approval, member⟩ :=
          approval_recorded h valid.init_ id p stored approved
        obtain ⟨x, y, rfl⟩ := List.append_of_mem member
        have since := since_approval current.at
        rw [owner, named] at since valid
        obtain ⟨e, there, seen⟩ := fresh_read h valid.init_ (named ▸ owner ▸ spawned)
          (named ▸ owner ▸ judged) since
        have known := approved_read h valid.init_ there seen
        exact absurd (Option.isSome_iff_ne_none.mpr known) (Bool.eq_false_iff.mp unseen)
      · change p.risk ∈ _
        rw [risk]
        exact risky
    | approved => cases waits
    | claimed token expiresAt status =>
      have approved : p.status = .requires_approval := waits
      rw [status] at approved
      cases approved
    | promoted => cases waits
    | rolledBack => cases waits

/-- One step of the row: it stays, or a call rewrites it. -/
theorem row_step (h : Fresh d w) {a : Log} {entry : Entry} (valid : Explained d w (a ++ [entry]))
    {id : String} {p : Proposal} (stored : (after d w a).proposals.recordsById.get id = some p) :
    (after d w (a ++ [entry])).proposals.recordsById.get id = some p ∨
    ∃ actor op r call q e, entry = .did actor op r ∧ asCall op = some call ∧
      Change (after d w a).clock call id p e q ∧
      (leaseReport op r = some (id, e) ∨ leaseReport op r = none ∧ e = .idle) ∧
      (after d w (a ++ [entry])).proposals.recordsById.get id = some q := by
  cases entry with
  | spawned i s =>
    rw [after_spawned]
    exact Or.inl stored
  | did actor op r =>
    have sound := sound_after h a
    cases hc : asCall op with
    | none =>
      rw [after_did, (exec_quiet d _ sound.proposals.outbox hc).1.records]
      exact Or.inl stored
    | some call =>
      have effect := (did_ends valid (exec_effect d _ sound.proposals.outbox hc)).1
      generalize ho : leaseReport op r = o at effect
      cases effect with
      | kept records =>
        rw [records]
        exact Or.inl stored
      | created params tenantId tenant drawn records =>
        rw [records, InsertionMap.get_set]
        split
        · rename_i new
          rw [new, sound.proposals.fresh] at stored
          cases stored
        · exact Or.inl stored
      | changed id' p' q e _ stored' change records drawn outbox reported =>
        rw [records, InsertionMap.get_set]
        split
        · rename_i same
          subst same
          rw [stored] at stored'
          cases stored'
          exact Or.inr ⟨actor, op, r, call, q, e, rfl, hc, change, ho ▸ reported, rfl⟩
        · exact Or.inl stored

/-- The event of one approval: none of its number before, and this one after. -/
structure Sent (d : Deployment) (w : World) (a : Log) (entry : Entry) (tenantId id : String)
    (e : StoredOutboxEvent) : Prop where
  fresh : (after d w a).proposals.outboxRepository.eventsById.get e.id = none
  stored : (after d w (a ++ [entry])).proposals.outboxRepository.eventsById.get e.id = some e
  unconsumed : e.consumedAt = none
  announces : isApproval e e.id tenantId id = true

theorem approval_sent (h : Fresh d w) {a b : Log} {tenantId id approver : String}
    {approval : Proposal × StoredOutboxEvent}
    (valid : Explained d w (a ++ .did .outside (.approveAndEnqueue tenantId id approver)
      (.ok (some approval)) :: b)) (current : Current a) :
    ∃ e, Sent d w a (.did .outside (.approveAndEnqueue tenantId id approver) (.ok (some approval)))
      tenantId id e := by
  obtain ⟨parsed, p, owner, grants⟩ := approval_grants h valid
  have named := ((sound_after h a).proposals.ids id p grants.stored).1
  obtain ⟨unapproved, _⟩ := waiting_unapproved h valid.init_ current id p grants.stored grants.status
  rcases grants.sends.events with ⟨_, e, there, key⟩ | ⟨e, grown, command, unconsumed, unsent⟩
  · obtain ⟨id', q, own, stored, approved⟩ := announced h valid.init_ e there key.2.1
    have same : join "learning-proposal-approved" id' = join "learning-proposal-approved" p.id :=
      own.symm.trans key.2.2
    have plain : ':' ∉ "learning-proposal-approved".toList := by decide
    obtain ⟨_, rfl⟩ := join_inj plain plain same
    rw [named, grants.stored] at stored
    cases stored
    exact absurd unapproved approved
  · have member := grown ▸ List.mem_append_right _ (List.mem_singleton_self e)
    have stored := grants.sends.consistent.event member
    refine ⟨e, ?_, stored, unconsumed, ?_⟩
    · cases before : (after d w a).proposals.outboxRepository.eventsById.get e.id with
      | none => rfl
      | some e' =>
        have kept := grants.sends.keeps e.id e' before
        rw [stored] at kept
        cases kept
        refine absurd ⟨?_, ?_, ?_⟩ (unsent e ((InsertionMap.mem_values _ e).mpr ⟨e.id, before⟩))
        · rw [← command]
        · rw [← command]
        · rw [← command]
    · have parts : e.tenantId = tenantId ∧ e.eventType = learningProposalApprovedEventType ∧
          e.payload.text "proposal_id" = some id := by
        rw [command]
        exact ⟨owner, rfl, congrArg some named⟩
      simp [isApproval, parts]

/-- A handler of an approval was launched by a message of that approval. -/
theorem launched_by {a b : Log} {i eventId : Nat} {tenantId id : String}
    (valid : Explained d w (a ++ .spawned i (.approved eventId tenantId id) :: b)) :
    ∃ m ∈ (after d w a).stream, isApproval m eventId tenantId id = true := by
  have admitted := valid.spawned a b i _ rfl
  simp only [machine, ne_eq, ite_eq_right_iff, reduceCtorEq, imp_false, not_not] at admitted
  exact List.any_eq_true.mp admitted

theorem versioned_recorded {s : Start} {hist : List (Did Res)} {t : Task}
    {claim : PromotionClaim CritiqueProposalPayload} {v : PlaybookVersionRecord}
    (versioned : Versioned d s hist t claim v) :
    ∃ before j recorded rest, hist = before ++ ⟨.recordEvaluation t.tenantId t.persisted.id
        (evaluationParams j.evaluation j.decision), some recorded⟩ :: rest ∧
      Judged d s before t j ∧ j.decision.decision = .promote := by
  have granted : ∃ before j, Claimed d s before t j claim ∧ ∃ rest, hist = before ++ rest := by
    cases versioned with
    | found before _ j _ prior _ claimed => exact ⟨before, j, claimed, _, rfl⟩
    | created before _ j _ existing criteriaTimestamp effectiveAt _ ready =>
      obtain ⟨first, prior, claimed, _, rfl⟩ := ready.parts
      exact ⟨first, j, claimed, _, List.append_assoc _ _ _⟩
  obtain ⟨before, j, claimed, rest, rfl⟩ := granted
  obtain ⟨first, eligible, rfl⟩ := claimed.parts
  cases eligible with
  | recorded hist _ _ recorded judged promote =>
    refine ⟨hist, j, recorded, ⟨.claimPromotion t.tenantId t.persisted.id, some claim⟩ :: rest, ?_,
      judged, promote⟩
    simp only [List.append_assoc, List.cons_append, List.nil_append]

end

section
variable {d : Deployment} {w : World} {a b c : Log} {tenantId id approver : String}
  {approval : Proposal × StoredOutboxEvent} {e : StoredOutboxEvent}

/-- The entry of a granted approval. -/
abbrev granting (tenantId id approver : String) (approval : Proposal × StoredOutboxEvent) : Entry :=
  .did .outside (.approveAndEnqueue tenantId id approver) (.ok (some approval))

theorem Sent.later {entry : Entry} (h : Fresh d w) (sent : Sent d w a entry tenantId id e)
    (b : Log) : Keeps (after d w (a ++ entry :: b)).proposals.outboxRepository e.id e := by
  have kept := keeps_after h b sent.stored
  rwa [List.append_assoc, List.singleton_append] at kept

/-- Nothing of the event's number was published before the approval. -/
theorem Sent.unpublished {entry : Entry} (h : Fresh d w) (sent : Sent d w a entry tenantId id e)
    (valid : Explained d w a) {actor : Machine.Actor Start} {m : StoredOutboxEvent}
    {r : Except DbError Unit} (published : .did actor (.publish m) r ∈ a) : m.id ≠ e.id := by
  intro same
  obtain ⟨_, stored⟩ := published_stored h valid published
  rw [same, sent.fresh] at stored
  cases stored

/-- Only a handler that read the proposal after the approval acknowledges its
message. -/
theorem unacknowledged (h : Fresh d w) {actor : Machine.Actor Start} {r : Except DbError Unit}
    (valid : Explained d w (a ++ granting tenantId id approver approval :: b ++
      .did actor (.acknowledge e.id) r :: c))
    (sent : Sent d w a (granting tenantId id approver approval) tenantId id e)
    (unread : ∀ e' ∈ b, readOf tenantId id e' = none) : False := by
  cases actor with
  | worker i s => exact (valid.worked _ c i s (.acknowledge e.id) r rfl).2
  | outside => cases valid.outside _ c (.acknowledge e.id) r rfl
  | settled i s =>
    obtain ⟨spawned, acknowledged, _, returned⟩ := valid.settled _ c i s (.acknowledge e.id) r rfl
    cases s with
    | critique => cases acknowledged
    | drain => cases acknowledged
    | approved eventId tenantId' id' =>
      cases acknowledged
      obtain ⟨answer, rest, told⟩ := returned
      obtain ⟨u, v, cut, _, _, started⟩ :=
        valid.init_.answer_at spawned (told.trans (List.nil_append _).symm)
      obtain ⟨x, y, rfl⟩ := List.append_of_mem started
      -- the message that launched the handler is this one
      have launched : Explained d w (x ++ .spawned i (.approved e.id tenantId' id') :: y) := by
        have whole := valid.init_
        rw [cut] at whole
        exact whole.init_
      obtain ⟨m, member, names⟩ := launched_by launched
      obtain ⟨_, _, published⟩ := stream_published h launched.init_ m member
      obtain ⟨at₁, first⟩ := published_stored h launched.init_ published
      simp only [isApproval, Bool.and_eq_true, beq_iff_eq] at names
      obtain ⟨⟨⟨number, owner⟩, _⟩, proposal⟩ := names
      rw [number] at first
      have same : tenantId' = tenantId ∧ id' = id := by
        obtain ⟨at₂, second⟩ := sent.later h b
        obtain ⟨at₃, third⟩ := keeps_after h (.spawned i (.approved e.id tenantId' id') :: y ++
          .did (.worker i (.approved e.id tenantId' id')) (.getProposal tenantId' id') (.ok answer)
            :: v) first
        rw [← List.append_assoc, ← cut, second] at third
        have content := Option.some.inj third
        have tenants : e.tenantId = m.tenantId := congrArg (·.tenantId) content
        have payloads : e.payload = m.payload := congrArg (·.payload) content
        have announces := sent.announces
        simp only [isApproval, Bool.and_eq_true, beq_iff_eq, payloads, proposal,
          Option.some.injEq] at announces
        exact ⟨owner.symm.trans (tenants.symm.trans announces.1.1.2), announces.2⟩
      obtain ⟨rfl, rfl⟩ := same
      rcases split_append (cut.trans (List.append_assoc _ _ _)) with ⟨z, before, _⟩ | ⟨z, rfl, later⟩
      · -- but none of its number was stored before the approval
        obtain ⟨_, stored⟩ := keeps_after h (.spawned i (.approved e.id tenantId' id') :: z) first
        rw [← before, sent.fresh] at stored
        cases stored
      · cases z with
        | nil => cases later
        | cons g z =>
          obtain ⟨rfl, rfl⟩ := List.cons.inj later
          have whole := valid.init_
          rw [cut] at whole
          have answered := (did_ends whole (getProposal_step d _ tenantId' id')).2 answer rfl
          have reached := whole.init_
          rw [List.append_assoc, List.cons_append] at reached answered
          obtain ⟨q, stored, tenant, _⟩ := approved_row h _ reached
          have named := ((sound_after h _).proposals.ids id' q stored).1
          have found : answer = some q :=
            answered.trans (Option.filter_eq_some_iff.mpr ⟨stored, by simpa using tenant⟩)
          subst found
          have seen := unread (.did (.worker i (.approved e.id tenantId' id'))
            (.getProposal tenantId' id') (.ok (some q))) (by simp)
          rw [readOf, if_pos ⟨rfl, named⟩] at seen
          cases seen

/-- An evaluation that says promote, of a worker that has not read the proposal
since the approval, was recorded after it: before, the proposal was judged not
approved. -/
theorem recorded_after (h : Fresh d w)
    (valid : Explained d w (a ++ granting tenantId id approver approval :: b))
    (current : Current a) {i : Nat} {s : Start} {t : Task} {j : Judgement}
    {hist rest : List (Did Res)} {params : RecordLearningProposalEvaluationParams}
    {recorded : Proposal} (spawned : .spawned i s ∈ a ++ granting tenantId id approver approval :: b)
    (split : Machine.history i (a ++ granting tenantId id approver approval :: b) =
      hist ++ ⟨.recordEvaluation tenantId id params, some recorded⟩ :: rest)
    (judged : Judged d s hist t j) (named : id = t.persisted.id)
    (promote : j.decision.decision = .promote) :
    ∃ x y, b = x ++ .did (.worker i s) (.recordEvaluation tenantId id params) (.ok (some recorded))
        :: y ∧ Machine.history i (a ++ granting tenantId id approver approval :: x) = hist ∧
      .spawned i s ∈ a ++ granting tenantId id approver approval :: x := by
  obtain ⟨u, v, cut, before, _, started⟩ := valid.answer_at spawned split
  rcases split_append cut with ⟨z, early, _⟩ | ⟨z, rfl, later⟩
  · obtain ⟨parsed, p, _, grants⟩ := approval_grants h valid
    obtain ⟨unapproved, risky⟩ :=
      waiting_unapproved h valid.init_ current id p grants.stored grants.status
    have judging := valid.init_
    rw [early] at judging
    obtain ⟨a₁, a₂, rfl, read⟩ := judged_row h judging.init_ started
      (before ▸ judged) (List.append_nil _).symm
    obtain ⟨q, found, same, evolves⟩ := row_after h a₁ (a₂ ++ .did (.worker i s)
      (.recordEvaluation tenantId id params) (.ok (some recorded)) :: z) read
    rw [← List.append_assoc, ← early, ← named, grants.stored] at found
    cases found
    obtain ⟨_, _, gate, _⟩ := judged.parts
    have risk : p.risk = j.persisted.risk := congrArg Origin.risk same
    rw [risk] at risky
    have approved := promote_approved gate promote risky
    exact absurd unapproved (evolves.approval (Option.isSome_iff_ne_none.mp approved)).1
  · cases z with
    | nil => cases later
    | cons g z =>
      obtain ⟨rfl, rfl⟩ := List.cons.inj later
      exact ⟨z, v, rfl, before, started⟩

/-- The approval of `id` is still to be taken up. -/
structure Waiting (d : Deployment) (w : World) (id : String) (e : StoredOutboxEvent) (log : Log) :
    Prop where
  row : ∃ p, (after d w log).proposals.recordsById.get id = some p ∧ p.status = .approved
  event : ∃ at_, (after d w log).proposals.outboxRepository.eventsById.get e.id =
      some { e with consumedAt := at_ } ∧
    (at_ = none ∨ ∃ m ∈ (after d w log).stream, m.id = e.id)
  published : ∀ actor m r, .did actor (.publish m) r ∈ log → m.id = e.id →
    ∃ m' ∈ (after d w log).stream, m'.id = e.id

/-- No evaluation is recorded after the approval before some worker has read the
proposal again. -/
theorem recorded_read (h : Fresh d w) {i : Nat} {s : Start}
    {params : RecordLearningProposalEvaluationParams} {recorded : Proposal}
    (valid : Explained d w (a ++ granting tenantId id approver approval :: b ++
      .did (.worker i s) (.recordEvaluation tenantId id params) (.ok (some recorded)) :: c))
    (current : Current (a ++ granting tenantId id approver approval :: b ++
      .did (.worker i s) (.recordEvaluation tenantId id params) (.ok (some recorded)) :: c))
    (unread : ∀ e' ∈ b, readOf tenantId id e' = none) : False := by
  obtain ⟨spawned, t, j, judged, rfl, rfl, _⟩ := valid.worked _ c i s _ _ rfl
  obtain ⟨e', member, seen⟩ := fresh_read h valid.init_ spawned judged (since_approval current.at)
  rw [unread e' member] at seen
  cases seen

/-- Nothing that happens while no worker reads the proposal takes the approval
away from it. -/
theorem waiting_row (h : Fresh d w) {entry : Entry}
    (valid : Explained d w (a ++ granting tenantId id approver approval :: b ++ [entry]))
    (current : Current (a ++ granting tenantId id approver approval :: b ++ [entry]))
    (unread : ∀ e' ∈ b, readOf tenantId id e' = none) {p : Proposal}
    (stored : (after d w (a ++ granting tenantId id approver approval :: b)).proposals.recordsById.get
      id = some p) (status : p.status = .approved) :
    ∃ q, (after d w (a ++ granting tenantId id approver approval :: b ++
      [entry])).proposals.recordsById.get id = some q ∧ q.status = .approved := by
  obtain ⟨p', stored', owner, _⟩ := approved_row h b valid.init_
  rw [stored] at stored'
  cases stored'
  subst owner
  rcases row_step h valid stored with kept | ⟨actor, op, r, call, q, e', rfl, calls, change,
    reported, rewritten⟩
  · exact ⟨p, kept, status⟩
  · refine ⟨q, rewritten, ?_⟩
    cases change with
    | evaluated params _ _ asked =>
      obtain ⟨raw, rfl, _⟩ := asked
      obtain ⟨i, s, recorded, same⟩ := evaluation_entry valid calls reported
      rw [same] at valid current
      exact (recorded_read h valid current unread).elim
    | approved _ waits => rw [status] at waits; cases waits
    | claimed => exact status
    | promoted token versionRef _ held active asked =>
      obtain ⟨raw, rfl, _⟩ := asked
      cases op with
      | markPromoted tenantId' id' raw' token' =>
        cases calls
        obtain ⟨i, s, rfl, spawned, hist, rest, t, claim, v, versioned, split, tenant, named, _⟩ :=
          by_worker valid rfl (by simp)
        obtain ⟨before, j, recorded, later, rfl, judged, promote⟩ := versioned_recorded versioned
        rw [List.append_assoc, List.cons_append, ← tenant, ← named] at split
        obtain ⟨x, y, rfl, _, _⟩ := recorded_after h valid.init_ current.init.init spawned split
          judged named promote
        have earlier := valid.init_
        have still := current.init
        rw [← List.cons_append, ← List.append_assoc] at earlier still
        exact (recorded_read h earlier still fun e' member =>
          unread e' (List.mem_append_left _ member)).elim
      | _ => cases calls
    | rolledBack _ promoted => rw [status] at promoted; cases promoted

/-- A published message of the approval stays in the stream until some worker
has read the proposal. -/
theorem stays_in_stream (h : Fresh d w) {entry : Entry}
    (valid : Explained d w (a ++ granting tenantId id approver approval :: b ++ [entry]))
    (sent : Sent d w a (granting tenantId id approver approval) tenantId id e)
    (unread : ∀ e' ∈ b, readOf tenantId id e' = none)
    (there : ∃ m ∈ (after d w (a ++ granting tenantId id approver approval :: b)).stream,
      m.id = e.id) :
    ∃ m ∈ (after d w (a ++ granting tenantId id approver approval :: b ++ [entry])).stream,
      m.id = e.id := by
  obtain ⟨m, member, number⟩ := there
  cases entry with
  | spawned i s =>
    rw [after_spawned]
    exact ⟨m, member, number⟩
  | did actor op r =>
    rw [after_did, exec_stream]
    cases op with
    | publish event => exact ⟨m, List.mem_append_left _ member, number⟩
    | acknowledge eventId =>
      by_cases this : eventId = e.id
      · subst this
        exact (unacknowledged h valid sent unread).elim
      · have other : ¬ (m.id == eventId) = true := by
          simpa [number] using Ne.symm this
        have kept := (List.mem_eraseP_of_neg (p := fun x : StoredOutboxEvent => x.id == eventId)
          other).mpr member
        exact ⟨m, kept, number⟩
    | _ => exact ⟨m, member, number⟩

theorem waiting_step (h : Fresh d w) {entry : Entry}
    (valid : Explained d w (a ++ granting tenantId id approver approval :: b ++ [entry]))
    (current : Current (a ++ granting tenantId id approver approval :: b ++ [entry]))
    (sent : Sent d w a (granting tenantId id approver approval) tenantId id e)
    (unread : ∀ e' ∈ b, readOf tenantId id e' = none)
    (waiting : Waiting d w id e (a ++ granting tenantId id approver approval :: b)) :
    Waiting d w id e (a ++ granting tenantId id approver approval :: b ++ [entry]) := by
  have stays := stays_in_stream h valid sent unread
  obtain ⟨p, stored, status⟩ := waiting.row
  refine ⟨waiting_row h valid current unread stored status, ?_, ?_⟩
  · obtain ⟨at_, found, waits⟩ := waiting.event
    cases entry with
    | spawned i s =>
      rw [after_spawned]
      exact ⟨at_, found, waits⟩
    | did actor op r =>
      obtain ⟨at', found', same | ⟨tenant, rfl⟩⟩ :=
        exec_keeps (sound_after h _).proposals.outbox op found
      · refine ⟨at', by rw [after_did, found'], ?_⟩
        rcases waits with unconsumed | there
        · exact Or.inl (same.trans unconsumed)
        · exact Or.inr (stays there)
      · -- the publisher marks only what it published
        obtain ⟨i, s, rfl, _, event, told, _, number⟩ := by_worker valid rfl (by simp)
        obtain ⟨s', member⟩ := Machine.mem_history told
        refine ⟨at', by rw [after_did, found'], Or.inr (stays ?_)⟩
        exact waiting.published _ event _ member number.symm
  · intro actor m r member number
    rcases List.mem_append.mp member with before | now
    · exact stays (waiting.published actor m r before number)
    · cases List.mem_singleton.mp now
      rw [after_did, exec_stream]
      exact ⟨m, List.mem_append_right _ (List.mem_singleton_self m), number⟩

theorem waiting_first (h : Fresh d w)
    (valid : Explained d w (a ++ [granting tenantId id approver approval]))
    (sent : Sent d w a (granting tenantId id approver approval) tenantId id e) :
    Waiting d w id e (a ++ [granting tenantId id approver approval]) := by
  obtain ⟨parsed, p, _, grants⟩ := approval_grants h valid
  refine ⟨⟨approvedBy parsed (after d w a).clock p, ?_, rfl⟩, ⟨none, ?_, Or.inl rfl⟩, ?_⟩
  · rw [grants.records, InsertionMap.get_set_self]
  · rw [sent.stored, ← sent.unconsumed]
  · intro actor m r member number
    rcases List.mem_append.mp member with before | now
    · exact absurd number (sent.unpublished h valid.init_ before)
    · cases List.mem_singleton.mp now

/-- Until a worker reads the proposal approved, its approval waits. -/
theorem read_or_waiting (h : Fresh d w)
    (valid : Explained d w (a ++ granting tenantId id approver approval :: b))
    (current : Current (a ++ granting tenantId id approver approval :: b))
    (sent : Sent d w a (granting tenantId id approver approval) tenantId id e) :
    ReadApproved tenantId id b ∨ ((∀ e' ∈ b, readOf tenantId id e' = none) ∧
      Waiting d w id e (a ++ granting tenantId id approver approval :: b)) := by
  induction b using List.reverseRecOn with
  | nil => exact Or.inr ⟨by simp, waiting_first h valid sent⟩
  | append_singleton b entry ih =>
    rw [← List.cons_append, ← List.append_assoc] at valid current ⊢
    rcases ih valid.init_ current.init with ⟨e', member, seen⟩ | ⟨unread, waiting⟩
    · exact Or.inl ⟨e', List.mem_append_left _ member, seen⟩
    · cases read : readOf tenantId id entry with
      | none =>
        refine Or.inr ⟨fun e' member => ?_, waiting_step h valid current sent unread waiting⟩
        rcases List.mem_append.mp member with before | now
        · exact unread e' before
        · exact List.mem_singleton.mp now ▸ read
      | some p =>
        obtain ⟨q, stored, status⟩ := waiting.row
        rw [read_row h valid read] at stored
        cases stored
        exact Or.inl ⟨entry, by simp, by rw [read, Option.map_some, status]⟩

/-- Every message with the event's number is that event. -/
theorem Sent.message {log : Log} (h : Fresh d w) (valid : Explained d w log)
    (announces : isApproval e e.id tenantId id = true)
    (kept : Keeps (after d w log).proposals.outboxRepository e.id e) {m : StoredOutboxEvent}
    (member : m ∈ (after d w log).stream) (number : m.id = e.id) :
    isApproval m m.id tenantId id = true := by
  obtain ⟨_, _, published⟩ := stream_published h valid m member
  obtain ⟨at₁, first⟩ := published_stored h valid published
  obtain ⟨at₂, second⟩ := kept
  rw [number, second] at first
  have content := Option.some.inj first
  have tenants : e.tenantId = m.tenantId := congrArg (·.tenantId) content
  have kinds : e.eventType = m.eventType := congrArg (·.eventType) content
  have payloads : e.payload = m.payload := congrArg (·.payload) content
  simpa only [isApproval, tenants, kinds, payloads, beq_self_eq_true] using announces

/-- Whatever the interleaving, while no worker records an evaluation of a
proposal it read before a founder approved it, an approval is never lost: its
event waits in the outbox, its message waits in the stream, or some worker has
read the proposal approved; and it never waits for a founder again. -/
theorem approval_reaches_worker (h : Fresh d w) (labels : List (Machine.Label Op Start))
    (current : Current (runs (machine d).step (Machine.initial w) labels).log)
    (granted : (runs (machine d).step (Machine.initial w) labels).log =
      a ++ granting tenantId id approver approval :: b) :
    (Pending (runs (machine d).step (Machine.initial w) labels).state tenantId id ∨
      InStream (runs (machine d).step (Machine.initial w) labels).state tenantId id ∨
      ReadApproved tenantId id b) ∧
    ∀ p, (runs (machine d).step (Machine.initial w) labels).state.proposals.recordsById.get id =
      some p → p.status ≠ .requires_approval := by
  obtain ⟨valid, reached⟩ := machine_valid d w labels
  rw [reached]
  rw [granted] at valid current ⊢
  obtain ⟨e, sent⟩ := approval_sent h valid current.init
  refine ⟨?_, ?_⟩
  · rcases read_or_waiting h valid current sent with read | ⟨_, waiting⟩
    · exact Or.inr (Or.inr read)
    · obtain ⟨at_, found, rfl | ⟨m, member, number⟩⟩ := waiting.event
      · exact Or.inl ⟨_, (InsertionMap.mem_values _ _).mpr ⟨e.id, found⟩, rfl, sent.announces⟩
      · exact Or.inr (Or.inl ⟨m, member,
          Sent.message h valid sent.announces ⟨at_, found⟩ member number⟩)
  · intro p stored asked
    obtain ⟨q, found, _, approved⟩ := approved_row h b valid
    have same : some q = some p := found.symm.trans stored
    cases same
    exact approved (waiting_unapproved h valid current id p found asked).1

end

instance (w : World) (tenantId id : String) : Decidable (Pending w tenantId id) :=
  inferInstanceAs (Decidable (∃ e ∈ w.proposals.outboxRepository.events, _ ∧ _))

instance (w : World) (tenantId id : String) : Decidable (InStream w tenantId id) :=
  inferInstanceAs (Decidable (∃ m ∈ w.stream, _))

instance (tenantId id : String) (log : Log) : Decidable (ReadApproved tenantId id log) :=
  inferInstanceAs (Decidable (∃ e ∈ log, _))

def isGranting (tenantId id : String) : Entry → Bool
  | .did .outside (.approveAndEnqueue tenantId' id' _) (.ok (some _)) =>
    tenantId' == tenantId && id' == id
  | _ => false

theorem granting_of {tenantId id : String} {entry : Entry}
    (grants : isGranting tenantId id entry = true) :
    ∃ approver approval, entry = granting tenantId id approver approval := by
  unfold isGranting at grants
  split at grants
  · simp only [Bool.and_eq_true, beq_iff_eq] at grants
    obtain ⟨rfl, rfl⟩ := grants
    exact ⟨_, _, rfl⟩
  · cases grants

theorem granting_entry {tenantId id : String} {log : Log}
    (granted : log.any (isGranting tenantId id) = true) :
    ∃ a b approver approval, log = a ++ granting tenantId id approver approval :: b := by
  obtain ⟨entry, member, grants⟩ := List.any_eq_true.mp granted
  obtain ⟨approver, approval, rfl⟩ := granting_of grants
  obtain ⟨a, b, split⟩ := List.append_of_mem member
  exact ⟨a, b, approver, approval, split⟩

theorem approvedOnce_reaches : ∃ a b approver approval,
    (runs (machine deployed).step (Machine.initial opening) approvedOnce).log =
      a ++ granting acme (countedUuids.text 1) approver approval :: b ∧
    (Pending (runs (machine deployed).step (Machine.initial opening) approvedOnce).state acme
        (countedUuids.text 1) ∨
      InStream (runs (machine deployed).step (Machine.initial opening) approvedOnce).state acme
        (countedUuids.text 1) ∨
      ReadApproved acme (countedUuids.text 1) b) := by
  have granted : (runs (machine deployed).step (Machine.initial opening) approvedOnce).log.any
      (isGranting acme (countedUuids.text 1)) = true := by
    decide +kernel
  obtain ⟨a, b, approver, approval, split⟩ := granting_entry granted
  obtain ⟨reached, _⟩ := approval_reaches_worker opening_fresh approvedOnce (by decide +kernel) split
  exact ⟨a, b, approver, approval, split, reached⟩

def highRisk : Start := .critique acme (critiqued "c1" none ["too long"])

def approving : Machine.Label Op Start :=
  .outside (.approveAndEnqueue acme (countedUuids.text 1) "founder")

/-- The event of the approval is published, and nobody has handled it yet. -/
def published : List (Machine.Label Op Start) :=
  [.spawn highRisk] ++ turns 0 7 ++ [approving, .spawn (.drain acme 10)] ++ turns 1 5

/-- The critique is delivered twice; what the second worker read before the
approval it records after it, and the handler of the approval finds nothing to
promote. -/
def bounced : List (Machine.Label Op Start) :=
  [.spawn highRisk] ++ turns 0 7 ++ [.spawn highRisk] ++ turns 1 6 ++ [approving] ++ turns 1 1 ++
    [.spawn (.drain acme 10)] ++ turns 2 5 ++ [.spawn (.approved 2 acme (countedUuids.text 1))] ++
    turns 3 1 ++ [.settle 3]

/-- A published approval is in neither the outbox nor any worker's hands; and
an evaluation that comes too late makes the proposal wait again for a founder
whose second approval sends nothing. -/
theorem approvals_lost :
    (∃ a b approver approval,
      (runs (machine deployed).step (Machine.initial opening) published).log =
        a ++ granting acme (countedUuids.text 1) approver approval :: b ∧
      ¬ Pending (runs (machine deployed).step (Machine.initial opening) published).state acme
        (countedUuids.text 1) ∧ ¬ ReadApproved acme (countedUuids.text 1) b) ∧
    ((runs (machine deployed).step (Machine.initial opening) bounced).state.proposals.recordsById.get
        (countedUuids.text 1)).map (·.status) = some .requires_approval ∧
    ¬ Pending (runs (machine deployed).step (Machine.initial opening) bounced).state acme
      (countedUuids.text 1) ∧
    (∃ a approver approval,
      (runs (machine deployed).step (Machine.initial opening) (bounced ++ [approving])).log =
        a ++ granting acme (countedUuids.text 1) approver approval :: [] ∧
      ¬ Pending (runs (machine deployed).step (Machine.initial opening)
        (bounced ++ [approving])).state acme (countedUuids.text 1) ∧
      ¬ InStream (runs (machine deployed).step (Machine.initial opening)
        (bounced ++ [approving])).state acme (countedUuids.text 1)) := by
  -- Facts about one run are decided together, so that it is evaluated once.
  have ⟨granted, unread, sent⟩ :
      (runs (machine deployed).step (Machine.initial opening) published).log.any
          (isGranting acme (countedUuids.text 1)) = true ∧
        ¬ ReadApproved acme (countedUuids.text 1)
          (runs (machine deployed).step (Machine.initial opening) published).log ∧
        ¬ Pending (runs (machine deployed).step (Machine.initial opening) published).state acme
          (countedUuids.text 1) := by
    decide +kernel
  have ⟨waits, unsent⟩ :
      ((runs (machine deployed).step (Machine.initial opening)
          bounced).state.proposals.recordsById.get (countedUuids.text 1)).map (·.status) =
            some .requires_approval ∧
        ¬ Pending (runs (machine deployed).step (Machine.initial opening) bounced).state acme
          (countedUuids.text 1) := by
    decide +kernel
  have ⟨regranted, unsent', unstreamed⟩ :
      (runs (machine deployed).step (Machine.initial opening)
          (bounced ++ [approving])).log.getLast?.any (isGranting acme (countedUuids.text 1)) = true ∧
        ¬ Pending (runs (machine deployed).step (Machine.initial opening)
          (bounced ++ [approving])).state acme (countedUuids.text 1) ∧
        ¬ InStream (runs (machine deployed).step (Machine.initial opening)
          (bounced ++ [approving])).state acme (countedUuids.text 1) := by
    decide +kernel
  refine ⟨?_, waits, unsent, ?_⟩
  · obtain ⟨a, b, approver, approval, split⟩ := granting_entry granted
    refine ⟨a, b, approver, approval, split, sent, ?_⟩
    rintro ⟨e, member, seen⟩
    exact unread ⟨e, by rw [split]; simp [member], seen⟩
  · obtain ⟨entry, last, grants⟩ := (Option.any_eq_true _ _).mp regranted
    obtain ⟨approver, approval, rfl⟩ := granting_of grants
    obtain ⟨a, split⟩ := List.getLast?_eq_some_iff.mp last
    exact ⟨a, approver, approval, split, unsent', unstreamed⟩

end VantGrowth.Proofs.FounderApprovals
