import VantGrowth.Proofs.WorkerAwaits
import VantGrowth.Proofs.WorldSteps

namespace VantGrowth.Proofs.SystemLogs
open Core Db Db.LearningProposalStore Lib Lib.Text Learning
open ProposalEffects ProposalLifecycle ProposalKeys WorldSteps WorkerAwaits

abbrev Entry := Machine.Entry Res DbError Start

abbrev Log := List Entry

/-- A log the workers, publishers and founders can produce from `w`. -/
abbrev Explained (d : Deployment) (w : World) (log : Log) : Prop :=
  Machine.Valid (machine d) (Asks d) Returned w log

/-- The world a log leads to. -/
abbrev after (d : Deployment) (w : World) (log : Log) : World := (machine d).replay w log

/-- Nothing was proposed yet; playbooks and experiments are whatever they are. -/
structure Fresh (d : Deployment) (w : World) : Prop where
  proposals : w.proposals = .empty
  stream : w.stream = []
  playbooks : w.playbooks.Sound d.backend d.versionUuid

section
variable {d : Deployment} {w : World}

theorem after_append (a b : Log) : after d w (a ++ b) = after d (after d w a) b :=
  Machine.replay_append _ _ _ _

theorem after_spawned (a : Log) (i : Nat) (s : Start) :
    after d w (a ++ [.spawned i s]) = after d w a :=
  Machine.replay_snoc _ _ _ _

theorem after_did (a : Log) (actor : Machine.Actor Start) (op : Op) (r : Except DbError (Res op)) :
    after d w (a ++ [.did actor op r]) = ((exec d op).run (after d w a)).2 :=
  Machine.replay_snoc _ _ _ _

theorem Fresh.sound (h : Fresh d w) : WorldSound d w := by
  refine ⟨?_, ?_, h.playbooks⟩
  · rw [h.proposals]
    exact empty_sound d.uuid
  · rw [h.proposals]
    exact empty_indexed

theorem sound_after (h : Fresh d w) (log : Log) : WorldSound d (after d w log) :=
  Machine.replay_invariant (I := WorldSound d) (fun _ op hs => exec_sound d op hs) h.sound log

theorem persists_after (h : Fresh d w) (a b : Log) :
    Persists (after d w a).proposals (after d w (a ++ b)).proposals := by
  rw [after_append]
  exact Machine.replay_related (I := WorldSound d)
    (R := fun s t => Persists s.proposals t.proposals) (fun s => Persists.refl s.proposals)
    (fun _ _ _ => Persists.trans) (fun _ op hs => exec_sound d op hs)
    (fun _ op hs => exec_persists d op hs) (sound_after h a) b

theorem extends_after (h : Fresh d w) (a b : Log) :
    Extends (after d w a).proposals (after d w (a ++ b)).proposals := by
  rw [after_append]
  exact Machine.replay_related (I := WorldSound d)
    (R := fun s t => Extends s.proposals t.proposals)
    (fun _ _ p hp sound => ⟨p, hp, sound, .refl sound⟩) (fun _ _ _ => Extends.trans)
    (fun _ op hs => exec_sound d op hs) (fun _ op hs => exec_extends d op hs) (sound_after h a) b

/-- The row a record has later on: of the same origin, evolved. -/
theorem row_after (h : Fresh d w) (a b : Log) {i : String} {p : Proposal}
    (stored : (after d w a).proposals.recordsById.get i = some p) :
    ∃ q, (after d w (a ++ b)).proposals.recordsById.get i = some q ∧ origin q = origin p ∧
      Evolves p q := by
  obtain ⟨q, hq, same⟩ := persists_after h a b i p stored
  obtain ⟨r, hr, _, evolves⟩ := extends_after h a b i p stored
    ((sound_after h a).proposals.records i p stored)
  rw [hq] at hr
  cases hr
  exact ⟨q, hq, same, evolves⟩

theorem answered_run {a b : Log} {actor : Machine.Actor Start} {op : Op}
    {r : Except DbError (Res op)} (valid : Explained d w (a ++ .did actor op r :: b)) :
    r = ((exec d op).run (after d w a)).1 :=
  valid.answered a b actor op r rfl

/-- The step of a log's last entry, judged by what its operation ends with. -/
theorem did_ends {a b : Log} {actor : Machine.Actor Start} {op : Op} {r : Except DbError (Res op)}
    (valid : Explained d w (a ++ .did actor op r :: b)) {Q : Except DbError (Res op) → World → Prop}
    (ends : (exec d op).Ends (after d w a) Q) : Q r (after d w (a ++ [.did actor op r])) := by
  rw [after_did, answered_run valid]
  exact ends

/-- What holds of every inserted row and is kept by every rewrite holds of
every row. -/
theorem rows_induction (h : Fresh d w) {K : Log → String → Proposal → Prop}
    (grow : ∀ a e i p, K a i p → K (a ++ [e]) i p)
    (insert : ∀ a actor tenantId raw r params id now,
      Explained d w (a ++ [.did actor (.createProposal tenantId raw) r]) →
      raw.parse = some params →
      K (a ++ [.did actor (.createProposal tenantId raw) r]) id (newRecord params id tenantId now))
    (rewrite : ∀ a actor op r call id p q e, Explained d w (a ++ [.did actor op r]) →
      asCall op = some call → (after d w a).proposals.recordsById.get id = some p →
      Change (after d w a).clock call id p e q →
      (leaseReport op r = some (id, e) ∨ leaseReport op r = none ∧ e = .idle) → K a id p →
      K (a ++ [.did actor op r]) id q)
    {log : Log} (valid : Explained d w log) :
    ∀ id p, (after d w log).proposals.recordsById.get id = some p → K log id p := by
  refine Machine.Valid.rec_ (J := fun log =>
    ∀ id p, (after d w log).proposals.recordsById.get id = some p → K log id p) ?_ ?_ valid
  · intro id p hp
    have none_ : w.proposals.recordsById.get id = none := by
      rw [h.proposals]
      rfl
    exact absurd (none_.symm.trans hp) (by simp)
  · intro a e valid ih id p hp
    cases e with
    | spawned i s =>
      rw [after_spawned] at hp
      exact grow a _ id p (ih id p hp)
    | did actor op r =>
      cases hc : asCall op with
      | none =>
        rw [after_did, (exec_quiet d _ (sound_after h a).proposals.outbox hc).1.records] at hp
        exact grow a _ id p (ih id p hp)
      | some call =>
        have effect := (did_ends valid
          (exec_effect d _ (sound_after h a).proposals.outbox hc)).1
        generalize ho : leaseReport op r = o at effect
        cases effect with
        | kept records =>
          rw [records] at hp
          exact grow a _ id p (ih id p hp)
        | created params tenantId tenant drawn records outbox index vacant asked =>
          rw [records, InsertionMap.get_set] at hp
          split at hp
          · rename_i hid
            cases hp
            obtain ⟨raw, rfl, parses⟩ := asked
            cases op with
            | createProposal tenantId' raw' =>
              cases hc
              exact hid ▸ insert a actor _ _ r params _ _ valid parses
            | _ => cases hc
          · exact grow a _ id p (ih id p hp)
        | changed id' p' q e _ stored change records drawn outbox reported =>
          rw [records, InsertionMap.get_set] at hp
          split at hp
          · rename_i hid
            cases hp
            subst hid
            exact rewrite a actor op r call id p' p e valid hc stored change (ho ▸ reported)
              (ih id p' stored)
          · exact grow a _ id p (ih id p hp)

end

end VantGrowth.Proofs.SystemLogs

namespace VantGrowth.Proofs.ProposalTasks
open Core Db Db.LearningProposalStore Lib Lib.Text Learning
open ProposalEffects ProposalLifecycle ProposalKeys WorldSteps WorkerAwaits SystemLogs

theorem create_parse {raw params : CreateLearningProposalParams π} (h : raw.parse = some params) :
    nonEmptyText raw.proposalKey = some params.proposalKey ∧
    params.proposalPayload = raw.proposalPayload ∧ params.risk = raw.risk := by
  simp only [CreateLearningProposalParams.parse, bind, Option.bind_eq_some_iff, pure,
    Option.some.injEq] at h
  obtain ⟨proposalKey, keyed, _, _, _, _, _, _, _, _, _, _, _, _, rfl⟩ := h
  exact ⟨keyed, rfl, rfl⟩

/-- A proposal is what a delivered critique made of itself. -/
def Authored (log : Log) (p : Proposal) : Prop :=
  ∃ i payload playbookType proposedAt, .spawned i (.critique p.tenantId payload) ∈ log ∧
    resolvePlaybookType payload.artifact_kind = .known playbookType ∧
    p.proposalPayload = proposedPayload p.tenantId payload playbookType proposedAt ∧
    nonEmptyText (join "critique" payload.critique_id) = some p.proposalKey ∧
    p.risk = riskOf payload

section
variable {d : Deployment} {w : World}

theorem by_worker {a b : Log} {actor : Machine.Actor Start} {op : Op} {r : Except DbError (Res op)}
    (valid : Explained d w (a ++ .did actor op r :: b)) (inside : (machine d).outside op = false)
    (handled : ∀ n, op ≠ .acknowledge n) :
    ∃ i s, actor = .worker i s ∧ .spawned i s ∈ a ∧ Asks d s (Machine.history i a) op := by
  cases actor with
  | worker i s => exact ⟨i, s, rfl, valid.worked a b i s op r rfl⟩
  | settled i s =>
    obtain ⟨_, acknowledged, _⟩ := valid.settled a b i s op r rfl
    cases s with
    | approved eventId tenantId proposalId =>
      exact absurd (Option.some.inj acknowledged).symm (handled eventId)
    | critique => cases acknowledged
    | drain => cases acknowledged
  | outside =>
    have allowed := valid.outside a b op r rfl
    rw [inside] at allowed
    cases allowed

theorem authored (h : Fresh d w) {log : Log} (valid : Explained d w log) :
    ∀ id p, (after d w log).proposals.recordsById.get id = some p → Authored log p := by
  refine rows_induction h (K := fun log _ p => Authored log p) ?_ ?_ ?_ valid
  · rintro a e id p ⟨i, payload, playbookType, proposedAt, spawned, rest⟩
    exact ⟨i, payload, playbookType, proposedAt, List.mem_append_left _ spawned, rest⟩
  · intro a actor tenantId raw r params id now valid parses
    obtain ⟨i, s, _, spawned, payload, playbookType, proposedAt, rfl, resolved, rfl⟩ :=
      by_worker valid rfl (by simp)
    obtain ⟨keyed, held, risk⟩ := create_parse parses
    exact ⟨i, payload, playbookType, proposedAt, List.mem_append_left _ spawned, resolved, held,
      keyed, risk⟩
  · rintro a actor op r call id p q e _ _ _ change _
      ⟨i, payload, playbookType, proposedAt, spawned, resolved, held, keyed, risk⟩
    have same := change_origin change
    have tenant : q.tenantId = p.tenantId := congrArg Origin.tenantId same
    refine ⟨i, payload, playbookType, proposedAt, ?_, resolved, ?_, ?_, ?_⟩
    · rw [tenant]
      exact List.mem_append_left _ spawned
    · rw [tenant]
      exact (congrArg Origin.proposalPayload same).trans held
    · exact keyed.trans (congrArg some (congrArg Origin.proposalKey same).symm)
    · exact (congrArg Origin.risk same).trans risk

/-- The proposal a worker took up is stored, under the key it looks it up by. -/
theorem task_row (h : Fresh d w) {a : Log} (valid : Explained d w a) {i : Nat} {s : Start}
    {hist rest : List (Did Res)} {t : Task} (spawned : .spawned i s ∈ a) (taken : TakenUp s hist t)
    (split : Machine.history i a = hist ++ rest) :
    ∃ q, (after d w a).proposals.recordsById.get t.persisted.id = some q ∧
      origin q = origin t.persisted ∧ t.persisted.tenantId = t.tenantId ∧
      nonEmptyText t.proposal.proposalId = some t.persisted.proposalKey ∧
      t.proposal.proposalId = createdByOf t.critique := by
  cases taken with
  | critique tenantId payload playbookType proposedAt persisted event resolved =>
    have cut : ∃ k : List (Did Res), Machine.history i a = [⟨.now, proposedAt⟩] ++
        ⟨.createProposal tenantId (persistParams tenantId payload playbookType proposedAt),
          persisted⟩ :: k := ⟨_, split⟩
    obtain ⟨_, cut⟩ := cut
    obtain ⟨a₁, a₂, rfl, _, _, _⟩ := valid.answer_at spawned cut
    obtain ⟨params, j, parses, uuid, index, stored⟩ :=
      (did_ends valid (creation_step d _ tenantId _)).1.answered persisted rfl
    have sound := sound_after h
      (a₁ ++ [.did (.worker i (.critique tenantId payload)) (.createProposal tenantId
        (persistParams tenantId payload playbookType proposedAt)) (.ok persisted)])
    obtain ⟨p, hp, tenant, keyed⟩ := sound.indexed.row_of_key uuid index
    rw [stored] at hp
    cases hp
    have id := (sound.proposals.ids j persisted stored).1
    obtain ⟨q, hq, same, _⟩ := row_after h _ a₂ stored
    rw [List.append_assoc, List.singleton_append] at hq
    exact ⟨q, id ▸ hq, same, tenant, (create_parse parses).1.trans (congrArg some keyed.symm),
      rfl⟩
  | approved eventId tenantId proposalId persisted status =>
    rw [List.singleton_append] at split
    obtain ⟨a₁, a₂, rfl, _, _, _⟩ := valid.answer_at spawned
      (split.trans (List.nil_append _).symm)
    have found := (did_ends valid (getProposal_step d _ tenantId proposalId)).2 _ rfl
    obtain ⟨stored, owner⟩ := scoped_stored found.symm
    have id := ((sound_after h a₁).proposals.ids proposalId persisted stored).1
    obtain ⟨_, payload, _, _, _, _, held, keyed, _⟩ := authored h valid.init_ proposalId persisted
      stored
    subst id
    obtain ⟨q, hq, same, _⟩ := row_after h a₁ _ stored
    refine ⟨q, hq, same, owner, ?_, ?_⟩
    · simp only [storedProposal, held, proposedPayload]
      exact keyed
    · simp only [storedProposal, storedCritique, createdByOf, held, proposedPayload]

/-- What a worker read by key is the row of its own proposal. -/
theorem judged_row (h : Fresh d w) {a : Log} (valid : Explained d w a) {i : Nat} {s : Start}
    {hist rest : List (Did Res)} {t : Task} {j : Judgement} (spawned : .spawned i s ∈ a)
    (judged : Judged d s hist t j) (split : Machine.history i a = hist ++ rest) :
    ∃ a₁ a₂, a = a₁ ++ a₂ ∧
      (after d w a₁).proposals.recordsById.get t.persisted.id = some j.persisted := by
  cases judged with
  | read hist _ _ experimentId taken keyed decided =>
    rw [List.append_assoc, List.cons_append] at split
    obtain ⟨a₁, a₂, rfl, before, _, started⟩ := valid.answer_at spawned split
    refine ⟨a₁, _, rfl, ?_⟩
    obtain ⟨p, hp, same, tenant, own, _⟩ := task_row h valid.init_ started taken
      (before.trans (List.append_nil hist).symm)
    have trimmed := (nonEmptyText_trimmed keyed).2.1
    obtain ⟨uuid, found⟩ :=
      (did_ends valid (getByProposalKey_step d _ t.tenantId j.proposalKey)).2 trimmed _ rfl
    have indexed := (sound_after h a₁).indexed
    obtain ⟨k, stored, owner, key⟩ := rowOfKey_stored indexed uuid found.symm
    have sameKey : j.proposalKey = t.persisted.proposalKey := Option.some.inj (keyed.symm.trans own)
    have one := indexed.one_row stored hp
      (owner.trans (tenant.symm.trans (congrArg Origin.tenantId same).symm))
      (key.trans (sameKey.trans (congrArg Origin.proposalKey same).symm))
    exact one ▸ stored

end

end VantGrowth.Proofs.ProposalTasks
