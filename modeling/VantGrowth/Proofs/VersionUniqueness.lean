import VantGrowth.Proofs.HumanApproval
import VantGrowth.Proofs.PromotionLogs

namespace VantGrowth.Proofs.VersionUniqueness
open Core Db Db.LearningProposalStore Db.PlaybookVersionStore Lib Lib.Text Lib.Logs Learning
open ProposalEffects ProposalLifecycle ProposalKeys WorldSteps WorkerAwaits SystemLogs
open ProposalTasks VersionLogs PromotionLogs

/-- The store holds no two versions of one tenant, type and creator. -/
def AtMostOne (s : PlaybookVersionStore) (tenantId : String) (playbookType : PlaybookType)
    (createdBy : String) : Prop :=
  ∀ v ∈ s.ofType tenantId playbookType, ∀ u ∈ s.ofType tenantId playbookType,
    v.createdBy = createdBy → u.createdBy = createdBy → v = u

instance (s : PlaybookVersionStore) (tenantId : String) (playbookType : PlaybookType)
    (createdBy : String) : Decidable (AtMostOne s tenantId playbookType createdBy) :=
  inferInstanceAs (Decidable (∀ v ∈ s.ofType tenantId playbookType,
    ∀ u ∈ s.ofType tenantId playbookType, v.createdBy = createdBy → u.createdBy = createdBy →
      v = u))

/-- A version is created before the claim of the worker that creates it
expires. -/
def CreatedInTime (d : Deployment) (w : World) (a : Log) : Entry → Bool
  | .did (.worker i _) (.createVersion _ _) (.ok _) =>
    (Machine.history i a).all fun
      | ⟨.claimPromotion _ _, some claim⟩ => (after d w a).clock < claim.expiresAt
      | _ => true
  | _ => true

/-- Deliveries that name one proposal are deliveries of one critique. -/
def Redelivered (delivered : String → CritiqueCompletedPayload → Prop) : Prop :=
  ∀ tenantId payload other, delivered tenantId payload → delivered tenantId other →
    nonEmptyText (createdByOf payload) = nonEmptyText (createdByOf other) → payload = other

def Launched (labels : List (Machine.Label Op Start)) (tenantId : String)
    (payload : CritiqueCompletedPayload) : Prop :=
  .spawn (.critique tenantId payload) ∈ labels

def DeliveredIn (log : Log) (tenantId : String) (payload : CritiqueCompletedPayload) : Prop :=
  ∃ i, .spawned i (.critique tenantId payload) ∈ log

section
variable {d : Deployment} {w : World}

theorem in_time {a b : Log} {i : Nat} {s : Start} {tenantId tenantId' id : String}
    {params : CreatePlaybookVersionParams} {v : PlaybookVersionRecord}
    {claim : PromotionClaim CritiqueProposalPayload}
    (inTime : Each (fun a e => CreatedInTime d w a e = true)
      (a ++ .did (.worker i s) (.createVersion tenantId params) (.ok v) :: b))
    (granted : ⟨.claimPromotion tenantId' id, some claim⟩ ∈ Machine.history i a) :
    (after d w a).clock < claim.expiresAt := by
  have checked := inTime.at
  simp only [CreatedInTime, List.all_eq_true] at checked
  simpa using checked _ granted

/-- A creation in time finds no version of its creator in the store. -/
theorem creation_unrivalled (h : Fresh d w) {a : Log} {i : Nat} {s : Start} {tenantId : String}
    {params : CreatePlaybookVersionParams} {v : PlaybookVersionRecord}
    (valid : Explained d w (a ++ [.did (.worker i s) (.createVersion tenantId params) (.ok v)]))
    (inTime : Each (fun a e => CreatedInTime d w a e = true)
      (a ++ [.did (.worker i s) (.createVersion tenantId params) (.ok v)]))
    {k : String} {u : PlaybookVersionRecord} (stored : (after d w a).playbooks.records.get k = some u)
    (tenant : u.tenantId = tenantId) (type : u.playbookType = params.playbookType) :
    u.createdBy ≠ params.createdBy := by
  intro creator
  obtain ⟨p, claim, prior, a₁, a₂, a₃, split, row, owner, key, unfound, granted, first⟩ :=
    creation_claim h valid
  have alive := in_time inTime granted
  have listing : Explained d w ((a₁ ++ .did (.worker i s) (.claimPromotion tenantId p.id)
      (.ok (some claim)) :: a₂) ++
      .did (.worker i s) (.listVersions tenantId params.playbookType) (.ok prior) :: a₃) :=
    split ▸ valid.init_
  -- what was stored when the worker listed the versions, it found
  have unlisted : ∀ m m', a₁ ++ .did (.worker i s) (.claimPromotion tenantId p.id)
      (.ok (some claim)) :: a₂ = m ++ m' → (after d w m).playbooks.records.get k ≠ some u := by
    intro m m' cut early
    have shown := retains_after h m m' k u early
    rw [← cut] at shown
    exact unfound u ((listed_iff listing).mpr ⟨⟨k, shown⟩, tenant, type⟩) creator
  rcases version_origin h valid.init_ stored with old | ⟨a', b', j, s', params', created, type', creator'⟩
  · exact unlisted [] _ rfl old
  · have validC : Explained d w (a' ++ .did (.worker j s') (.createVersion u.tenantId params')
      (.ok u) :: b') := created ▸ valid.init_
    have born := (created_stored h validC).1
    have id : u.id = k := ((sound_after h a).playbooks.ids k u stored).1
    rw [id] at born
    rcases split_order (split.symm.trans created) with ⟨_, same, _⟩ | ⟨m, later, _⟩ | ⟨m, earlier, _⟩
    · cases same
    · -- created after the listing, under a claim that was alive then too
      obtain ⟨q, claim', prior', c₁, c₂, c₃, split', row', owner', key', _, granted', _⟩ :=
        creation_claim h validC
      have alive' := in_time (created ▸ inTime.init) granted'
      obtain ⟨q', hq', same, _⟩ := row_after h a' _ row'
      rw [← created] at hq'
      have one : p.id = q.id := by
        refine (sound_after h a).indexed.one_row row hq' ?_ ?_
        · rw [owner, show q'.tenantId = q.tenantId from congrArg Origin.tenantId same, owner',
            tenant]
        · rw [show q'.proposalKey = q.proposalKey from congrArg Origin.proposalKey same]
          rw [creator', creator, key] at key'
          exact Option.some.inj key'
      rw [← one] at split'
      have whole := split.trans (List.append_assoc _ _ _)
      have other := (created.trans (congrArg (· ++ _) split')).trans (List.append_assoc _ _ _)
      have reached := clock_after (d := d) (w := w) a₁ (.did (.worker i s)
        (.claimPromotion tenantId p.id) (.ok (some claim)) :: a₂ ++
        .did (.worker i s) (.listVersions tenantId params.playbookType) (.ok prior) :: m)
      rw [← List.append_assoc, ← later] at reached
      rw [List.append_assoc] at other
      have sameWorker := one_holder h valid.init_ whole other alive (lt_of_le_of_lt reached alive')
      subst sameWorker
      refine first u.tenantId params' u ?_
      rw [created, Machine.history_append]
      exact List.mem_append_right _ (by simp [Machine.history])
    · refine unlisted (a' ++ [.did (.worker j s') (.createVersion u.tenantId params') (.ok u)]) m
        ?_ born
      rw [earlier, List.append_assoc, List.singleton_append]

theorem at_most_one_after (h : Fresh d w) {tenantId : String} {playbookType : PlaybookType}
    {createdBy : String} (start : AtMostOne w.playbooks tenantId playbookType createdBy) {log : Log}
    (valid : Explained d w log) (inTime : Each (fun a e => CreatedInTime d w a e = true) log) :
    AtMostOne (after d w log).playbooks tenantId playbookType createdBy := by
  refine Machine.Valid.rec_ (J := fun log => Each (fun a e => CreatedInTime d w a e = true) log →
    AtMostOne (after d w log).playbooks tenantId playbookType createdBy) (fun _ => start) ?_ valid
    inTime
  intro a e valid ih inTime
  have before := ih inTime.init
  cases e with
  | spawned i s =>
    rw [after_spawned]
    exact before
  | did actor op r =>
    cases op with
    | createVersion tenant params =>
      obtain ⟨i, s, rfl, _⟩ := by_worker valid rfl (by simp)
      have drafts := drafts_at h valid
      generalize (after d w (a ++ [.did (.worker i s) (.createVersion tenant params)
        r])).playbooks = t at drafts ⊢
      cases drafts with
      | refused e records =>
        have same : t.ofType tenantId playbookType =
            (after d w a).playbooks.ofType tenantId playbookType := by
          simp only [ofType, records]
        rw [AtMostOne, same]
        exact before
      | drafted version v row fresh records newest =>
        have cases_ : ∀ u ∈ t.ofType tenantId playbookType,
            u = v ∨ u ∈ (after d w a).playbooks.ofType tenantId playbookType := by
          intro u hu
          obtain ⟨⟨k, hk⟩, ofTenant, ofType_⟩ := mem_ofType.mp hu
          rw [records, InsertionMap.get_set] at hk
          split at hk
          · exact Or.inl (Option.some.inj hk).symm
          · exact Or.inr (mem_ofType.mpr ⟨⟨k, hk⟩, ofTenant, ofType_⟩)
        have unrivalled : v ∈ t.ofType tenantId playbookType → v.createdBy = createdBy →
            ∀ u ∈ (after d w a).playbooks.ofType tenantId playbookType,
              u.createdBy ≠ createdBy := by
          intro hv creator u hu
          obtain ⟨_, vt, vp⟩ := mem_ofType.mp hv
          obtain ⟨⟨k, hk⟩, ut, up⟩ := mem_ofType.mp hu
          rw [← creator]
          subst row
          exact creation_unrivalled h valid inTime hk (ut.trans vt.symm) (up.trans vp.symm)
        intro u hu u' hu' creator creator'
        rcases cases_ u hu with rfl | old
        · rcases cases_ u' hu' with rfl | old'
          · rfl
          · exact absurd creator' (unrivalled hu creator u' old')
        · rcases cases_ u' hu' with rfl | old'
          · exact absurd creator (unrivalled hu' creator' u old)
          · exact before u old u' old' creator creator'
    | _ =>
      rw [after_did]
      exact before

theorem supplied_parses (uuid : Supply) (n : Nat) :
    nonEmptyText (uuid.text n) = some (uuid.text n) := by
  obtain ⟨trimmed, filled⟩ := uuid.plain n
  rw [nonEmptyText, trimmed, if_neg filled]

/-- A worker's task is of the type and critique its proposal stores. -/
theorem task_named (h : Fresh d w) {a : Log} (valid : Explained d w a)
    (redelivered : Redelivered (DeliveredIn a)) {i : Nat} {s : Start} {hist rest : List (Did Res)}
    {t : Task} (spawned : .spawned i s ∈ a) (taken : TakenUp s hist t)
    (split : Machine.history i a = hist ++ rest) {p : Proposal}
    (stored : (after d w a).proposals.recordsById.get t.persisted.id = some p) :
    p.tenantId = t.tenantId ∧ t.playbookType = p.proposalPayload.playbook_type ∧
      createdByOf t.critique = join "critique" p.proposalPayload.critique_id := by
  obtain ⟨q, hq, same, tenant, key, creator⟩ := task_row h valid spawned taken split
  rw [stored] at hq
  cases hq
  have owner : p.tenantId = t.tenantId := (congrArg Origin.tenantId same).trans tenant
  refine ⟨owner, ?_⟩
  cases taken with
  | critique tenantId payload playbookType proposedAt persisted event resolved =>
    obtain ⟨j, first, type, at_, delivered, resolved', held, keyed, _⟩ :=
      authored h valid _ p stored
    rw [owner] at delivered
    have keys : nonEmptyText (createdByOf payload) = nonEmptyText (createdByOf first) := by
      rw [← creator, key, createdByOf, keyed]
      exact congrArg some (congrArg Origin.proposalKey same).symm
    have one := redelivered tenantId payload first ⟨i, spawned⟩ ⟨j, delivered⟩ keys
    subst one
    rw [resolved] at resolved'
    cases resolved'
    rw [held]
    exact ⟨rfl, rfl⟩
  | approved eventId tenantId proposalId persisted status =>
    have payload : p.proposalPayload = persisted.proposalPayload :=
      congrArg Origin.proposalPayload same
    rw [payload]
    exact ⟨rfl, rfl⟩

/-- What a promoted proposal refers to is a stored version of its critique. -/
theorem promoted_names (h : Fresh d w) {log : Log} (valid : Explained d w log) :
    ∀ id p, (after d w log).proposals.recordsById.get id = some p →
      Redelivered (DeliveredIn log) → ∀ ref, p.promotedVersionRef = some ref →
      ∃ v, (after d w log).playbooks.records.get ref = some v ∧ v.tenantId = p.tenantId ∧
        v.playbookType = p.proposalPayload.playbook_type ∧
        v.createdBy = join "critique" p.proposalPayload.critique_id := by
  have earlier : ∀ a (e : Entry), Redelivered (DeliveredIn (a ++ [e])) →
      Redelivered (DeliveredIn a) := by
    rintro a e redelivered tenantId payload other ⟨i, hi⟩ ⟨j, hj⟩
    exact redelivered tenantId payload other ⟨i, List.mem_append_left _ hi⟩
      ⟨j, List.mem_append_left _ hj⟩
  have kept : ∀ a e (p q : Proposal), origin q = origin p →
      q.promotedVersionRef = p.promotedVersionRef →
      (Redelivered (DeliveredIn a) → ∀ ref, p.promotedVersionRef = some ref →
        ∃ v, (after d w a).playbooks.records.get ref = some v ∧ v.tenantId = p.tenantId ∧
          v.playbookType = p.proposalPayload.playbook_type ∧
          v.createdBy = join "critique" p.proposalPayload.critique_id) →
      Redelivered (DeliveredIn (a ++ [e])) → ∀ ref, q.promotedVersionRef = some ref →
        ∃ v, (after d w (a ++ [e])).playbooks.records.get ref = some v ∧ v.tenantId = q.tenantId ∧
          v.playbookType = q.proposalPayload.playbook_type ∧
          v.createdBy = join "critique" q.proposalPayload.critique_id := by
    intro a e p q same unmoved before redelivered ref named
    obtain ⟨v, stored, tenant, type, creator⟩ :=
      before (earlier a e redelivered) ref (unmoved.symm.trans named)
    have payload : q.proposalPayload = p.proposalPayload := congrArg Origin.proposalPayload same
    rw [payload, show q.tenantId = p.tenantId from congrArg Origin.tenantId same]
    exact ⟨v, retains_after h a [e] ref v stored, tenant, type, creator⟩
  refine rows_induction h (K := fun log _ p => Redelivered (DeliveredIn log) →
    ∀ ref, p.promotedVersionRef = some ref →
      ∃ v, (after d w log).playbooks.records.get ref = some v ∧ v.tenantId = p.tenantId ∧
        v.playbookType = p.proposalPayload.playbook_type ∧
        v.createdBy = join "critique" p.proposalPayload.critique_id) ?_ ?_ ?_ valid
  · exact fun a e _ p => kept a e p p rfl rfl
  · intro a actor tenantId raw r params id now _ _ _ ref named
    cases named
  · intro a actor op r call id p q e valid calls stored change _ before
    cases change with
    | evaluated => exact kept a _ p _ rfl rfl before
    | approved => exact kept a _ p _ rfl rfl before
    | claimed => exact kept a _ p _ rfl rfl before
    | rolledBack => exact kept a _ p _ rfl rfl before
    | promoted token versionRef status held active asked =>
      intro redelivered ref named
      obtain ⟨raw, rfl, parses⟩ := asked
      cases op with
      | markPromoted tenantId id' ref' token' =>
        cases calls
        obtain ⟨i, s, rfl, spawned, hist, rest, t, claim, v, versioned, split, _, rfl, rfl, _⟩ :=
          by_worker valid rfl (by simp)
        obtain ⟨there, tenant, type, creator⟩ :=
          versioned_stored h valid.init_ spawned versioned split
        obtain ⟨hT, more, taken, hT_⟩ := versioned.taken
        obtain ⟨owner, ofType, ofCritique⟩ := task_named h valid.init_ (earlier a _ redelivered)
          spawned taken (split.trans ((congrArg (· ++ rest) hT_).trans (List.append_assoc _ _ _)))
          stored
        obtain ⟨_, n, _, supplied⟩ := (sound_after h a).playbooks.ids v.id v there
        rw [supplied, supplied_parses] at parses
        cases parses
        cases named
        refine ⟨v, ?_, tenant.trans owner.symm, type.trans ofType, creator.trans ofCritique⟩
        exact supplied ▸ retains_after h a [_] v.id v there
      | _ => cases calls

/-- Where every version is created before the claim it is created under
expires, there is one version for each critique, whatever is redelivered,
delayed or crashes, and a promoted proposal refers to it. -/
theorem one_version_per_critique (h : Fresh d w) (labels : List (Machine.Label Op Start))
    (redelivered : Redelivered (Launched labels))
    (inTime : Each (fun a e => CreatedInTime d w a e = true)
      (runs (machine d).step (Machine.initial w) labels).log)
    (tenantId : String) (playbookType : PlaybookType) (critiqueId : String)
    (start : AtMostOne w.playbooks tenantId playbookType (join "critique" critiqueId)) :
    AtMostOne (runs (machine d).step (Machine.initial w) labels).state.playbooks tenantId
      playbookType (join "critique" critiqueId) ∧
    ∀ id p, (runs (machine d).step (Machine.initial w) labels).state.proposals.recordsById.get id =
        some p → p.tenantId = tenantId → p.proposalPayload.playbook_type = playbookType →
      p.proposalPayload.critique_id = critiqueId → p.status = .promoted →
      ∃ v ∈ (runs (machine d).step (Machine.initial w) labels).state.playbooks.ofType tenantId
        playbookType, v.createdBy = join "critique" critiqueId ∧ p.promotedVersionRef = some v.id := by
  obtain ⟨valid, state⟩ := machine_valid d w labels
  have delivered : Redelivered
      (DeliveredIn (runs (machine d).step (Machine.initial w) labels).log) := by
    rintro tenantId payload other ⟨i, hi⟩ ⟨j, hj⟩
    refine redelivered tenantId payload other ?_ ?_
    · exact (Machine.spawned_labelled hi).resolve_left (List.not_mem_nil)
    · exact (Machine.spawned_labelled hj).resolve_left (List.not_mem_nil)
  rw [state]
  refine ⟨at_most_one_after h start valid inTime, ?_⟩
  rintro id p stored rfl rfl rfl status
  cases named : p.promotedVersionRef with
  | none =>
    have promoted := ((sound_after h _).proposals.records id p stored).promoted (Or.inl status)
    exact absurd named promoted.1
  | some ref =>
    obtain ⟨v, there, tenant, type, creator⟩ :=
      promoted_names h valid id p stored delivered ref named
    have id := ((sound_after h _).playbooks.ids ref v there).1
    exact ⟨v, mem_ofType.mpr ⟨⟨ref, there⟩, tenant, type⟩, creator, congrArg some id.symm⟩

end

open HumanApproval in
/-- The worker that claims first comes to the creation only after its claim has
expired and a second delivery has promoted the proposal. -/
def overtaken : List (Machine.Label Op Start) :=
  [.spawn (.critique acme (critiqued "c1" (some .low) ["too long"])),
    .spawn (.critique acme (critiqued "c1" (some .low) ["too long"]))] ++ turns 0 12 ++
    [.outside (.tick 60000)] ++ turns 1 16 ++ [.run 0]

open HumanApproval in
theorem overtaken_twice : Redelivered (Launched overtaken) ∧
    AtMostOne opening.playbooks acme .blog_draft (join "critique" "c1") ∧
    ¬ AtMostOne (runs (machine deployed).step (Machine.initial opening) overtaken).state.playbooks
      acme .blog_draft (join "critique" "c1") := by
  refine ⟨?_, by decide +kernel, by decide +kernel⟩
  intro tenantId payload other first second _
  simp [Launched, overtaken, turns] at first second
  rw [first.2, second.2]

open HumanApproval in
/-- The first worker crashes after it has created the version, and a second
delivery finds it. -/
def recovered : List (Machine.Label Op Start) :=
  [.spawn (.critique acme (critiqued "c1" (some .low) ["too long"])),
    .spawn (.critique acme (critiqued "c1" (some .low) ["too long"]))] ++ turns 0 13 ++
    [.outside (.tick 60000)] ++ turns 1 12

open HumanApproval in
theorem recovered_once :
    AtMostOne (runs (machine deployed).step (Machine.initial opening) recovered).state.playbooks
      acme .blog_draft (join "critique" "c1") ∧
    ∃ v ∈ (runs (machine deployed).step (Machine.initial opening) recovered).state.playbooks.ofType
      acme .blog_draft, v.createdBy = join "critique" "c1" ∧
      ((runs (machine deployed).step (Machine.initial opening)
        recovered).state.proposals.recordsById.get (countedUuids.text 1)).bind
        (·.promotedVersionRef) = some v.id := by
  have redelivered : Redelivered (Launched recovered) := by
    intro tenantId payload other first second _
    simp [Launched, recovered, turns] at first second
    rw [first.2, second.2]
  obtain ⟨single, names⟩ := one_version_per_critique opening_fresh recovered redelivered
    (by decide +kernel) acme .blog_draft "c1" (by decide +kernel)
  refine ⟨single, ?_⟩
  have row : ((runs (machine deployed).step (Machine.initial opening)
      recovered).state.proposals.recordsById.get (countedUuids.text 1)).any (fun p =>
      p.tenantId == acme && p.proposalPayload.playbook_type == .blog_draft &&
        p.proposalPayload.critique_id == "c1" && p.status == .promoted) = true := by
    decide +kernel
  obtain ⟨p, stored, is⟩ := (Option.any_eq_true _ _).mp row
  simp only [Bool.and_eq_true, beq_iff_eq] at is
  obtain ⟨v, member, creator, named⟩ := names _ p stored is.1.1.1 is.1.1.2 is.1.2 is.2
  refine ⟨v, member, creator, ?_⟩
  rw [stored, Option.bind_some, named]

end VantGrowth.Proofs.VersionUniqueness
