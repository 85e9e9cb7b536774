import VantGrowth.Proofs.PromotionFencing
import VantGrowth.Proofs.VersionLogs

namespace VantGrowth.Proofs.PromotionLogs
open Core Db Db.LearningProposalStore Lib Lib.Text Lib.Logs Learning
open ProposalEffects ProposalLifecycle ProposalKeys PromotionFencing WorldSteps WorkerAwaits
open SystemLogs ProposalTasks VersionLogs

/-- What an entry of a log did to the lease on a proposal. -/
def eventOf (id : String) : Entry → Lease.Event String Instant
  | .spawned _ _ => .idle
  | .did _ op r => eventFor id (leaseReport op r)

/-- The lease events of a proposal with the times they happened at. -/
def leaseEvents (d : Deployment) (id : String) : World → Log →
    List (Instant × Lease.Event String Instant)
  | _, [] => []
  | w, e :: log => (w.clock, eventOf id e) :: leaseEvents d id ((machine d).apply w e) log

section
variable {d : Deployment} {w : World} (id : String)

theorem leaseEvents_append (a b : Log) : leaseEvents d id w (a ++ b) =
    leaseEvents d id w a ++ leaseEvents d id (after d w a) b := by
  induction a generalizing w with
  | nil => rfl
  | cons e a ih =>
    simp only [List.cons_append, leaseEvents, ih]
    rfl

theorem leaseEvents_at (a b : Log) (e : Entry) : leaseEvents d id w (a ++ e :: b) =
    leaseEvents d id w a ++
      ((after d w a).clock, eventOf id e) :: leaseEvents d id (after d w (a ++ [e])) b := by
  rw [leaseEvents_append, after_append]
  rfl

theorem leaseEvents_later (log : Log) : ∀ e ∈ leaseEvents d id w log, w.clock ≤ e.1 := by
  induction log generalizing w with
  | nil => simp [leaseEvents]
  | cons e log ih =>
    intro f hf
    rcases List.mem_cons.mp hf with rfl | hf
    · exact le_refl _
    · exact le_trans (clock_after [] [e]) (ih f hf)

theorem leaseEvents_ordered (log : Log) : Lease.Ordered (leaseEvents d id w log) := by
  induction log generalizing w with
  | nil => exact List.Pairwise.nil
  | cons e log ih =>
    refine List.pairwise_cons.mpr ⟨fun f hf => ?_, ih⟩
    exact le_trans (clock_after [] [e]) (leaseEvents_later id log f hf)

theorem quiet_report {op : Op} (quiet : asCall op = none) (r : Except DbError (Res op)) :
    leaseReport op r = none := by
  cases op with
  | createProposal | recordEvaluation | claimPromotion | markPromoted | approveAndEnqueue
  | markRolledBack => cases quiet
  | _ => rfl

/-- A log is a run of the lease on each of its proposals. -/
theorem lease_runs (h : Fresh d w) {log : Log} (valid : Explained d w log) :
    Lease.Runs (leaseEvents d id w log)
      (leaseState ((after d w log).proposals.recordsById.get id)) := by
  refine Machine.Valid.rec_ (J := fun log => Lease.Runs (leaseEvents d id w log)
    (leaseState ((after d w log).proposals.recordsById.get id))) ?_ ?_ valid
  · change Lease.Runs [] (leaseState (w.proposals.recordsById.get id))
    rw [h.proposals]
    exact .nil
  · intro a e valid before
    rw [leaseEvents_append]
    refine .snoc _ _ _ _ _ before ?_
    cases e with
    | spawned i s =>
      rw [after_spawned]
      exact .idle _
    | did actor op r =>
      have sound := (sound_after h a).proposals
      cases hc : asCall op with
      | none =>
        rw [after_did, (exec_quiet d _ sound.outbox hc).1.records]
        have idle : eventOf id (.did actor op r : Entry) = .idle := by
          rw [eventOf, quiet_report hc]
          rfl
        rw [idle]
        exact .idle _
      | some call => exact effect_step sound (did_ends valid (exec_effect d _ sound.outbox hc)).1 id

/-- A second claim of a proposal is granted only once the first has expired. -/
theorem claims_exclusive (h : Fresh d w) {a b c : Log} {x y : Machine.Actor Start}
    {tenantId tenantId' : String} {claim claim' : PromotionClaim CritiqueProposalPayload}
    (valid : Explained d w (a ++ .did x (.claimPromotion tenantId id) (.ok (some claim)) :: b ++
      .did y (.claimPromotion tenantId' id) (.ok (some claim')) :: c)) :
    claim.expiresAt ≤
      (after d w (a ++ .did x (.claimPromotion tenantId id) (.ok (some claim)) :: b)).clock := by
  have fenced := Lease.fenced (lease_runs id h valid) (leaseEvents_ordered id _)
  rw [leaseEvents_at, leaseEvents_at] at fenced
  simp only [eventOf, leaseReport, eventFor, ↓reduceIte] at fenced
  exact fenced.exclusive _ _ _ _ _ _ _ _ _ rfl

end

section
variable {d : Deployment} {w : World}

/-- How a worker came to create a version: it claimed the stored proposal of
that creator, then listed the versions and found none of that creator. -/
theorem creation_claim (h : Fresh d w) {a b : Log} {i : Nat} {s : Start} {tenantId : String}
    {params : CreatePlaybookVersionParams} {r : Except DbError PlaybookVersionRecord}
    (valid : Explained d w (a ++ .did (.worker i s) (.createVersion tenantId params) r :: b)) :
    ∃ p claim prior a₁ a₂ a₃,
      a = (a₁ ++ .did (.worker i s) (.claimPromotion tenantId p.id) (.ok (some claim)) :: a₂) ++
        .did (.worker i s) (.listVersions tenantId params.playbookType) (.ok prior) :: a₃ ∧
      (after d w a).proposals.recordsById.get p.id = some p ∧ p.tenantId = tenantId ∧
      nonEmptyText params.createdBy = some p.proposalKey ∧
      (∀ v ∈ (prior : List PlaybookVersionRecord), v.createdBy ≠ params.createdBy) ∧
      ⟨.claimPromotion tenantId p.id, some claim⟩ ∈ Machine.history i a ∧
      ∀ tenantId params v, (⟨.createVersion tenantId params, v⟩ : Did Res) ∉ Machine.history i a := by
  obtain ⟨spawned, t, j, claim, existing, criteriaTimestamp, effectiveAt, ready, rfl, rfl⟩ :=
    valid.worked a b i s (.createVersion tenantId params) r rfl
  have first := ready.first
  obtain ⟨hC, prior, claimed, unfound, split⟩ := ready.parts
  obtain ⟨before, rest, taken, hC_⟩ := claimed.taken
  obtain ⟨hE, eligible, hE_⟩ := claimed.parts
  obtain ⟨later, history⟩ : ∃ later, Machine.history i a = before ++ later :=
    ⟨_, by rw [split, hC_, List.append_assoc]⟩
  obtain ⟨q, stored, same, tenant, key, creator⟩ := task_row h valid.init_ spawned taken history
  have id : q.id = t.persisted.id := congrArg Origin.id same
  have owner : q.tenantId = t.tenantId := (congrArg Origin.tenantId same).trans tenant
  have ownKey : q.proposalKey = t.persisted.proposalKey := congrArg Origin.proposalKey same
  obtain ⟨a', a₃, rfl, ha', _, started⟩ := valid.init_.answer_at spawned split
  have cut : Machine.history i a' = hE ++ ⟨.claimPromotion t.tenantId q.id, some claim⟩ :: [] := by
    rw [ha', hE_, id]
  obtain ⟨a₁, a₂, rfl, _, _, _⟩ := valid.init_.init_.answer_at started cut
  refine ⟨q, claim, prior, a₁, a₂, a₃, rfl, id ▸ stored, owner, ?_, unfound, ?_, first⟩
  · rw [ownKey, ← key, creator]
    rfl
  · rw [Machine.history_append, cut]
    simp

/-- Of two claims of one proposal, neither expired where the other was granted,
one worker was granted both. -/
theorem one_holder (h : Fresh d w) {a a₁ a₂ c₁ c₂ : Log} (valid : Explained d w a) {i j : Nat}
    {s s' : Start} {tenantId tenantId' id : String}
    {claim claim' : PromotionClaim CritiqueProposalPayload}
    (first : a = a₁ ++ .did (.worker i s) (.claimPromotion tenantId id) (.ok (some claim)) :: a₂)
    (second : a = c₁ ++ .did (.worker j s') (.claimPromotion tenantId' id) (.ok (some claim')) :: c₂)
    (alive : (after d w a).clock < claim.expiresAt)
    (alive' : (after d w a₁).clock < claim'.expiresAt) : i = j := by
  rcases split_order (first.symm.trans second) with ⟨_, same, _⟩ | ⟨m, cut, _⟩ | ⟨m, cut, _⟩
  · cases same
    rfl
  · rw [second, cut] at valid
    have expired := claims_exclusive id h valid
    rw [← cut] at expired
    have later := clock_after (d := d) (w := w) c₁
      (.did (.worker j s') (.claimPromotion tenantId' id) (.ok (some claim')) :: c₂)
    rw [← second] at later
    exact absurd alive (not_lt.mpr (le_trans expired later))
  · rw [first, cut] at valid
    have expired := claims_exclusive id h valid
    rw [← cut] at expired
    exact absurd alive' (not_lt.mpr expired)

/-- The version a worker found or created is stored, and of its task. -/
theorem versioned_stored (h : Fresh d w) {a : Log} (valid : Explained d w a) {i : Nat} {s : Start}
    {hist rest : List (Did Res)} {t : Task} {claim : PromotionClaim CritiqueProposalPayload}
    {v : PlaybookVersionRecord} (spawned : .spawned i s ∈ a)
    (versioned : Versioned d s hist t claim v) (split : Machine.history i a = hist ++ rest) :
    (after d w a).playbooks.records.get v.id = some v ∧ v.tenantId = t.tenantId ∧
      v.playbookType = t.playbookType ∧ v.createdBy = createdByOf t.critique := by
  cases versioned with
  | found h₁ _ j _ prior _ claimed member creator =>
    rw [List.append_assoc, List.singleton_append] at split
    obtain ⟨a₁, a₂, rfl, _, _, _⟩ := valid.answer_at spawned split
    obtain ⟨⟨k, stored⟩, tenant, type⟩ := (listed_iff valid).mp member
    have id := ((sound_after h a₁).playbooks.ids k v stored).1
    exact ⟨id ▸ retains_after h a₁ _ k v stored, tenant, type, creator⟩
  | created h₁ _ j _ existing criteriaTimestamp effectiveAt _ ready =>
    rw [List.append_assoc, List.singleton_append] at split
    obtain ⟨a₁, a₂, rfl, _, _, _⟩ := valid.answer_at spawned split
    obtain ⟨stored, tenant, type, creator, _⟩ := created_stored h valid
    refine ⟨?_, tenant, type, creator⟩
    have kept := retains_after h (a₁ ++ [_]) a₂ v.id v stored
    rwa [List.append_assoc, List.singleton_append] at kept

end

end VantGrowth.Proofs.PromotionLogs
