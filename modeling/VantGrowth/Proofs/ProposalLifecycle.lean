import VantGrowth.Lib.Runs
import VantGrowth.Proofs.ActionEffects
import VantGrowth.Proofs.ProposalEffects

namespace VantGrowth.Proofs.ProposalLifecycle
open Db Db.LearningProposalStore Lib ProposalEffects

structure RecordSound (p : LearningProposalRecord π) : Prop where
  claimPair : p.promotionClaimToken = none ↔ p.promotionClaimExpiresAt = none
  claimed : p.promotionClaimToken ≠ none → p.status = .approved
  promoted : p.status = .promoted ∨ p.status = .rolled_back →
    p.promotedVersionRef ≠ none ∧ p.promotedAt ≠ none
  versioned : p.promotedVersionRef ≠ none → p.status = .promoted ∨ p.status = .rolled_back
  approvalPair : p.humanApprovedAt = none ↔ p.humanApprovedBy = none

/-- How a record may differ later. -/
structure Evolves (p q : LearningProposalRecord π) : Prop where
  versionRef : p.promotedVersionRef ≠ none → q.promotedVersionRef = p.promotedVersionRef
  final : p.status = .rejected ∨ p.status = .rolled_back → q = p
  promoted : p.status = .promoted → q = p ∨ q.status = .rolled_back
  approval : p.humanApprovedAt ≠ none → q.humanApprovedAt ≠ none ∧ q.humanApprovedBy ≠ none

theorem change_sound {now : Instant} {op : ProposalOperation π} {id : String}
    {p q : LearningProposalRecord π} {e : Lease.Event String Instant} (h : RecordSound p)
    (change : Change now op id p e q) :
    RecordSound q := by
  cases change with
  | evaluated params status free =>
    have unversioned : p.promotedVersionRef = none := by
      by_contra hv
      rcases h.versioned hv with hs | hs
      · simp [hs, LearningProposalStatus.evaluable] at status
      · simp [hs, LearningProposalStatus.evaluable] at status
    refine ⟨by simp [evaluated], fun hn => absurd rfl hn, ?_, fun hv => absurd unversioned hv,
      h.approvalPair⟩
    intro hs
    cases hd : params.decision <;> simp [evaluated, proposalStatusForDecision, hd] at hs
  | approved approver status =>
    refine ⟨by simp [approvedBy], fun hn => absurd rfl hn, ?_, ?_, by simp [approvedBy]⟩
    · intro hs
      simp [approvedBy] at hs
    · intro hv
      have := h.versioned hv
      simp [status] at this
  | claimed token expiresAt status free =>
    refine ⟨by simp [claimedWith], fun _ => status, ?_, ?_, h.approvalPair⟩
    · intro hs
      simp [claimedWith, status] at hs
    · intro hv
      have := h.versioned hv
      simp [status] at this
  | promoted token versionRef status held active =>
    exact ⟨by simp [promotedTo], fun hn => absurd rfl hn,
      fun _ => ⟨by simp [promotedTo], by simp [promotedTo]⟩,
      fun _ => Or.inl rfl, h.approvalPair⟩
  | rolledBack versionRef status =>
    have free : p.promotionClaimToken = none := by
      by_contra ht
      have := h.claimed ht
      rw [status] at this
      cases this
    exact ⟨h.claimPair, fun hn => absurd free hn, fun _ => h.promoted (Or.inl status),
      fun _ => Or.inr rfl, h.approvalPair⟩

theorem change_evolves {now : Instant} {op : ProposalOperation π} {id : String}
    {p q : LearningProposalRecord π} {e : Lease.Event String Instant} (h : RecordSound p)
    (change : Change now op id p e q) :
    Evolves p q := by
  have both : p.humanApprovedAt ≠ none → p.humanApprovedAt ≠ none ∧ p.humanApprovedBy ≠ none :=
    fun ha => ⟨ha, fun hb => ha (h.approvalPair.mpr hb)⟩
  have open_ : p.status = .approved → p.promotedVersionRef = none := by
    intro hs
    by_contra hv
    have := h.versioned hv
    simp [hs] at this
  cases change with
  | evaluated params status free =>
    refine ⟨fun _ => rfl, ?_, ?_, both⟩
    · rintro (hs | hs)
      · simp [hs, LearningProposalStatus.evaluable] at status
      · simp [hs, LearningProposalStatus.evaluable] at status
    · intro hs
      simp [hs, LearningProposalStatus.evaluable] at status
  | approved approver status =>
    exact ⟨fun _ => rfl, by simp [status], by simp [status], by simp [approvedBy]⟩
  | claimed token expiresAt status free =>
    exact ⟨fun _ => rfl, by simp [status], by simp [status], both⟩
  | promoted token versionRef status held active =>
    exact ⟨fun hv => absurd (open_ status) hv, by simp [status], by simp [status], both⟩
  | rolledBack versionRef status =>
    exact ⟨fun _ => rfl, by simp [status], fun _ => Or.inr rfl, both⟩

theorem Evolves.refl {p : LearningProposalRecord π} (h : RecordSound p) : Evolves p p :=
  ⟨fun _ => rfl, fun _ => rfl, fun _ => Or.inl rfl,
    fun ha => ⟨ha, fun hb => ha (h.approvalPair.mpr hb)⟩⟩

theorem Evolves.trans {p q r : LearningProposalRecord π} (h : Evolves p q) (k : Evolves q r) :
    Evolves p r := by
  refine ⟨?_, ?_, ?_, fun ha => k.approval (h.approval ha).1⟩
  · intro hv
    have hq := h.versionRef hv
    rw [k.versionRef (hq ▸ hv), hq]
  · intro hs
    have hq := h.final hs
    rw [k.final (hq ▸ hs), hq]
  · intro hs
    rcases h.promoted hs with hq | hq
    · exact hq ▸ k.promoted (hq ▸ hs)
    · exact Or.inr ((k.final (Or.inr hq)).symm ▸ hq)

/-- What every sequence of calls preserves. -/
structure Sound (uuid : Supply) (s : LearningProposalStore π) : Prop where
  outbox : s.outboxRepository.Consistent
  ids : ∀ i p, s.recordsById.get i = some p → p.id = i ∧ ∃ n ≤ s.drawn, i = uuid.text n
  records : ∀ i p, s.recordsById.get i = some p → RecordSound p

theorem Sound.fresh {uuid : Supply} {s : LearningProposalStore π} (h : Sound uuid s) :
    s.recordsById.get (uuid.text (s.drawn + 1)) = none := by
  cases hg : s.recordsById.get (uuid.text (s.drawn + 1)) with
  | none => rfl
  | some p =>
    obtain ⟨_, n, hn, hid⟩ := h.ids _ p hg
    have := uuid.distinct hid
    omega

theorem change_id {now : Instant} {op : ProposalOperation π} {id : String}
    {p q : LearningProposalRecord π} {e : Lease.Event String Instant}
    (change : Change now op id p e q) : q.id = p.id := by
  cases change <;> rfl

theorem effect_sound {uuid : Supply} {now : Instant} {op : ProposalOperation π}
    {s t : LearningProposalStore π} {o : Option (String × Lease.Event String Instant)}
    (h : Sound uuid s) (effect : Effect uuid now op s t o) : Sound uuid t := by
  cases effect with
  | kept records drawn outbox =>
    refine ⟨outbox ▸ h.outbox, ?_, records ▸ h.records⟩
    intro i p hp
    rw [records] at hp
    obtain ⟨hid, n, hn, hi⟩ := h.ids i p hp
    exact ⟨hid, n, Nat.le_trans hn drawn, hi⟩
  | created params tenantId tenant drawn records outbox =>
    refine ⟨outbox ▸ h.outbox, ?_, ?_⟩
    · intro i p hp
      rw [records, InsertionMap.get_set] at hp
      split at hp
      · rename_i hi
        cases hp
        exact ⟨hi.symm, s.drawn + 1, drawn, hi⟩
      · obtain ⟨hid, n, hn, hi⟩ := h.ids i p hp
        exact ⟨hid, n, by omega, hi⟩
    · intro i p hp
      rw [records, InsertionMap.get_set] at hp
      split at hp
      · cases hp
        exact ⟨by simp [newRecord], fun hn => absurd rfl hn, by simp [newRecord],
          fun hv => absurd rfl hv, by simp [newRecord]⟩
      · exact h.records i p hp
  | changed id p q e _ stored change records drawn outbox _ =>
    have consistent : t.outboxRepository.Consistent := by
      rcases outbox with same | sends
      · exact same ▸ h.outbox
      · exact sends.consistent
    refine ⟨consistent, ?_, ?_⟩
    · intro i r hr
      rw [records, InsertionMap.get_set] at hr
      split at hr
      · rename_i hi
        cases hr
        obtain ⟨hid, n, hn, hk⟩ := h.ids id p stored
        exact ⟨(change_id change).trans (hid.trans hi.symm), n, Nat.le_trans hn drawn, hi.trans hk⟩
      · obtain ⟨hid, n, hn, hi⟩ := h.ids i r hr
        exact ⟨hid, n, Nat.le_trans hn drawn, hi⟩
    · intro i r hr
      rw [records, InsertionMap.get_set] at hr
      split at hr
      · cases hr
        exact change_sound (h.records id p stored) change
      · exact h.records i r hr

/-- Every record of `s` is still there in `t`, evolved. -/
def Extends (s t : LearningProposalStore π) : Prop :=
  ∀ i p, s.recordsById.get i = some p → RecordSound p →
    ∃ q, t.recordsById.get i = some q ∧ RecordSound q ∧ Evolves p q

theorem effect_extends {uuid : Supply} {now : Instant} {op : ProposalOperation π}
    {s t : LearningProposalStore π} {o : Option (String × Lease.Event String Instant)}
    (h : Sound uuid s) (effect : Effect uuid now op s t o) : Extends s t := by
  intro i p hp sound
  cases effect with
  | kept records => exact ⟨p, by rw [records, hp], sound, .refl sound⟩
  | created params tenantId tenant drawn records =>
    have hne : i ≠ uuid.text (s.drawn + 1) := by
      rintro rfl
      rw [h.fresh] at hp
      cases hp
    exact ⟨p, by rw [records, InsertionMap.get_set, if_neg hne, hp], sound, .refl sound⟩
  | changed id r q e _ stored change records =>
    rw [records]
    by_cases hi : i = id
    · subst hi
      rw [stored] at hp
      cases hp
      exact ⟨q, InsertionMap.get_set_self _ _ _, change_sound sound change,
        change_evolves sound change⟩
    · exact ⟨p, by rw [InsertionMap.get_set, if_neg hi, hp], sound, .refl sound⟩

theorem Extends.trans {s t u : LearningProposalStore π} (h : Extends s t) (k : Extends t u) :
    Extends s u := by
  intro i p hp sound
  obtain ⟨q, hq, hs, he⟩ := h i p hp sound
  obtain ⟨r, hr, ht, hf⟩ := k i q hq hs
  exact ⟨r, hr, ht, he.trans hf⟩

section
variable (backend : Backend) (uuid : Supply)

def next (s : LearningProposalStore π) (call : ProposalCall π) : LearningProposalStore π :=
  (perform backend uuid s call).1

theorem next_sound {s : LearningProposalStore π} (h : Sound uuid s) (call : ProposalCall π) :
    Sound uuid (next backend uuid s call) :=
  effect_sound h (perform_effect uuid s backend h.outbox call)

theorem empty_sound : Sound uuid (empty : LearningProposalStore π) :=
  ⟨InMemoryOutboxRepository.empty_consistent, by simp [empty], by simp [empty]⟩

theorem run_sound (calls : List (ProposalCall π)) :
    Sound uuid (runs (next backend uuid) empty calls) := by
  refine runs_invariant ?_ (empty_sound uuid) calls
  intro s call h
  exact next_sound backend uuid h call

theorem run_extends {s : LearningProposalStore π} (h : Sound uuid s)
    (calls : List (ProposalCall π)) : Extends s (runs (next backend uuid) s calls) := by
  refine runs_related (R := Extends) ?_ (fun _ _ _ => Extends.trans)
    (fun _ call h => next_sound backend uuid h call)
    (fun s call h => effect_extends h (perform_effect uuid s backend h.outbox call)) h calls
  intro s i p hp sound
  exact ⟨p, hp, sound, .refl sound⟩

/-- After every sequence of calls every record is sound, and after any further
calls it is still there and has changed only as it may. -/
theorem proposals_stay_sound (before after : List (ProposalCall π)) :
    ∀ id p, (runs (next backend uuid) empty before).recordsById.get id = some p →
      RecordSound p ∧ ∃ q,
        (runs (next backend uuid) empty (before ++ after)).recordsById.get id = some q ∧
        Evolves p q := by
  intro id p hp
  have h := run_sound backend uuid before
  have sound := h.records id p hp
  obtain ⟨q, hq, _, evolves⟩ := run_extends backend uuid h after id p hp sound
  rw [runs_append]
  exact ⟨sound, q, hq, evolves⟩

end

theorem idText_plain (n : Nat) : ∀ c ∈ (InMemoryExternalActionsRepository.idText n).toList,
    isSpaceChar c = false := by
  have all : InMemoryExternalActionsRepository.idPrefix.toList.all (!isSpaceChar ·) = true := by
    decide
  have spaceless : ∀ c ∈ InMemoryExternalActionsRepository.idPrefix.toList,
      isSpaceChar c = false := by
    intro c member
    simpa using List.all_eq_true.mp all c member
  intro c hc
  simp only [InMemoryExternalActionsRepository.idText, String.toList_append, List.mem_append] at hc
  rcases hc with hc | hc
  · exact spaceless c hc
  · exact digit_plain (Text.padStart_digits hc)

/-- Uuids that count up. -/
def countedUuids : Supply where
  text := InMemoryExternalActionsRepository.idText
  distinct := fun _ _ => ActionEffects.idText_inj
  plain n := by
    refine ⟨jsTrim_plain (idText_plain n), ?_⟩
    intro empty
    have listed := congrArg String.toList empty
    rw [InMemoryExternalActionsRepository.idText, String.toList_append] at listed
    exact absurd (List.append_eq_nil_iff.mp listed).1 (by decide)

/-- A proposal that is evaluated, claimed and promoted. -/
def promotedOnce : List (ProposalCall Unit) :=
  let tenantId := "11111111-1111-4111-8111-111111111111"
  let id := countedUuids.text 1
  [⟨0, .create tenantId
      { proposalKey := "critique:c1", targetType := "blog_draft", targetId := "draft-1",
        risk := .low, proposalPayload := (), createdBy := "critique:c1" }⟩,
    ⟨1, .recordEvaluation tenantId id
      { decision := .promote, evidenceSnapshot := [], evaluationSnapshot := [],
        decisionReasons := ["passed"] }⟩,
    ⟨2, .claimPromotion tenantId id {}⟩,
    ⟨3, .markPromoted tenantId id "version-1" (countedUuids.text 2)⟩]

theorem promotedOnce_stays_sound : ∃ p q,
    (runs (next .inMemory countedUuids) empty promotedOnce).recordsById.get
      (countedUuids.text 1) = some p ∧ p.status = .promoted ∧
    p.promotedVersionRef = some "version-1" ∧ RecordSound p ∧
    (runs (next .inMemory countedUuids) empty
      (promotedOnce ++ promotedOnce)).recordsById.get (countedUuids.text 1) = some q ∧
    Evolves p q := by
  have promoted : ((runs (next .inMemory countedUuids) empty promotedOnce).recordsById.get
      (countedUuids.text 1)).map (fun p => (p.status, p.promotedVersionRef)) =
      some (.promoted, some "version-1") := by
    decide +kernel
  obtain ⟨p, hp, hs⟩ := Option.map_eq_some_iff.mp promoted
  obtain ⟨status, versionRef⟩ := Prod.mk.injEq .. ▸ hs
  obtain ⟨sound, q, hq, evolves⟩ := proposals_stay_sound .inMemory countedUuids promotedOnce
    promotedOnce (countedUuids.text 1) p hp
  exact ⟨p, q, hp, status, versionRef, sound, hq, evolves⟩

end VantGrowth.Proofs.ProposalLifecycle
