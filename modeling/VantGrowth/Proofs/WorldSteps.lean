import VantGrowth.Learning.Worker
import VantGrowth.Proofs.PlaybookEffects
import VantGrowth.Proofs.ProposalKeys

namespace VantGrowth.Proofs.WorldSteps
open Core Db Db.LearningProposalStore Lib Lib.Text Learning
open PlaybookEffects ProposalEffects ProposalLifecycle ProposalKeys

/-- The call on the proposals an operation makes. -/
def asCall : Op → Option (ProposalOperation CritiqueProposalPayload)
  | .createProposal tenantId params => some (.create tenantId params)
  | .recordEvaluation tenantId id params => some (.recordEvaluation tenantId id params)
  | .claimPromotion tenantId id => some (.claimPromotion tenantId id {})
  | .markPromoted tenantId id versionRef token => some (.markPromoted tenantId id versionRef token)
  | .approveAndEnqueue tenantId id approver => some (.approveAndEnqueue tenantId id approver)
  | .markRolledBack tenantId id versionRef => some (.markRolledBack tenantId id versionRef)
  | _ => none

/-- What an answered operation did to the lease of which proposal. -/
def leaseReport : (op : Op) → Except DbError (Res op) →
    Option (String × Lease.Event String Instant)
  | .recordEvaluation _ id _, .ok (some _) => some (id, .revoke)
  | .approveAndEnqueue _ id _, .ok (some _) => some (id, .revoke)
  | .claimPromotion _ id, .ok (some claim) => some (id, .issue claim.token claim.expiresAt)
  | .markPromoted _ id _ token, .ok (some _) => some (id, .redeem token)
  | _, _ => none

theorem choose_ends {d : Deployment} {a b : Store DbError σ α} {s : σ}
    {Q : Except DbError α → σ → Prop} (inMemory : a.Ends s Q) (postgres : b.Ends s Q) :
    (d.choose a b).Ends s Q := by
  unfold Deployment.choose
  split
  · exact inMemory
  · exact postgres

theorem onProposals_ends {w : World} {call : Instant → ProposalStore CritiqueProposalPayload α}
    {Q : Except DbError α → LearningProposalStore CritiqueProposalPayload → Prop}
    (h : (call w.clock).Ends w.proposals Q) :
    (onProposals call).Ends w fun x t => Q x t.proposals ∧ t = { w with proposals := t.proposals } :=
  ⟨h, rfl⟩

section
variable (d : Deployment) (w : World)

theorem evaluation_step (tenantId id : String) (params : RecordLearningProposalEvaluationParams) :
    (exec d (.recordEvaluation tenantId id params)).Ends w fun x t =>
      Reports d.uuid w.clock (.recordEvaluation tenantId id params) w.proposals
        (fun _ => (id, .revoke)) (fun q => q) x t.proposals ∧
      t = { w with proposals := t.proposals } :=
  onProposals_ends (choose_ends (inMemory_evaluation d.uuid _ _ tenantId id params)
    (postgres_evaluation d.uuid _ _ tenantId id params))

theorem claim_step (tenantId id : String) :
    (exec d (.claimPromotion tenantId id)).Ends w fun x t =>
      Reports d.uuid w.clock (.claimPromotion tenantId id {}) w.proposals
        (fun claim => (id, .issue claim.token claim.expiresAt)) (·.proposal) x t.proposals ∧
      t = { w with proposals := t.proposals } :=
  onProposals_ends (choose_ends (inMemory_claim d.uuid _ _ tenantId id {})
    (postgres_claim d.uuid _ _ tenantId id {}))

theorem promotion_step (tenantId id versionRef token : String) :
    (exec d (.markPromoted tenantId id versionRef token)).Ends w fun x t =>
      Reports d.uuid w.clock (.markPromoted tenantId id versionRef token) w.proposals
        (fun _ => (id, .redeem token)) (fun q => q) x t.proposals ∧
      t = { w with proposals := t.proposals } :=
  onProposals_ends (choose_ends (inMemory_promotion d.uuid _ _ tenantId id versionRef token)
    (postgres_promotion d.uuid _ _ tenantId id versionRef token))

theorem approval_step (h : w.proposals.outboxRepository.Consistent) (tenantId id approver : String) :
    (exec d (.approveAndEnqueue tenantId id approver)).Ends w fun x t =>
      Reports d.uuid w.clock (.approveAndEnqueue tenantId id approver) w.proposals
        (fun _ => (id, .revoke)) Prod.fst x t.proposals ∧
      t = { w with proposals := t.proposals } :=
  onProposals_ends (choose_ends
    (inMemory_approval d.uuid _ _ h tenantId id approver (Or.inr rfl))
    (postgres_approval d.uuid _ _ h tenantId id approver (Or.inr rfl)))

theorem creation_step (tenantId : String)
    (params : CreateLearningProposalParams CritiqueProposalPayload) :
    (exec d (.createProposal tenantId params)).Ends w fun x t =>
      Creates d.uuid w.clock tenantId params w.proposals x t.proposals ∧
      t = { w with proposals := t.proposals } :=
  onProposals_ends (choose_ends (inMemory_creation d.uuid _ _ tenantId params)
    (postgres_creation d.uuid _ _ tenantId params))

theorem rollback_step (tenantId id versionRef : String) :
    (exec d (.markRolledBack tenantId id versionRef)).Ends w fun _ t =>
      Effect d.uuid w.clock (.markRolledBack tenantId id versionRef) w.proposals t.proposals none ∧
      t = { w with proposals := t.proposals } :=
  onProposals_ends
    (Q := fun _ t =>
      Effect d.uuid w.clock (.markRolledBack tenantId id versionRef) w.proposals t none)
    (choose_ends (inMemory_rollback d.uuid _ _ tenantId id versionRef)
      (postgres_rollback d.uuid _ _ tenantId id versionRef))

/-- Every operation that calls the proposals has the effect of that call. -/
theorem exec_effect (h : w.proposals.outboxRepository.Consistent) {op : Op}
    {call : ProposalOperation CritiqueProposalPayload} (calls : asCall op = some call) :
    (exec d op).Ends w fun x t =>
      Effect d.uuid w.clock call w.proposals t.proposals (leaseReport op x) ∧
      t = { w with proposals := t.proposals } := by
  cases op with
  | createProposal tenantId params =>
    cases calls
    exact (creation_step d w tenantId params).weaken fun _ t step => ⟨step.1.effect, step.2⟩
  | recordEvaluation tenantId id params =>
    cases calls
    refine (evaluation_step d w tenantId id params).weaken fun x t step => ⟨?_, step.2⟩
    have effect := step.1.effect
    rcases x with e | (_ | a) <;> exact effect
  | claimPromotion tenantId id =>
    cases calls
    refine (claim_step d w tenantId id).weaken fun x t step => ⟨?_, step.2⟩
    have effect := step.1.effect
    rcases x with e | (_ | a) <;> exact effect
  | markPromoted tenantId id versionRef token =>
    cases calls
    refine (promotion_step d w tenantId id versionRef token).weaken fun x t step => ⟨?_, step.2⟩
    have effect := step.1.effect
    rcases x with e | (_ | a) <;> exact effect
  | approveAndEnqueue tenantId id approver =>
    cases calls
    refine (approval_step d w h tenantId id approver).weaken fun x t step => ⟨?_, step.2⟩
    have effect := step.1.effect
    rcases x with e | (_ | a) <;> exact effect
  | markRolledBack tenantId id versionRef =>
    cases calls
    exact rollback_step d w tenantId id versionRef
  | _ => cases calls

/-- What an operation that is no call on the proposals does to the outbox. -/
def OutboxStep : Op → InMemoryOutboxRepository → InMemoryOutboxRepository → Prop
  | .enqueue command, o, p => p = o ∨ InMemoryOutboxRepository.Sends command o p
  | .markConsumed tenantId id, o, p => p = o ∨ InMemoryOutboxRepository.Consumes tenantId id o p
  | _, o, p => p = o

/-- The rows of the proposals, whatever happened to the outbox. -/
structure SameRows (s t : LearningProposalStore π) : Prop where
  records : t.recordsById = s.recordsById
  index : t.recordIdByKey = s.recordIdByKey
  drawn : t.drawn = s.drawn

theorem enqueue_step (h : w.proposals.outboxRepository.Consistent) (command : EnqueueOutboxEvent) :
    (exec d (.enqueue command)).Ends w fun _ t => SameRows w.proposals t.proposals ∧
      OutboxStep (.enqueue command) w.proposals.outboxRepository t.proposals.outboxRepository ∧
      t = { w with proposals := t.proposals } := by
  refine (onProposals_ends (Q := fun _ t => SameRows w.proposals t ∧
    OutboxStep (.enqueue command) w.proposals.outboxRepository t.outboxRepository)
    (Store.Ends.zoom (InMemoryOutboxRepository.enqueue_ends h w.clock command) ?_)).weaken ?_
  · exact fun _ _ sent => ⟨⟨rfl, rfl, rfl⟩, sent⟩
  · exact fun _ _ step => ⟨step.1.1, step.1.2, step.2⟩

theorem consumption_step (h : w.proposals.outboxRepository.Consistent) (tenantId : String)
    (id : Nat) :
    (exec d (.markConsumed tenantId id)).Ends w fun _ t => SameRows w.proposals t.proposals ∧
      OutboxStep (.markConsumed tenantId id) w.proposals.outboxRepository
        t.proposals.outboxRepository ∧
      t = { w with proposals := t.proposals } := by
  refine (onProposals_ends (Q := fun _ t => SameRows w.proposals t ∧
    OutboxStep (.markConsumed tenantId id) w.proposals.outboxRepository t.outboxRepository)
    (Store.Ends.zoom (InMemoryOutboxRepository.markConsumed_ends h tenantId id w.clock)
      ?_)).weaken ?_
  · exact fun _ _ consumed => ⟨⟨rfl, rfl, rfl⟩, consumed⟩
  · exact fun _ _ step => ⟨step.1.1, step.1.2, step.2⟩

theorem getProposal_step (tenantId id : String) :
    (exec d (.getProposal tenantId id)).Ends w fun x t => t = w ∧
      ∀ a, x = .ok a → a = w.proposals.findScopedRecord tenantId id := by
  refine (onProposals_ends (choose_ends (inMemory_getById w.proposals tenantId id)
    (postgres_getById w.proposals tenantId id))).weaken ?_
  rintro x t ⟨⟨same, answered⟩, frame⟩
  exact ⟨by rw [frame, same], answered⟩

theorem getByProposalKey_step (tenantId proposalKey : String) :
    (exec d (.getByProposalKey tenantId proposalKey)).Ends w fun x t => t = w ∧
      (jsTrim proposalKey = proposalKey → ∀ a, x = .ok a →
        isUuid tenantId = true ∧ a = rowOfKey w.proposals tenantId proposalKey) := by
  refine (onProposals_ends (choose_ends (inMemory_getByProposalKey w.proposals tenantId proposalKey)
    (postgres_getByProposalKey w.proposals tenantId proposalKey))).weaken ?_
  rintro x t ⟨⟨same, answered⟩, frame⟩
  exact ⟨by rw [frame, same], answered⟩

theorem draft_step (h : w.playbooks.Sound d.backend d.versionUuid) (tenantId : String)
    (params : CreatePlaybookVersionParams) :
    (exec d (.createVersion tenantId params)).Ends w fun x t =>
      Drafts d.versionUuid w.clock tenantId params w.playbooks t.playbooks x ∧
      t.playbooks.Sound d.backend d.versionUuid ∧ t = { w with playbooks := t.playbooks } := by
  have created : (d.choose
      (InMemoryPlaybookVersionsRepository.create d.versionUuid w.clock tenantId params)
      (PostgresPlaybookVersionsRepository.create d.versionUuid w.clock tenantId params)).Ends
      w.playbooks fun x t => Drafts d.versionUuid w.clock tenantId params w.playbooks t x ∧
        t.Sound d.backend d.versionUuid := by
    unfold Deployment.choose
    cases hb : d.backend with
    | inMemory => exact inMemory_drafts w.clock tenantId params (hb ▸ h)
    | postgres => exact postgres_drafts w.clock tenantId params (hb ▸ h)
  exact ⟨created.1, created.2, rfl⟩

/-- Every other operation leaves the rows of the proposals alone. -/
theorem exec_quiet (h : w.proposals.outboxRepository.Consistent) {op : Op}
    (quiet : asCall op = none) :
    SameRows w.proposals ((exec d op).run w).2.proposals ∧
      OutboxStep op w.proposals.outboxRepository
        ((exec d op).run w).2.proposals.outboxRepository := by
  have still : SameRows w.proposals w.proposals := ⟨rfl, rfl, rfl⟩
  cases op with
  | enqueue command =>
    have step := enqueue_step d w h command
    exact ⟨step.1, step.2.1⟩
  | markConsumed tenantId id =>
    have step := consumption_step d w h tenantId id
    exact ⟨step.1, step.2.1⟩
  | getProposal tenantId id =>
    rw [(getProposal_step d w tenantId id).1]
    exact ⟨still, rfl⟩
  | getByProposalKey tenantId proposalKey =>
    rw [(getByProposalKey_step d w tenantId proposalKey).1]
    exact ⟨still, rfl⟩
  | createProposal | recordEvaluation | claimPromotion | markPromoted | approveAndEnqueue
  | markRolledBack => cases quiet
  | _ => exact ⟨still, rfl⟩

theorem OutboxStep.consistent {op : Op} {o p : InMemoryOutboxRepository} (h : o.Consistent)
    (step : OutboxStep op o p) : p.Consistent := by
  cases op with
  | enqueue command =>
    rcases step with rfl | sent
    · exact h
    · exact sent.consistent
  | markConsumed tenantId id =>
    rcases step with rfl | consumed
    · exact h
    · exact consumed.consistent
  | _ =>
    cases step
    exact h

/-- What every operation preserves. -/
structure WorldSound (d : Deployment) (w : World) : Prop where
  proposals : Sound d.uuid w.proposals
  indexed : Indexed w.proposals
  playbooks : w.playbooks.Sound d.backend d.versionUuid

theorem SameRows.sound {uuid : Supply} {s t : LearningProposalStore π} (same : SameRows s t)
    (outbox : t.outboxRepository.Consistent) (h : Sound uuid s) : Sound uuid t := by
  refine ⟨outbox, ?_, ?_⟩
  · rw [same.records, same.drawn]
    exact h.ids
  · rw [same.records]
    exact h.records

theorem SameRows.indexed {s t : LearningProposalStore π} (same : SameRows s t) (h : Indexed s) :
    Indexed t := by
  refine ⟨?_, ?_⟩
  · rw [same.records, same.index]
    exact h.listed
  · rw [same.records, same.index]
    exact h.named

theorem playbooks_step (op : Op) (h : w.playbooks.Sound d.backend d.versionUuid) :
    ((exec d op).run w).2.playbooks.Sound d.backend d.versionUuid ∧
      ((∀ tenantId params, op ≠ .createVersion tenantId params) →
        ((exec d op).run w).2.playbooks = w.playbooks) := by
  cases op with
  | createVersion tenantId params =>
    exact ⟨(draft_step d w h tenantId params).2.1, fun other => absurd rfl (other tenantId params)⟩
  | _ => exact ⟨h, fun _ => rfl⟩

theorem exec_sound {w : World} (op : Op) (h : WorldSound d w) :
    WorldSound d ((exec d op).run w).2 := by
  have playbooks := (playbooks_step d w op h.playbooks).1
  cases hc : asCall op with
  | none =>
    obtain ⟨same, outbox⟩ := exec_quiet d w h.proposals.outbox hc
    exact ⟨same.sound (outbox.consistent h.proposals.outbox) h.proposals, same.indexed h.indexed,
      playbooks⟩
  | some call =>
    have effect := (exec_effect d w h.proposals.outbox hc).1
    exact ⟨effect_sound h.proposals effect, effect_indexed h.proposals h.indexed effect, playbooks⟩

/-- Rows are never lost and keep their origin. -/
theorem exec_persists {w : World} (op : Op) (h : WorldSound d w) :
    Persists w.proposals ((exec d op).run w).2.proposals := by
  cases hc : asCall op with
  | none =>
    intro i p hp
    exact ⟨p, by rw [(exec_quiet d w h.proposals.outbox hc).1.records, hp], rfl⟩
  | some call =>
    exact effect_persists h.proposals (exec_effect d w h.proposals.outbox hc).1

theorem exec_extends {w : World} (op : Op) (h : WorldSound d w) :
    Extends w.proposals ((exec d op).run w).2.proposals := by
  cases hc : asCall op with
  | none =>
    intro i p hp sound
    exact ⟨p, by rw [(exec_quiet d w h.proposals.outbox hc).1.records, hp], sound, .refl sound⟩
  | some call =>
    exact effect_extends h.proposals (exec_effect d w h.proposals.outbox hc).1

end

end VantGrowth.Proofs.WorldSteps
