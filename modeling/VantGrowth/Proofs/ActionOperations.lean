import VantGrowth.Proofs.ActionEffects

namespace VantGrowth.Proofs.ActionOperations
open Db Db.InMemoryExternalActionsRepository Lib Lib.Text ActionEffects

theorem emit_bind {r : InMemoryExternalActionsRepository} {now : Instant}
    {command : EnqueueOutboxEvent} {g : Unit → ActionStore α}
    {Q : Except DbError α → InMemoryExternalActionsRepository → Prop}
    (h : r.outboxRepository.Consistent) (valid : command.valid = true)
    (next : ∀ t, Sent command r t → (g ()).Ends t Q) :
    ((enqueue now command >>= fun _ => pure ()) >>= g).Ends r Q := by
  have sent : (enqueue now command >>= fun _ => pure ()).Ends r
      fun x t => x = .ok () ∧ Sent command r t :=
    enqueue_bind h valid fun _ t sent => Store.Ends.pure ⟨rfl, sent⟩
  refine Store.Ends.bind sent ?_ ?_
  · rintro e t ⟨he, _⟩
    cases he
  · rintro ⟨⟩ t ⟨_, sent⟩
    exact next t sent

theorem lifecycle_valid {a : ExternalActionRecord} {eventType : String} {tag rest : String}
    {extra : Payload} (tenant : isUuid a.tenantId = true)
    (ht : isOutboxEventType eventType = true) :
    (lifecycleCommand a eventType (join tag rest) extra).valid = true := by
  simp [EnqueueOutboxEvent.valid, lifecycleCommand, tenant, ht, join_ne_empty]

theorem incident_valid {a : ExternalActionRecord} (phase : FailurePhase)
    (tenant : isUuid a.tenantId = true) : (incidentCommand a phase).valid = true := by
  have ht : isOutboxEventType "incident.opened.v1" = true := by decide
  simp [EnqueueOutboxEvent.valid, incidentCommand, tenant, ht, join_ne_empty]

theorem incident_quiet {r t : InMemoryExternalActionsRepository} {a : ExternalActionRecord}
    {phase : FailurePhase} (sent : Sent (incidentCommand a phase) r t) :
    outcomes t = outcomes r :=
  sent.quiet (by simp [incidentCommand, isOutcomeType])

theorem lifecycle_refers (a : ExternalActionRecord) (eventType tail : String) (extra : Payload) :
    RefersTo a.id (lifecycleCommand a eventType (join "external-action" (join a.id tail)) extra) :=
  ⟨rfl, tail, rfl⟩

/-- A failure incident afterwards changes nothing the effect is about. -/
theorem after_incident {r s t : InMemoryExternalActionsRepository} {a : ExternalActionRecord}
    {phase : FailurePhase} (effect : Effect r s) (sent : Sent (incidentCommand a phase) s t) :
    Effect r t := by
  have quiet := incident_quiet sent
  cases effect with
  | kept frame _ same => exact .kept (frame.trans sent.frame) sent.outbox (quiet.trans same)
  | requested b e id later tenant state shape attempts rewrites eventType eventKey _ same =>
    exact .requested b e id (Nat.lt_of_lt_of_le later sent.frame.sequence) tenant state shape
      attempts (rewrites.frame sent.frame) eventType eventKey sent.outbox (quiet.trans same)
  | moved b c added emitted stored running id tenant shape rewrites appends _ emits loud =>
    exact .moved b c added emitted stored running id tenant shape (rewrites.frame sent.frame)
      appends sent.outbox emits (quiet.trans loud)

theorem kept {r : InMemoryExternalActionsRepository} (h : Sound r) : Effect r r :=
  .kept (Frame.refl r) h.outbox rfl

/-- A running action becomes the running action `b`. -/
theorem moves_on {r t : InMemoryExternalActionsRepository} {a : ExternalActionRecord}
    (b : ExternalActionRecord) (stored : r.actionsById.get a.id = some a)
    (running : outcomeEventType a.state = none) (id : b.id = a.id)
    (tenant : b.tenantId = a.tenantId) (shape : Shape b) (still : outcomeEventType b.state = none)
    (rewrites : Rewrites a b added r t) (appends : Appends a b added)
    (outbox : t.outboxRepository.Consistent) (quiet : outcomes t = outcomes r) : Effect r t := by
  refine .moved a b added [] stored running id tenant shape rewrites appends outbox ?_ ?_
  · unfold Emits
    rw [still]
  · rw [quiet, List.append_nil]

/-- A running action settles as `b`, and the outbox takes the event that says so. -/
theorem settles {r s t : InMemoryExternalActionsRepository} {a : ExternalActionRecord}
    (b : ExternalActionRecord) {command : EnqueueOutboxEvent} (h : Sound r)
    (stored : r.actionsById.get a.id = some a) (running : outcomeEventType a.state = none)
    (id : b.id = a.id) (tenant : b.tenantId = a.tenantId) (shape : Shape b)
    (rewrites : Rewrites a b added r s) (appends : Appends a b added)
    (same : s.outboxRepository = r.outboxRepository) (sent : Sent command s t)
    (reports : outcomeEventType b.state = some command.eventType)
    (refers : RefersTo b.id command) : Effect r t := by
  have outcome : isOutcomeType command.eventType = true := by
    cases hs : b.state <;> simp_all [outcomeEventType, isOutcomeType]
  have unsent := h.unsent stored running outcome (id ▸ refers.2)
  rw [← same] at unsent
  obtain ⟨e, loud, rfl⟩ := sent.loud outcome unsent
  refine .moved a b added [e] stored running id tenant shape (rewrites.frame sent.frame) appends
    sent.outbox ?_ ?_
  · unfold Emits
    rw [reports]
    exact ⟨e, rfl, rfl, refers⟩
  · rw [loud]
    unfold outcomes
    rw [same]

theorem settled_or_running {a : ExternalActionRecord} (h : ¬ isSettled a.state = true) :
    outcomeEventType a.state = none := by
  cases hs : a.state <;> simp_all [isSettled, outcomeEventType]

theorem find_bind {r : InMemoryExternalActionsRepository} (h : Sound r)
    {identity : DispatchIdentity} {g : ExternalActionRecord → ActionStore α}
    {Q : Except DbError α → InMemoryExternalActionsRepository → Prop}
    (missing : ∀ e, Q (.error e) r)
    (next : ∀ a, r.actionsById.get a.id = some a → isUuid a.tenantId = true →
      (g a).Ends r Q) : (find identity >>= g).Ends r Q := by
  refine Store.Ends.bind (find_ends identity) ?_ ?_
  · rintro e t ⟨rfl, _⟩
    exact missing e
  · rintro a t ⟨rfl, found⟩
    obtain ⟨i, hi⟩ := found a rfl
    obtain ⟨rfl, tenant, _⟩ := h.identity i a hi
    exact next a hi tenant

theorem claim_effect {r : InMemoryExternalActionsRepository} (h : Sound r) (clock : Clock)
    (input : ClaimExternalActionDispatch) :
    (claimDispatch clock input).Ends r fun _ t => Effect r t := by
  refine Store.Ends.require_bind (fun _ => kept h) fun _ => ?_
  refine Store.Ends.require_bind (fun _ => kept h) fun _ => ?_
  refine find_bind h (fun _ => kept h) fun a stored tenant => ?_
  refine Store.Ends.ite (fun _ => kept h) fun unsettled => ?_
  refine Store.Ends.ite (fun _ => kept h) fun _ => ?_
  refine Store.Ends.ite (fun _ => kept h) fun _ => ?_
  refine save_bind (append_bind tenant (join_ne_empty _ _) (by decide) ?_)
  intro added t logged
  refine Store.Ends.pure <| moves_on (claimedAction input _ a) stored (settled_or_running unsettled) rfl rfl ?_ rfl
    (logged.rewrites a rfl) ?_ ?_ ?_
  · exact ⟨by simp [claimedAction], by simp [claimedAction], by simp [claimedAction]⟩
  · rcases logged.event with ⟨_, e, he, hkey⟩ | ⟨e, rfl, hkey, htype⟩
    · exact absurd hkey (LedgerSound.unstarted (h.ledgers _ a stored) e he)
    · exact Or.inr ⟨rfl, e, rfl, htype, hkey⟩
  · rw [logged.outbox]
    exact h.outbox
  · unfold outcomes
    rw [logged.outbox]

theorem accept_effect {r : InMemoryExternalActionsRepository} (h : Sound r) (clock : Clock)
    (input : RecordDispatchAcceptedInput) :
    (recordDispatchAccepted clock input).Ends r fun _ t => Effect r t := by
  refine Store.Ends.require_bind (fun _ => kept h) fun _ => ?_
  refine find_bind h (fun _ => kept h) fun a stored tenant => ?_
  refine Store.Ends.ite (fun _ => kept h) fun unsettled => ?_
  refine Store.Ends.require_bind (fun _ => kept h) fun _ => ?_
  refine save_bind (append_bind tenant (join_ne_empty _ _) (by decide) ?_)
  intro added s logged
  have consistent : s.outboxRepository.Consistent := logged.outbox ▸ h.outbox
  refine emit_bind consistent (lifecycle_valid tenant (by decide)) ?_
  intro t sent
  refine Store.Ends.pure <| moves_on (acceptedAction input.receipt _ a) stored (settled_or_running unsettled) rfl rfl
    ?_ rfl ((logged.rewrites a rfl).frame sent.frame) ?_ sent.outbox ?_
  · exact ⟨by simp [acceptedAction], by simp [acceptedAction], by simp [acceptedAction]⟩
  · exact Or.inl ⟨rfl, logged.passing (by decide) (by decide) (by decide) (by decide)⟩
  · rw [sent.quiet (by simp [lifecycleCommand, isOutcomeType])]
    unfold outcomes
    rw [logged.outbox]

theorem retry_effect {r : InMemoryExternalActionsRepository} (h : Sound r) (clock : Clock)
    (input : ScheduleDispatchRetryInput) :
    (scheduleDispatchRetry clock input).Ends r fun _ t => Effect r t := by
  refine Store.Ends.require_bind (fun _ => kept h) fun _ => ?_
  refine Store.Ends.require_bind (fun _ => kept h) fun _ => ?_
  refine find_bind h (fun _ => kept h) fun a stored tenant => ?_
  refine Store.Ends.ite (fun _ => kept h) fun unsettled => ?_
  refine Store.Ends.require_bind (fun _ => kept h) fun _ => ?_
  refine save_bind ?_
  have running := settled_or_running unsettled
  generalize hn : input.now.getD (.valid (clock 0)) = now
  have shape : Shape (retryAction input now a) :=
    ⟨by simp [retryAction], by simp [retryAction], by simp [retryAction]⟩
  cases hd : now.plus input.retryAfterMs with
  | invalid =>
    -- the text of the invalid date throws after the record was saved
    have rewrites : Rewrites a (retryAction input now a) [] r
        { r with actionsById := r.actionsById.set a.id (retryAction input now a) } :=
      ⟨rfl, fun i => by simp [ledger], Nat.le_refl _⟩
    exact Store.Ends.throw_bind <| moves_on (retryAction input now a) stored running rfl rfl shape rfl
      rewrites (Or.inl ⟨rfl, by simp⟩) h.outbox rfl
  | valid retryAt =>
    refine Store.Ends.pure_bind (append_bind tenant (join_ne_empty _ _) (by decide) ?_)
    intro added s logged
    have consistent : s.outboxRepository.Consistent := logged.outbox ▸ h.outbox
    refine emit_bind consistent (lifecycle_valid tenant (by decide)) ?_
    intro t sent
    refine Store.Ends.pure <| moves_on (retryAction input now a) stored running rfl rfl shape rfl
      ((logged.rewrites a rfl).frame sent.frame) ?_ sent.outbox ?_
    · exact Or.inl ⟨rfl, logged.passing (by decide) (by decide) (by decide) (by decide)⟩
    · rw [sent.quiet (by simp [lifecycleCommand, isOutcomeType])]
      unfold outcomes
      rw [logged.outbox]

theorem fail_effect {r : InMemoryExternalActionsRepository} (h : Sound r) (clock : Clock)
    (input : FailExternalActionDispatchInput) :
    (failDispatch clock input).Ends r fun _ t => Effect r t := by
  refine Store.Ends.require_bind (fun _ => kept h) fun _ => ?_
  refine find_bind h (fun _ => kept h) fun a stored tenant => ?_
  refine Store.Ends.ite (fun _ => kept h) fun unsettled => ?_
  refine Store.Ends.require_bind (fun _ => kept h) fun _ => ?_
  refine save_bind (append_bind tenant (join_ne_empty _ _) (by decide) ?_)
  intro added s logged
  have consistent : s.outboxRepository.Consistent := logged.outbox ▸ h.outbox
  refine emit_bind consistent (lifecycle_valid tenant (by decide)) ?_
  intro t sent
  refine emit_bind sent.outbox (incident_valid _ tenant) ?_
  intro u incident
  refine Store.Ends.pure (after_incident (settles (failedAction input _ a) h stored
    (settled_or_running unsettled) rfl rfl ?_ (logged.rewrites a rfl) ?_ logged.outbox sent rfl ?_)
    incident)
  · exact ⟨by simp [failedAction], by simp [failedAction], by simp [failedAction]⟩
  · exact Or.inl ⟨rfl, logged.passing (by decide) (by decide) (by decide) (by decide)⟩
  · exact lifecycle_refers _ _ _ _

theorem outcome_effect {r : InMemoryExternalActionsRepository} (h : Sound r) (clock : Clock)
    (input : RecordExternalActionOutcome) :
    (recordOutcome clock input).Ends r fun _ t => Effect r t := by
  refine Store.Ends.require_bind (fun _ => kept h) fun _ => ?_
  refine find_bind h (fun _ => kept h) fun a stored tenant => ?_
  refine Store.Ends.read_bind (Store.Ends.ite (fun _ => kept h) fun _ => ?_)
  refine Store.Ends.require_bind (fun _ => kept h) fun open_ => ?_
  have running : outcomeEventType a.state = none := by
    cases hs : a.state <;> simp_all [outcomeEventType]
  have named : ∀ status : ExternalActionOutcomeStatus, "outcome_" ++ status.state.text ≠ "" ∧
      "outcome_" ++ status.state.text ≠ "requested" ∧
      "outcome_" ++ status.state.text ≠ "dispatch_started" ∧
      isOutboxEventType ("external_action." ++ status.state.text ++ ".v1") = true ∧
      outcomeEventType status.state = some ("external_action." ++ status.state.text ++ ".v1") := by
    intro status
    cases status <;> decide
  obtain ⟨filled, unrequested, unstarted, type, reports⟩ := named input.status
  refine save_bind (append_bind tenant (join_ne_empty _ _) filled ?_)
  intro added s logged
  have consistent : s.outboxRepository.Consistent := logged.outbox ▸ h.outbox
  refine emit_bind consistent (lifecycle_valid tenant type) ?_
  intro t sent
  have shape : Shape (settledAction input (input.occurredAt.getD (clock 0)) a) := by
    constructor <;> cases hs : input.status <;>
      simp [settledAction, hs, ExternalActionOutcomeStatus.state]
  have effect : Effect r t :=
    settles (settledAction input (input.occurredAt.getD (clock 0)) a) h stored running rfl rfl shape
      (logged.rewrites a rfl)
      (Or.inl ⟨rfl, logged.passing (by decide) (by decide) unrequested unstarted⟩) logged.outbox
      sent reports (lifecycle_refers _ _ _ _)
  refine Store.Ends.ite (fun _ => ?_) fun _ => ?_
  · refine emit_bind sent.outbox (incident_valid _ tenant) ?_
    intro u incident
    exact Store.Ends.pure (after_incident effect incident)
  · exact Store.Ends.pure effect

end VantGrowth.Proofs.ActionOperations
