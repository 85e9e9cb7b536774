import VantGrowth.Db.LearningProposalCalls

/-! The in-memory repository while outboxes are awaited: an approval is written
at once and settled later, and other calls run in between. -/

namespace VantGrowth.Db.InMemoryLearningProposalRepository
open Lib LearningProposalStore

/-- An approval whose enqueue is awaited: what it read and what it wrote. -/
structure PendingApproval (π : Type) where
  id : String
  existing : LearningProposalRecord π
  updated : LearningProposalRecord π

/-- `approveAndEnqueue` up to its `await`. -/
def publishApproval (now : Instant) (tenantId id approver : String) :
    ProposalStore π (Option (PendingApproval π)) := do
  let parsedTenantId ← parse (uuidText tenantId)
  let parsedApprovedBy ← parse (nonEmptyText approver)
  match ← Store.read (·.findScopedRecord parsedTenantId id) with
  | none => return none
  | some existing =>
    if existing.status ≠ .requires_approval then return none
    let updated := approvedBy parsedApprovedBy now existing
    save id updated
    return some ⟨id, existing, updated⟩

/-- `approveAndEnqueue` from its `await` on, by what the outbox does. -/
def settleApproval (approval : PendingApproval π) (outbox : ProposalStore π StoredOutboxEvent) :
    ProposalStore π (LearningProposalRecord π × StoredOutboxEvent) :=
  Store.tryCatch
    (do
      let outboxEvent ← outbox
      return (approval.updated, outboxEvent))
    fun error => do
      save approval.id approval.existing
      Store.throw error

/-- Where the outbox answers at once, both parts are the call. -/
theorem approveAndEnqueue_parts (now : Instant) (tenantId id approver : String) :
    (approveAndEnqueue now tenantId id approver :
        ProposalStore π (Option (LearningProposalRecord π × StoredOutboxEvent))) =
      publishApproval now tenantId id approver >>= fun
        | none => pure none
        | some approval =>
          settleApproval approval (enqueue now (learningProposalApprovalOutboxCommand approval.updated)) >>=
            fun result => pure (some result) := by
  apply Store.run_ext
  intro s
  unfold approveAndEnqueue publishApproval
  cases tenant : uuidText tenantId with
  | none => rfl
  | some parsedTenantId =>
    cases approved : nonEmptyText approver with
    | none => rfl
    | some parsedApprovedBy =>
      simp only [parse, Store.run_bind, Store.run_pure, Store.run_read]
      cases s.findScopedRecord parsedTenantId id with
      | none => rfl
      | some existing =>
        by_cases waits : existing.status = .requires_approval
        · simp only [waits, ne_eq, not_true_eq_false, ↓reduceIte, save, Store.run_bind, Store.run_modify,
            Store.run_pure, settleApproval, Store.tryCatch]
          generalize (enqueue now _ : ProposalStore π StoredOutboxEvent).run _ = answer
          obtain ⟨result, t⟩ := answer
          cases result <;> rfl
        · simp only [waits, ne_eq, not_false_eq_true, ↓reduceIte, Store.run_pure]

/-- The repository with the approvals that wait for the outbox, by the number
of their call. -/
structure AwaitingStore (π : Type) where
  store : LearningProposalStore π
  pending : Nat → Option (PendingApproval π)

namespace AwaitingStore

def empty : AwaitingStore π := ⟨.empty, fun _ => none⟩

/-- What happens next, with the number of the approval it is about. -/
inductive Step (π : Type) where
  | call (call : ProposalCall π)
  | publish (ticket : Nat) (now : Instant) (tenantId id approver : String)
  | accept (ticket : Nat) (now : Instant)
  | reject (ticket : Nat) (error : DbError)

def Step.ticket : Step π → Option Nat
  | .call _ => none
  | .publish ticket _ _ _ _ | .accept ticket _ | .reject ticket _ => some ticket

def publish (c : AwaitingStore π) (ticket : Nat) (now : Instant) (tenantId id approver : String) :
    AwaitingStore π :=
  match (publishApproval now tenantId id approver).run c.store with
  | (.ok (some approval), s) => ⟨s, Function.update c.pending ticket (some approval)⟩
  | (_, s) => { c with store := s }

/-- The outbox answers an approval. -/
def settle (c : AwaitingStore π) (ticket : Nat)
    (outbox : PendingApproval π → ProposalStore π StoredOutboxEvent) : AwaitingStore π :=
  match c.pending ticket with
  | none => c
  | some approval =>
    ⟨((settleApproval approval (outbox approval)).run c.store).2, Function.update c.pending ticket none⟩

def step (uuid : Supply) (c : AwaitingStore π) : Step π → AwaitingStore π
  -- each call has a uuid of its own, which it draws or not
  | .call call =>
    { c with store := { (perform .inMemory uuid c.store call).1 with drawn := c.store.drawn + 1 } }
  | .publish ticket now tenantId id approver =>
    if (c.pending ticket).isSome then c else c.publish ticket now tenantId id approver
  | .accept ticket now =>
    c.settle ticket fun approval => enqueue now (learningProposalApprovalOutboxCommand approval.updated)
  | .reject ticket error => c.settle ticket fun _ => Store.throw error

end AwaitingStore

end VantGrowth.Db.InMemoryLearningProposalRepository
