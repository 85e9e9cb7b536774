import VantGrowth.Db.PostgresExternalActionsRepository

namespace VantGrowth.Proofs.ActionSteps
open Db Db.InMemoryExternalActionsRepository Lib Lib.Text

/-- The outbox keeps its events as they were, and what is new in it is
unconsumed. -/
def Grows (o p : InMemoryOutboxRepository) : Prop :=
  o.Consistent → p.Consistent ∧ InMemoryOutboxRepository.Keeps o p ∧
    ∀ e ∈ p.events, e ∈ o.events ∨ e.consumedAt = none

theorem Grows.refl (o : InMemoryOutboxRepository) : Grows o o :=
  fun h => ⟨h, fun _ _ hi => hi, fun _ he => Or.inl he⟩

theorem Grows.trans {o p q : InMemoryOutboxRepository} (h : Grows o p) (k : Grows p q) :
    Grows o q := by
  intro start
  obtain ⟨consistent, keeps, unread⟩ := h start
  obtain ⟨consistent', keeps', unread'⟩ := k consistent
  refine ⟨consistent', fun i e hi => keeps' i e (keeps i e hi), ?_⟩
  intro e he
  rcases unread' e he with old | new
  · exact unread e old
  · exact Or.inr new

/-- Only ledgers, counters and the outbox changed. -/
structure Aside (r t : InMemoryExternalActionsRepository) : Prop where
  rows : t.actionsById = r.actionsById
  index : t.actionIndex = r.actionIndex
  sequence : r.sequence ≤ t.sequence
  outbox : Grows r.outboxRepository t.outboxRepository

theorem Aside.refl (r : InMemoryExternalActionsRepository) : Aside r r :=
  ⟨rfl, rfl, Nat.le_refl _, .refl _⟩

theorem Aside.trans {r s t : InMemoryExternalActionsRepository} (h : Aside r s) (k : Aside s t) :
    Aside r t :=
  ⟨k.rows.trans h.rows, k.index.trans h.index, Nat.le_trans h.sequence k.sequence,
    h.outbox.trans k.outbox⟩

/-- What every sequence of calls preserves of the stored actions. -/
structure Stored (r : InMemoryExternalActionsRepository) : Prop where
  outbox : r.outboxRepository.Consistent
  identity : ∀ i a, r.actionsById.get i = some a →
    a.id = i ∧ isUuid a.tenantId = true ∧ ∃ n ≤ r.sequence, i = idText n
  due : ∀ i a, r.actionsById.get i = some a → a.nextRetryAt.isSome = true →
    a.state = .retry_scheduled

/-- What a settlement makes of an action under a lease. -/
inductive Reported (a : ExternalActionRecord) : ExternalActionRecord → Prop where
  | accepted (receipt : DispatchReceipt) (at_ : JsDate) : Reported a (acceptedAction receipt at_ a)
  | retried (input : ScheduleDispatchRetryInput) (at_ : JsDate) : Reported a (retryAction input at_ a)
  | failed (input : FailExternalActionDispatchInput) (at_ : JsDate) :
      Reported a (failedAction input at_ a)

/-- No lease and no retry stands in the way of a claim at `now`. -/
structure Claimable (now : JsDate) (a : ExternalActionRecord) : Prop where
  unsettled : isSettled a.state = false
  due : a.nextRetryAt.any (·.after now) = false
  lapsed : a.state = .dispatching → a.dispatchLeaseExpiresAt.any (·.after now) = false

/-- What calls do to an action that is stored. -/
inductive Call where
  | claim (now : JsDate) (input : ClaimExternalActionDispatch)
  | settlement (leaseOwner : String)
  | callback
  | other

/-- Everything a call can do to an action that is stored. -/
inductive Moved (a : ExternalActionRecord) : Call → ExternalActionRecord → Prop where
  | claimed (now : JsDate) (input : ClaimExternalActionDispatch) (free : Claimable now a) :
      Moved a (.claim now input) (claimedAction input now a)
  | reported (owner : String) (b : ExternalActionRecord) (held : a.state = .dispatching)
      (lease : a.dispatchLeaseOwner = some owner) (report : Reported a b) :
      Moved a (.settlement owner) b
  | settled (input : RecordExternalActionOutcome) (at_ : Instant)
      (open_ : a.state ≠ .completed ∧ a.state ≠ .failed) :
      Moved a .callback (settledAction input at_ a)

/-- Two states of one action. -/
structure SameAction (a b : ExternalActionRecord) : Prop where
  id : b.id = a.id
  tenantId : b.tenantId = a.tenantId
  actionId : b.actionId = a.actionId
  idempotencyKey : b.idempotencyKey = a.idempotencyKey

theorem Moved.same {call : Call} {a b : ExternalActionRecord} (h : Moved a call b) :
    SameAction a b := by
  cases h with
  | claimed now input free => exact ⟨rfl, rfl, rfl, rfl⟩
  | settled input at_ open_ => exact ⟨rfl, rfl, rfl, rfl⟩
  | reported owner b held lease report => cases report <;> exact ⟨rfl, rfl, rfl, rfl⟩

/-- Only an action that waits for a retry has a time for it. -/
theorem Moved.due {call : Call} {a b : ExternalActionRecord} (h : Moved a call b)
    (waits : b.nextRetryAt.isSome = true) : b.state = .retry_scheduled := by
  cases h with
  | claimed now input free => cases waits
  | settled input at_ open_ => cases waits
  | reported owner b held lease report =>
    cases report with
    | accepted receipt at_ => cases waits
    | retried input at_ => rfl
    | failed input at_ => cases waits

/-- What was settled stays settled. -/
theorem Moved.stays {call : Call} {a b : ExternalActionRecord} (h : Moved a call b)
    (done : isSettled a.state = true) : isSettled b.state = true := by
  cases h with
  | claimed now input free =>
    have unsettled := free.unsettled
    rw [done] at unsettled
    cases unsettled
  | settled input at_ open_ =>
    cases hs : input.status <;> simp [settledAction, hs, ExternalActionOutcomeStatus.state, isSettled]
  | reported owner b held lease report =>
    rw [held] at done
    cases done

/-- What one call does to the table of actions. -/
inductive Rows (call : Call) (r t : InMemoryExternalActionsRepository) : Prop where
  | kept (rows : t.actionsById = r.actionsById) (index : t.actionIndex = r.actionIndex)
  | moved (a b : ExternalActionRecord) (stored : r.actionsById.get a.id = some a)
      (move : Moved a call b) (rows : t.actionsById = r.actionsById.set a.id b)
      (index : t.actionIndex = r.actionIndex)
  | added (a : ExternalActionRecord) (key : String) (id : a.id = idText (r.sequence + 1))
      (tenant : isUuid a.tenantId = true) (state : a.state = .requested) (due : a.nextRetryAt = none)
      (later : r.sequence < t.sequence)
      (rows : t.actionsById = r.actionsById.set a.id a)
      (free : r.actionIndex.get key = none) (index : t.actionIndex = r.actionIndex.set key a.id)

structure Step (call : Call) (r t : InMemoryExternalActionsRepository) : Prop where
  rows : Rows call r t
  sequence : r.sequence ≤ t.sequence
  outbox : Grows r.outboxRepository t.outboxRepository

theorem Step.of_aside {call : Call} {r t : InMemoryExternalActionsRepository} (h : Aside r t) :
    Step call r t :=
  ⟨.kept h.rows h.index, h.sequence, h.outbox⟩

theorem Step.refl {call : Call} (r : InMemoryExternalActionsRepository) : Step call r r :=
  .of_aside (.refl r)

theorem Stored.fresh {r : InMemoryExternalActionsRepository} (h : Stored r) {n : Nat}
    (later : r.sequence < n) : r.actionsById.get (idText n) = none := by
  cases found : r.actionsById.get (idText n) with
  | none => rfl
  | some a =>
    obtain ⟨_, _, m, bound, same⟩ := h.identity _ a found
    have := padStart_inj (w := 12) (String.append_right_inj idPrefix |>.mp same)
    omega

theorem Step.stored {call : Call} {r t : InMemoryExternalActionsRepository} (step : Step call r t)
    (h : Stored r) : Stored t := by
  have earlier : ∀ i a, r.actionsById.get i = some a →
      a.id = i ∧ isUuid a.tenantId = true ∧ ∃ n ≤ t.sequence, i = idText n := by
    intro i a found
    obtain ⟨id, tenant, n, bound, name⟩ := h.identity i a found
    exact ⟨id, tenant, n, Nat.le_trans bound step.sequence, name⟩
  refine ⟨(step.outbox h.outbox).1, ?_, ?_⟩
  · intro i a found
    cases step.rows with
    | kept rows index => exact earlier i a (rows ▸ found)
    | moved b c stored move rows index =>
      rw [rows, InsertionMap.get_set] at found
      split at found
      · rename_i same
        cases found
        obtain ⟨_, tenant, name⟩ := earlier _ b (same ▸ stored)
        exact ⟨move.same.id.trans same.symm, move.same.tenantId ▸ tenant, name⟩
      · exact earlier i a found
    | added b key id tenant state due later rows free index =>
      rw [rows, InsertionMap.get_set] at found
      split at found
      · rename_i same
        cases found
        exact ⟨same.symm, tenant, _, later, same.trans id⟩
      · exact earlier i a found
  · intro i a found
    cases step.rows with
    | kept rows index => exact h.due i a (rows ▸ found)
    | moved b c stored move rows index =>
      rw [rows, InsertionMap.get_set] at found
      split at found
      · cases found
        exact move.due
      · exact h.due i a found
    | added b key id tenant state due later rows free index =>
      rw [rows, InsertionMap.get_set] at found
      split at found
      · cases found
        intro waits
        rw [due] at waits
        cases waits
      · exact h.due i a found

/-- The action a call names is stored as `a`. -/
structure Holds (r : InMemoryExternalActionsRepository) (identity : DispatchIdentity)
    (a : ExternalActionRecord) : Prop where
  found : r.lookup identity.tenantId identity.actionId = some a
  keyed : a.idempotencyKey = identity.idempotencyKey

theorem Holds.stored {r : InMemoryExternalActionsRepository} {identity : DispatchIdentity}
    {a : ExternalActionRecord} (holds : Holds r identity a) (h : Stored r) :
    r.actionIndex.get (key identity.tenantId identity.actionId) = some a.id ∧
      r.actionsById.get a.id = some a := by
  obtain ⟨i, indexed, found⟩ := Option.bind_eq_some_iff.mp holds.found
  obtain ⟨rfl, _⟩ := h.identity i a found
  exact ⟨indexed, found⟩

/-- A call leaves the named action in place, moved at most. -/
theorem Step.holds {call : Call} {r t : InMemoryExternalActionsRepository} (step : Step call r t)
    (h : Stored r) {identity : DispatchIdentity} {a : ExternalActionRecord}
    (holds : Holds r identity a) :
    ∃ b, Holds t identity b ∧ (b = a ∨ Moved a call b) := by
  obtain ⟨indexed, found⟩ := holds.stored h
  cases step.rows with
  | kept rows index =>
    refine ⟨a, ⟨?_, holds.keyed⟩, Or.inl rfl⟩
    unfold lookup
    rw [rows, index]
    exact holds.found
  | moved b c stored move rows index =>
    by_cases same : a.id = b.id
    · rw [same, stored] at found
      cases found
      refine ⟨c, ⟨?_, move.same.idempotencyKey.trans holds.keyed⟩, Or.inr move⟩
      unfold lookup
      rw [index, indexed, rows]
      exact InsertionMap.get_set_self ..
    · refine ⟨a, ⟨?_, holds.keyed⟩, Or.inl rfl⟩
      unfold lookup
      rw [index, indexed, rows]
      exact (InsertionMap.get_set_other _ same _).trans found
  | added b k id tenant state due later rows free index =>
    have other : key identity.tenantId identity.actionId ≠ k := by
      rintro rfl
      rw [indexed] at free
      cases free
    have apart : a.id ≠ b.id := by
      intro same
      rw [same, id, h.fresh (Nat.lt_succ_self _)] at found
      cases found
    refine ⟨a, ⟨?_, holds.keyed⟩, Or.inl rfl⟩
    unfold lookup
    rw [index, InsertionMap.get_set_other _ other, indexed, rows]
    exact (InsertionMap.get_set_other _ apart _).trans found

end VantGrowth.Proofs.ActionSteps
