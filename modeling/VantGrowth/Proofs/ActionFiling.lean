import Mathlib.Data.List.Find
import VantGrowth.Db.PostgresExternalActionCalls
import VantGrowth.Proofs.ActionCalls
import VantGrowth.Proofs.ActionLifecycle

namespace VantGrowth.Proofs.ActionFiling
open Db Db.InMemoryExternalActionsRepository Lib Lib.Text
open Lib.InsertionMap (Indexes)
open ActionCalls (grows_of_enqueue)

/-- The request an action was stored for. -/
def requestOf (a : ExternalActionRecord) : ExternalActionRequest :=
  { tenantId := a.tenantId, actionId := a.actionId, actionType := a.actionType,
    approvedBy := a.approvedBy, idempotencyKey := a.idempotencyKey,
    requestPayload := a.requestPayload }

/-- What no call changes of an action: its id, its request and the digest of it. -/
def names (a : ExternalActionRecord) : String × ExternalActionRequest × String :=
  (a.id, requestOf a, a.requestDigest)

/-- Every action is stored under its id. -/
def Named (r : InMemoryExternalActionsRepository) : Prop :=
  ∀ i a, r.actionsById.get i = some a → a.id = i

/-- The same actions are stored under the same keys. -/
structure Refiled (r t : InMemoryExternalActionsRepository) : Prop where
  actionIndex : t.actionIndex = r.actionIndex
  idempotencyIndex : t.idempotencyIndex = r.idempotencyIndex
  rows : ∀ i, (t.actionsById.get i).map names = (r.actionsById.get i).map names
  sequence : r.sequence ≤ t.sequence
  outbox : r.outboxRepository.Consistent → t.outboxRepository.Consistent

theorem Refiled.refl (r : InMemoryExternalActionsRepository) : Refiled r r :=
  ⟨rfl, rfl, fun _ => rfl, Nat.le_refl _, fun h => h⟩

theorem Refiled.trans {r s t : InMemoryExternalActionsRepository} (h : Refiled r s) (k : Refiled s t) :
    Refiled r t :=
  ⟨k.actionIndex.trans h.actionIndex, k.idempotencyIndex.trans h.idempotencyIndex,
    fun i => (k.rows i).trans (h.rows i), Nat.le_trans h.sequence k.sequence,
    fun start => k.outbox (h.outbox start)⟩

theorem Refiled.row {r t : InMemoryExternalActionsRepository} (h : Refiled r t) {i : String}
    {a : ExternalActionRecord} (found : t.actionsById.get i = some a) :
    ∃ b, r.actionsById.get i = some b ∧ names b = names a := by
  have same := h.rows i
  rw [found] at same
  obtain ⟨b, stored, alike⟩ := Option.map_eq_some_iff.mp same.symm
  exact ⟨b, stored, alike⟩

theorem Refiled.named {r t : InMemoryExternalActionsRepository} (h : Refiled r t) (named : Named r) :
    Named t := by
  intro i a found
  obtain ⟨b, stored, alike⟩ := h.row found
  exact (congrArg Prod.fst alike).symm.trans (named i b stored)

section
variable {r : InMemoryExternalActionsRepository}

/-- Started in `r`, the computation refiles nothing. -/
def Calm (r : InMemoryExternalActionsRepository) (m : ActionStore α) : Prop :=
  m.Ends r fun _ t => Refiled r t

/-- The same wherever actions are stored under their ids. -/
def AlwaysCalm (m : ActionStore α) : Prop := ∀ r, Named r → Calm r m

theorem Calm.pure (a : α) : Calm r (Pure.pure a) := Store.Ends.pure (.refl r)

theorem Calm.throw (e : DbError) : Calm r (Store.throw e : ActionStore α) := Store.Ends.throw (.refl r)

theorem Calm.bind {m : ActionStore α} {g : α → ActionStore β} (first : Calm r m) (named : Named r)
    (next : ∀ a, AlwaysCalm (g a)) : Calm r (m >>= g) := by
  apply Store.Ends.bind first
  · intro e t kept
    exact kept
  · intro a t kept
    exact (next a t (kept.named named)).weaken fun _ _ later => kept.trans later

theorem AlwaysCalm.bind {m : ActionStore α} {g : α → ActionStore β} (first : AlwaysCalm m)
    (next : ∀ a, AlwaysCalm (g a)) : AlwaysCalm (m >>= g) := fun r named =>
  (first r named).bind named next

theorem AlwaysCalm.pure (a : α) : AlwaysCalm (Pure.pure a) := fun _ _ => .pure a

theorem Calm.require_bind {p : Prop} [Decidable p] {e : DbError} {g : Unit → ActionStore α}
    (passed : Calm r (g ())) : Calm r (Store.require p e >>= g) :=
  Store.Ends.require_bind (fun _ => .refl r) fun _ => passed

theorem Calm.ite {p : Prop} [Decidable p] {m n : ActionStore α} (yes : Calm r m) (no : Calm r n) :
    Calm r (if p then m else n) :=
  Store.Ends.ite (fun _ => yes) fun _ => no

theorem Calm.transaction {m : ActionStore α} (body : Calm r m) : Calm r (Store.transaction m) :=
  Store.Ends.transaction body (fun _ _ kept => kept) fun _ _ _ => .refl r

/-- An action is found where it is stored. -/
theorem Calm.find_bind {identity : DispatchIdentity} {g : ExternalActionRecord → ActionStore α}
    (named : Named r) (next : ∀ a, r.actionsById.get a.id = some a → Calm r (g a)) :
    Calm r (find identity >>= g) := by
  apply Store.Ends.bind (ActionEffects.find_ends identity)
  · rintro e t ⟨rfl, _⟩
    exact .refl t
  · rintro a t ⟨rfl, found⟩
    obtain ⟨i, stored⟩ := found a rfl
    obtain rfl := named i a stored
    exact next a stored

/-- An action is rewritten under its names. -/
theorem Calm.save_bind {a b : ExternalActionRecord} {g : ExternalActionRecord → ActionStore α}
    (named : Named r) (stored : r.actionsById.get a.id = some a) (same : names b = names a)
    (next : AlwaysCalm (g b)) : Calm r (save b >>= g) := by
  have id : b.id = a.id := congrArg Prod.fst same
  have saved : Refiled r { r with actionsById := r.actionsById.set b.id b } := by
    refine ⟨rfl, rfl, fun i => ?_, Nat.le_refl _, fun h => h⟩
    rw [InsertionMap.get_set]
    split
    · rename_i here
      rw [here, id, stored, Option.map_some, Option.map_some, same]
    · rfl
  exact (next _ (saved.named named)).weaken fun _ _ later => saved.trans later

theorem appendEvent_calm (clock : Instant) (a : ExternalActionRecord) (eventKey eventType : String)
    (payload : Payload) : AlwaysCalm (appendEvent clock a eventKey eventType payload) := by
  intro r _
  apply Store.Ends.read_bind
  apply Calm.ite
  · exact Calm.pure ()
  · apply ActionEffects.newId_bind
    apply Store.Ends.require_bind
    · intro _
      exact ⟨rfl, rfl, fun _ => rfl, Nat.le_succ _, fun h => h⟩
    · intro _
      exact ⟨rfl, rfl, fun _ => rfl, Nat.le_succ _, fun h => h⟩

theorem enqueue_calm (clock : Instant) (command : EnqueueOutboxEvent) :
    AlwaysCalm (enqueue clock command) := by
  intro r _
  refine ⟨rfl, rfl, fun _ => rfl, Nat.le_refl _, fun consistent => ?_⟩
  exact (grows_of_enqueue clock command r.outboxRepository consistent).1

theorem emitLifecycle_calm (clock : Instant) (a : ExternalActionRecord) (eventType key : String)
    (extra : Payload) : AlwaysCalm (emitLifecycle clock a eventType key extra) :=
  (enqueue_calm clock _).bind fun _ => .pure ()

theorem emitFailureIncident_calm (clock : Instant) (a : ExternalActionRecord) (phase : FailurePhase) :
    AlwaysCalm (emitFailureIncident clock a phase) :=
  (enqueue_calm clock _).bind fun _ => .pure ()

theorem claim_calm (clock : Clock) (input : ClaimExternalActionDispatch) :
    AlwaysCalm (claimDispatch clock input) := by
  intro r named
  apply Calm.require_bind
  apply Calm.require_bind
  apply Calm.find_bind named
  intro a stored
  apply Calm.ite (.pure _)
  apply Calm.ite (.pure _)
  apply Calm.ite (.pure _)
  apply Calm.save_bind named stored (b := claimedAction input _ a) rfl
  exact (appendEvent_calm _ _ _ _ _).bind fun _ => .pure _

theorem accept_calm (clock : Clock) (input : RecordDispatchAcceptedInput) :
    AlwaysCalm (recordDispatchAccepted clock input) := by
  intro r named
  apply Calm.require_bind
  apply Calm.find_bind named
  intro a stored
  apply Calm.ite (.pure _)
  apply Calm.require_bind
  apply Calm.save_bind named stored (b := acceptedAction input.receipt _ a) rfl
  exact (appendEvent_calm _ _ _ _ _).bind fun _ => (emitLifecycle_calm _ _ _ _ _).bind fun _ => .pure _

theorem isoText_calm (date : JsDate) : AlwaysCalm (isoText date) := by
  intro r _
  cases date with
  | valid t => exact Calm.pure _
  | invalid => exact Calm.throw _

theorem retry_calm (clock : Clock) (input : ScheduleDispatchRetryInput) :
    AlwaysCalm (scheduleDispatchRetry clock input) := by
  intro r named
  apply Calm.require_bind
  apply Calm.require_bind
  apply Calm.find_bind named
  intro a stored
  apply Calm.ite (.pure _)
  apply Calm.require_bind
  apply Calm.save_bind named stored (b := retryAction input _ a) rfl
  exact (isoText_calm _).bind fun _ => (appendEvent_calm _ _ _ _ _).bind fun _ =>
    (emitLifecycle_calm _ _ _ _ _).bind fun _ => .pure _

theorem fail_calm (clock : Clock) (input : FailExternalActionDispatchInput) :
    AlwaysCalm (failDispatch clock input) := by
  intro r named
  apply Calm.require_bind
  apply Calm.find_bind named
  intro a stored
  apply Calm.ite (.pure _)
  apply Calm.require_bind
  apply Calm.save_bind named stored (b := failedAction input _ a) rfl
  exact (appendEvent_calm _ _ _ _ _).bind fun _ => (emitLifecycle_calm _ _ _ _ _).bind fun _ =>
    (emitFailureIncident_calm _ _ _).bind fun _ => .pure _

theorem outcome_calm (clock : Clock) (input : RecordExternalActionOutcome) :
    AlwaysCalm (recordOutcome clock input) := by
  intro r named
  apply Calm.require_bind
  apply Calm.find_bind named
  intro a stored
  apply Store.Ends.read_bind
  apply Calm.ite (.pure _)
  apply Calm.require_bind
  apply Calm.save_bind named stored (b := settledAction input _ a) rfl
  apply (appendEvent_calm _ _ _ _ _).bind
  intro _
  apply (emitLifecycle_calm _ _ _ _ _).bind
  intro _ t named
  apply Calm.ite
  · exact (emitFailureIncident_calm _ _ _ t named).bind named fun _ => .pure _
  · exact Calm.pure _

section
open PostgresExternalActionsRepository

theorem updateRow_calm (identity : DispatchIdentity) (guard : ExternalActionRecord → Bool)
    {set : ExternalActionRecord → ExternalActionRecord} (same : ∀ a, names (set a) = names a) :
    AlwaysCalm (updateRow identity guard set) := by
  intro r named
  apply Store.Ends.read_bind
  split
  · exact Calm.pure none
  · rename_i a found
    obtain ⟨i, _, stored⟩ := Option.bind_eq_some_iff.mp found
    obtain rfl := named i a stored
    apply Calm.ite
    · exact Calm.save_bind named stored (same a) (.pure _)
    · exact Calm.pure none

theorem settleRow_calm (identity : DispatchIdentity) (guard : ExternalActionRecord → Bool)
    {set : ExternalActionRecord → ExternalActionRecord} {log : ExternalActionRecord → ActionStore Unit}
    (same : ∀ a, names (set a) = names a) (logs : ∀ b, AlwaysCalm (log b)) :
    AlwaysCalm (settleRow identity guard set log) := by
  apply (updateRow_calm identity guard same).bind
  intro row
  cases row with
  | none => exact .pure none
  | some updated => exact (logs updated).bind fun _ => .pure (some updated)

theorem sendable_bind {date : JsDate} {m : ActionStore α} (rest : AlwaysCalm m) :
    AlwaysCalm (sendable date >>= fun _ => m) := fun r named => Calm.require_bind (rest r named)

theorem AlwaysCalm.transaction {m : ActionStore α} (body : AlwaysCalm m) :
    AlwaysCalm (Store.transaction m) := fun r named => (body r named).transaction

theorem claimRow_calm (clock : Instant) (now : JsDate) (input : ClaimExternalActionDispatch) :
    AlwaysCalm (claimRow clock now input) := by
  apply AlwaysCalm.transaction
  apply sendable_bind
  exact settleRow_calm _ _ (fun _ => rfl) fun _ => appendEvent_calm _ _ _ _ _

theorem acceptRow_calm (clock : Instant) (now : JsDate) (input : RecordDispatchAcceptedInput) :
    AlwaysCalm (acceptRow clock now input) := by
  apply AlwaysCalm.transaction
  apply sendable_bind
  exact settleRow_calm _ _ (fun _ => rfl) fun _ =>
    (appendEvent_calm _ _ _ _ _).bind fun _ => emitLifecycle_calm _ _ _ _ _

theorem retryRow_calm (clock : Instant) (now : JsDate) (input : ScheduleDispatchRetryInput) :
    AlwaysCalm (retryRow clock now input) := by
  apply AlwaysCalm.transaction
  apply (isoText_calm _).bind
  intro retryAt
  exact settleRow_calm _ _ (fun _ => rfl) fun _ =>
    (appendEvent_calm _ _ _ _ _).bind fun _ => emitLifecycle_calm _ _ _ _ _

theorem failRow_calm (clock : Instant) (now : JsDate) (input : FailExternalActionDispatchInput) :
    AlwaysCalm (failRow clock now input) := by
  apply AlwaysCalm.transaction
  apply sendable_bind
  exact settleRow_calm _ _ (fun _ => rfl) fun _ => (appendEvent_calm _ _ _ _ _).bind fun _ =>
    (emitLifecycle_calm _ _ _ _ _).bind fun _ => emitFailureIncident_calm _ _ _

theorem outcomeRow_calm (clock now : Instant) (input : RecordExternalActionOutcome) :
    AlwaysCalm (outcomeRow clock now input) := by
  apply AlwaysCalm.transaction
  have same : ∀ input a, names (settledAction input now a) = names a := fun _ _ => rfl
  apply settleRow_calm _ _ (same _)
  intro b
  apply (appendEvent_calm _ _ _ _ _).bind
  intro _
  apply (emitLifecycle_calm _ _ _ _ _).bind
  intro _ r named
  apply Calm.ite
  · exact emitFailureIncident_calm _ _ _ r named
  · exact Calm.pure ()

theorem settledRow_calm (identity : DispatchIdentity) (row : Option ExternalActionRecord) :
    AlwaysCalm (settledRow identity row) := by
  intro r named
  cases row with
  | some updated => exact Calm.pure updated
  | none =>
    apply Calm.find_bind named
    intro a _
    apply Calm.ite
    · exact Calm.pure a
    · exact Calm.throw _

theorem postgres_claim_calm (clock : Clock) (input : ClaimExternalActionDispatch) :
    AlwaysCalm (PostgresExternalActionsRepository.claimDispatch clock input) := by
  intro r named
  apply Calm.require_bind
  apply Calm.require_bind
  apply Calm.transaction
  apply Calm.find_bind named
  intro a _
  split
  · exact Calm.pure _
  · apply Calm.ite (.pure _)
    apply (claimRow_calm _ _ _ r named).bind named
    intro row t named
    cases row with
    | some claimed => exact Calm.pure _
    | none =>
      apply Calm.find_bind named
      intro b _
      exact Calm.pure _

theorem postgres_accept_calm (clock : Clock) (input : RecordDispatchAcceptedInput) :
    AlwaysCalm (PostgresExternalActionsRepository.recordDispatchAccepted clock input) := by
  intro r named
  apply Calm.require_bind
  apply Calm.transaction
  exact (acceptRow_calm _ _ _ r named).bind named fun row => settledRow_calm _ row

theorem postgres_retry_calm (clock : Clock) (input : ScheduleDispatchRetryInput) :
    AlwaysCalm (PostgresExternalActionsRepository.scheduleDispatchRetry clock input) := by
  intro r named
  apply Calm.require_bind
  apply Calm.require_bind
  apply Calm.transaction
  exact (retryRow_calm _ _ _ r named).bind named fun row => settledRow_calm _ row

theorem postgres_fail_calm (clock : Clock) (input : FailExternalActionDispatchInput) :
    AlwaysCalm (PostgresExternalActionsRepository.failDispatch clock input) := by
  intro r named
  apply Calm.require_bind
  apply Calm.transaction
  exact (failRow_calm _ _ _ r named).bind named fun row => settledRow_calm _ row

theorem postgres_outcome_calm (clock : Clock) (input : RecordExternalActionOutcome) :
    AlwaysCalm (PostgresExternalActionsRepository.recordOutcome clock input) := by
  intro r named
  apply Calm.require_bind
  apply Calm.transaction
  apply Calm.find_bind named
  intro a _
  apply Store.Ends.read_bind
  apply Calm.ite (.pure _)
  apply (outcomeRow_calm _ _ _ r named).bind named
  intro row t named
  cases row with
  | some transitioned => exact Calm.pure _
  | none =>
    apply Calm.find_bind named
    intro b _
    apply Store.Ends.read_bind
    apply Calm.ite
    · exact Calm.pure _
    · exact Calm.throw _

end

end

/-- What every sequence of calls keeps: the indexes name the stored actions, and
these hold the digest of the request they were stored for, which met `P`. -/
structure Filed (digest : ExternalActionRequest → String) (P : ExternalActionRequest → Prop)
    (r : InMemoryExternalActionsRepository) : Prop where
  outbox : r.outboxRepository.Consistent
  identity : ∀ i a, r.actionsById.get i = some a →
    a.id = i ∧ isUuid a.tenantId = true ∧ ∃ n ≤ r.sequence, i = idText n
  byAction : Indexes r.actionIndex r.actionsById fun a => key a.tenantId a.actionId
  byKey : Indexes r.idempotencyIndex r.actionsById fun a => key a.tenantId a.idempotencyKey
  digests : ∀ i a, r.actionsById.get i = some a → a.requestDigest = digest (requestOf a)
  asked : ∀ i a, r.actionsById.get i = some a → P (requestOf a)

section
variable {digest : ExternalActionRequest → String} {P : ExternalActionRequest → Prop}
  {r t : InMemoryExternalActionsRepository}

theorem empty_filed : Filed digest P empty where
  outbox := InMemoryOutboxRepository.empty_consistent
  identity i a stored := by cases stored
  byAction := Indexes.empty
  byKey := Indexes.empty
  digests i a stored := by cases stored
  asked i a stored := by cases stored

theorem Filed.named (h : Filed digest P r) : Named r := fun i a stored => (h.identity i a stored).1

theorem names_eq {a b : ExternalActionRecord} (same : names a = names b) :
    a.id = b.id ∧ requestOf a = requestOf b ∧ a.requestDigest = b.requestDigest := by
  simpa [names] using same

theorem Filed.refiled (h : Filed digest P r) (kept : Refiled r t) : Filed digest P t := by
  have keyed : ∀ f : ExternalActionRequest → String, ∀ i,
      (t.actionsById.get i).map (fun a => f (requestOf a)) =
        (r.actionsById.get i).map fun a => f (requestOf a) := by
    intro f i
    have same := congrArg (Option.map fun n : String × ExternalActionRequest × String => f n.2.1)
      (kept.rows i)
    simpa only [Option.map_map, Function.comp_def, names] using same
  constructor
  · exact kept.outbox h.outbox
  · intro i a found
    obtain ⟨b, stored, alike⟩ := kept.row found
    obtain ⟨id, request, _⟩ := names_eq alike
    obtain ⟨key, tenant, n, early, text⟩ := h.identity i b stored
    have tenants : b.tenantId = a.tenantId := congrArg ExternalActionRequest.tenantId request
    exact ⟨id ▸ key, tenants ▸ tenant, n, Nat.le_trans early kept.sequence, text⟩
  · rw [kept.actionIndex]
    exact h.byAction.congr (keyed fun q => key q.tenantId q.actionId)
  · rw [kept.idempotencyIndex]
    exact h.byKey.congr (keyed fun q => key q.tenantId q.idempotencyKey)
  · intro i a found
    obtain ⟨b, stored, alike⟩ := kept.row found
    obtain ⟨_, request, digested⟩ := names_eq alike
    rw [← digested, ← request]
    exact h.digests i b stored
  · intro i a found
    obtain ⟨b, stored, alike⟩ := kept.row found
    rw [← (names_eq alike).2.1]
    exact h.asked i b stored

theorem Filed.fresh (h : Filed digest P r) : r.actionsById.get (idText (r.sequence + 1)) = none := by
  cases found : r.actionsById.get (idText (r.sequence + 1)) with
  | none => rfl
  | some a =>
    obtain ⟨_, _, n, early, same⟩ := h.identity _ a found
    have numbers := ActionEffects.idText_inj same
    omega

theorem Filed.insert (h : Filed digest P r) {a : ExternalActionRecord}
    (id : a.id = idText (r.sequence + 1)) (tenant : isUuid a.tenantId = true)
    (action : r.actionIndex.get (key a.tenantId a.actionId) = none)
    (idempotency : r.idempotencyIndex.get (key a.tenantId a.idempotencyKey) = none)
    (digested : a.requestDigest = digest (requestOf a)) (asked : P (requestOf a)) :
    Filed digest P { r with
      sequence := r.sequence + 1
      actionsById := r.actionsById.set a.id a
      actionIndex := r.actionIndex.set (key a.tenantId a.actionId) a.id
      idempotencyIndex := r.idempotencyIndex.set (key a.tenantId a.idempotencyKey) a.id } := by
  have fresh : r.actionsById.get a.id = none := id ▸ h.fresh
  have split : ∀ {i b}, (r.actionsById.set a.id a).get i = some b →
      i = a.id ∧ b = a ∨ r.actionsById.get i = some b := by
    intro i b found
    rw [InsertionMap.get_set] at found
    split at found
    · cases found
      exact Or.inl ⟨‹_›, rfl⟩
    · exact Or.inr found
  constructor
  · exact h.outbox
  · intro i b found
    rcases split found with ⟨rfl, rfl⟩ | stored
    · exact ⟨rfl, tenant, r.sequence + 1, Nat.le_refl _, id⟩
    · obtain ⟨same, valid, n, early, text⟩ := h.identity i b stored
      exact ⟨same, valid, n, Nat.le_succ_of_le early, text⟩
  · exact h.byAction.insert fresh action
  · exact h.byKey.insert fresh idempotency
  · intro i b found
    rcases split found with ⟨rfl, rfl⟩ | stored
    · exact digested
    · exact h.digests i b stored
  · intro i b found
    rcases split found with ⟨rfl, rfl⟩ | stored
    · exact asked
    · exact h.asked i b stored

theorem key_split {tenantId tenantId' x y : String} (tenant : isUuid tenantId = true)
    (tenant' : isUuid tenantId' = true) : key tenantId x = key tenantId' y ↔ tenantId = tenantId' ∧ x = y := by
  constructor
  · exact join_inj (uuid_no_colon tenant) (uuid_no_colon tenant')
  · rintro ⟨rfl, rfl⟩
    rfl

/-- The index by action ids finds what the table holds. -/
theorem Filed.action (h : Filed digest P r) {tenantId : String} (tenant : isUuid tenantId = true)
    (actionId : String) : (r.actionIndex.get (key tenantId actionId)).bind r.actionsById.get =
      r.actionsById.values.find? (PostgresExternalActionsRepository.sameAction tenantId actionId) := by
  rw [h.byAction.get]
  apply List.find?_congr
  intro a member
  obtain ⟨i, stored⟩ := (InsertionMap.mem_values _ a).mp member
  simp only [beq_eq_decide, key_split (h.identity i a stored).2.1 tenant,
    PostgresExternalActionsRepository.sameAction, Bool.decide_and]

theorem Filed.idempotency (h : Filed digest P r) {tenantId : String} (tenant : isUuid tenantId = true)
    (idempotencyKey : String) : (r.idempotencyIndex.get (key tenantId idempotencyKey)).bind r.actionsById.get =
      r.actionsById.values.find? (PostgresExternalActionsRepository.sameKey tenantId idempotencyKey) := by
  rw [h.byKey.get]
  apply List.find?_congr
  intro a member
  obtain ⟨i, stored⟩ := (InsertionMap.mem_values _ a).mp member
  simp only [beq_eq_decide, key_split (h.identity i a stored).2.1 tenant,
    PostgresExternalActionsRepository.sameKey, Bool.decide_and]

/-- The stored action a request meets: that of its action id, else that of its key. -/
def met (r : InMemoryExternalActionsRepository) (tenantId : String) (q : ExternalActionRequest) :
    Option ExternalActionRecord :=
  (r.actionsById.values.find? (PostgresExternalActionsRepository.sameAction tenantId q.actionId)).or
    (r.actionsById.values.find? (PostgresExternalActionsRepository.sameKey tenantId q.idempotencyKey))

/-- The stored action is the one that is asked for again. -/
def Replays (digest : ExternalActionRequest → String) (q : ExternalActionRequest)
    (a : ExternalActionRecord) : Prop :=
  a.actionId = q.actionId ∧ a.idempotencyKey = q.idempotencyKey ∧ a.requestDigest = digest q

instance (digest : ExternalActionRequest → String) (q : ExternalActionRequest) (a : ExternalActionRecord) :
    Decidable (Replays digest q a) := inferInstanceAs (Decidable (_ ∧ _ ∧ _))

/-- What a request does, by the stored action it meets. -/
inductive Answered (digest : ExternalActionRequest → String) (q : ExternalActionRequest)
    (r : InMemoryExternalActionsRepository) :
    Option ExternalActionRecord → Except DbError EnqueueExternalActionResult →
      InMemoryExternalActionsRepository → Prop where
  | duplicate {a t} (event : StoredOutboxEvent) (replays : Replays digest q a) (kept : Refiled r t) :
      Answered digest q r (some a) (.ok ⟨a, event, true⟩) t
  | conflict {a} (message : String) (differs : ¬ Replays digest q a) :
      Answered digest q r (some a) (.error (.conflict message)) r
  | added {x t} (fresh : ∀ a event, x ≠ .ok ⟨a, event, true⟩) (quiet : ∀ message, x ≠ .error (.conflict message)) :
      Answered digest q r none x t

theorem Filed.known (h : Filed digest P r) {tenantId : String} (tenant : isUuid tenantId = true)
    (q : ExternalActionRequest) :
    (r.actionIndex.get (key tenantId q.actionId) = none ↔
        r.actionsById.values.find? (PostgresExternalActionsRepository.sameAction tenantId q.actionId) = none) ∧
      (r.idempotencyIndex.get (key tenantId q.idempotencyKey) = none ↔
        r.actionsById.values.find? (PostgresExternalActionsRepository.sameKey tenantId q.idempotencyKey) = none) := by
  constructor
  · rw [← h.action tenant]
    exact ⟨fun unknown => by rw [unknown]; rfl, h.byAction.free⟩
  · rw [← h.idempotency tenant]
    exact ⟨fun unknown => by rw [unknown]; rfl, h.byKey.free⟩

theorem valid_tenant {q : ExternalActionRequest} (valid : externalActionRequestSchema q = true) :
    isUuid q.tenantId = true := by
  simp only [externalActionRequestSchema, Bool.and_eq_true] at valid
  exact valid.1.1.1.1

/-- The action a request meets, through the two indexes. -/
def chosen (r : InMemoryExternalActionsRepository) (tenantId : String) (q : ExternalActionRequest) :
    Option String :=
  (r.actionIndex.get (key tenantId q.actionId)).orElse fun _ =>
    r.idempotencyIndex.get (key tenantId q.idempotencyKey)

theorem chosen_eq (r : InMemoryExternalActionsRepository) (tenantId : String) (q : ExternalActionRequest) :
    ((r.actionIndex.get (key tenantId q.actionId)).orElse fun _ =>
      r.idempotencyIndex.get (key tenantId q.idempotencyKey)) = chosen r tenantId q := rfl

theorem Filed.met_chosen (h : Filed digest P r) {tenantId : String} (tenant : isUuid tenantId = true)
    (q : ExternalActionRequest) : met r tenantId q = (chosen r tenantId q).bind r.actionsById.get := by
  unfold met chosen
  rw [← h.action tenant, ← h.idempotency tenant]
  cases known : r.actionIndex.get (key tenantId q.actionId) with
  | none => simp
  | some i =>
    obtain ⟨a, stored, _⟩ := (h.byAction _ i).mp known
    simp [stored]

theorem Filed.stored (h : Filed digest P r) {tenantId i : String} {q : ExternalActionRequest}
    (found : chosen r tenantId q = some i) : ∃ a, r.actionsById.get i = some a := by
  unfold chosen at found
  cases known : r.actionIndex.get (key tenantId q.actionId) with
  | some j =>
    rw [known] at found
    cases found
    obtain ⟨a, stored, _⟩ := (h.byAction _ i).mp known
    exact ⟨a, stored⟩
  | none =>
    rw [known] at found
    obtain ⟨a, stored, _⟩ := (h.byKey _ i).mp found
    exact ⟨a, stored⟩

theorem free_of_unmet {tenantId : String} {q : ExternalActionRequest} (unmet : chosen r tenantId q = none) :
    r.actionIndex.get (key tenantId q.actionId) = none ∧
      r.idempotencyIndex.get (key tenantId q.idempotencyKey) = none := by
  unfold chosen at unmet
  cases known : r.actionIndex.get (key tenantId q.actionId) with
  | some j =>
    rw [known] at unmet
    cases unmet
  | none =>
    rw [known] at unmet
    exact ⟨rfl, unmet⟩

/-- A stored request that is asked for again or contradicted. -/
theorem existing_answers (h : Filed digest P r) (clock : Instant) {command : EnqueueOutboxEvent}
    (valid : command.valid = true) (q : ExternalActionRequest) (a : ExternalActionRecord)
    (message : String) :
    (Store.require (a.actionId = q.actionId ∧ a.idempotencyKey = q.idempotencyKey ∧
        a.requestDigest = digest q) (.conflict message) >>= fun _ =>
      enqueue clock command >>= fun event =>
        (pure ⟨a, event, true⟩ : ActionStore EnqueueExternalActionResult)).Ends r
      fun x t => Answered digest q r (some a) x t ∧ Filed digest P t := by
  apply Store.Ends.require_bind
  · intro differs
    exact ⟨.conflict message differs, h⟩
  · intro replays
    have calm := enqueue_calm clock command r h.named
    apply Store.Ends.bind (R := fun x t => (∃ event, x = .ok event) ∧ Refiled r t)
    · exact ⟨(ActionEffects.enqueue_ends clock h.outbox valid).1, calm⟩
    · rintro e t ⟨⟨event, returned⟩, _⟩
      cases returned
    · rintro event t ⟨_, kept⟩
      exact Store.Ends.pure ⟨.duplicate event replays kept, h.refiled kept⟩

/-- A new action is logged and sent. -/
theorem sent_answers {a : ExternalActionRecord} (filed : Filed digest P t) (clock server : Instant)
    (tenant : isUuid a.tenantId = true) (idempotencyKey : String) (payload : Payload)
    {command : EnqueueOutboxEvent} (valid : command.valid = true) :
    (appendEvent clock a (join "requested" idempotencyKey) "requested" payload >>= fun _ =>
      enqueue server command >>= fun event =>
        (pure ⟨a, event, false⟩ : ActionStore EnqueueExternalActionResult)).Ends t
      fun x u => (∃ event, x = .ok ⟨a, event, false⟩) ∧ Filed digest P u := by
  have logged := ActionEffects.append_ends (r := t) clock payload tenant
    (join_ne_empty "requested" idempotencyKey) (by decide : "requested" ≠ "")
  have calm := appendEvent_calm clock a (join "requested" idempotencyKey) "requested" payload t filed.named
  apply Store.Ends.bind (R := fun x s => x = .ok () ∧ Refiled t s) ⟨logged.1, calm⟩
  · rintro e s ⟨returned, _⟩
    cases returned
  · rintro _ s ⟨_, kept⟩
    have here := filed.refiled kept
    have calm := enqueue_calm server command s here.named
    apply Store.Ends.bind (R := fun x u => (∃ event, x = .ok event) ∧ Refiled s u)
      ⟨(ActionEffects.enqueue_ends server here.outbox valid).1, calm⟩
    · rintro e u ⟨⟨event, returned⟩, _⟩
      cases returned
    · rintro event u ⟨_, kept⟩
      exact Store.Ends.pure ⟨⟨event, rfl⟩, here.refiled kept⟩

theorem counted (r : InMemoryExternalActionsRepository) :
    Refiled r { r with sequence := r.sequence + 1 } :=
  ⟨rfl, rfl, fun _ => rfl, Nat.le_succ _, fun h => h⟩

/-- An answer that is new meets no stored action. -/
theorem answered_added {a : ExternalActionRecord} {x : Except DbError EnqueueExternalActionResult}
    {q : ExternalActionRequest} (returned : ∃ event, x = .ok ⟨a, event, false⟩) :
    Answered digest q r none x t := by
  obtain ⟨event, rfl⟩ := returned
  apply Answered.added
  · intro b other same
    cases same
  · intro message same
    cases same

theorem answered_refused {q : ExternalActionRequest} {e : DbError}
    (quiet : ∀ message, e ≠ .conflict message) :
    Answered digest q r none (.error e : Except DbError EnqueueExternalActionResult) t := by
  apply Answered.added
  · intro b other same
    cases same
  · intro message same
    cases same
    exact quiet message rfl

theorem request_answers (h : Filed digest P r) (clock : Clock) {q : ExternalActionRequest}
    (valid : externalActionRequestSchema q = true) (asked : P q) :
    (enqueueRequested digest clock q).Ends r fun x t =>
      Answered digest q r (met r q.tenantId q) x t ∧ Filed digest P t := by
  have tenant := valid_tenant valid
  rw [h.met_chosen tenant]
  apply Store.Ends.require_bind
  · intro refused
    exact absurd valid refused
  · intro _
    apply Store.Ends.read_bind
    apply Store.Ends.read_bind
    dsimp only
    rw [chosen_eq]
    cases found : chosen r q.tenantId q with
    | some i =>
      obtain ⟨a, stored⟩ := h.stored found
      apply Store.Ends.read_bind
      rw [stored, Option.bind_some, stored]
      dsimp only
      exact existing_answers h _ (ActionLifecycle.dispatch_valid valid) q a _
    | none =>
      obtain ⟨action, idempotency⟩ := free_of_unmet found
      apply ActionEffects.newId_bind
      apply Store.Ends.require_bind
      · intro _
        exact ⟨answered_refused nofun, h.refiled (counted r)⟩
      · intro _
        apply ActionEffects.save_bind
        apply Store.Ends.modify_bind
        have filed := h.insert (a := requestedAction q (idText (r.sequence + 1)) (digest q) (clock 0))
          rfl tenant action idempotency rfl asked
        exact (sent_answers filed _ _ tenant _ _ (ActionLifecycle.dispatch_valid valid)).weaken
          fun _ _ done => ⟨answered_added done.1, done.2⟩

section
open PostgresExternalActionsRepository

theorem hex_lower {c : Char} (h : isHexDigit c = true) : isHexDigit c.toLower = true := by
  have named : ∀ n, (48 ≤ n ∧ n ≤ 57) ∨ (97 ≤ n ∧ n ≤ 102) ∨ (65 ≤ n ∧ n ≤ 70) →
      isHexDigit (Char.ofNat n).toLower = true := by
    intro n range
    have small : n < 103 := by omega
    revert range
    revert n
    decide
  have range : (48 ≤ c.toNat ∧ c.toNat ≤ 57) ∨ (97 ≤ c.toNat ∧ c.toNat ≤ 102) ∨
      (65 ≤ c.toNat ∧ c.toNat ≤ 70) := by
    simp only [isHexDigit, Char.isDigit, Bool.or_eq_true, Bool.and_eq_true, decide_eq_true_eq] at h
    rcases h with (⟨low, high⟩ | ⟨low, high⟩) | ⟨low, high⟩
    · exact Or.inl ⟨low, high⟩
    · exact Or.inr (Or.inl ⟨low, high⟩)
    · exact Or.inr (Or.inr ⟨low, high⟩)
  have same := named c.toNat range
  rwa [Char.ofNat_toNat] at same

/-- A column keeps a uuid as a uuid. -/
theorem uuidColumn_uuid {s : String} (h : isUuid s = true) : isUuid (uuidColumn s) = true := by
  simp only [isUuid, uuidColumn, String.toList_ofList, Bool.and_eq_true, beq_iff_eq,
    List.length_map, List.zipIdx_map, List.all_map, List.all_eq_true] at h ⊢
  refine ⟨h.1, fun pair member => ?_⟩
  have at_ := h.2 pair member
  obtain ⟨c, i⟩ := pair
  simp only [Function.comp_apply, Prod.map_apply, id_eq] at at_ ⊢
  split
  · rename_i dash
    rw [if_pos dash] at at_
    rw [beq_iff_eq] at at_
    rw [at_]
    decide
  · rename_i dash
    rw [if_neg dash] at at_
    exact hex_lower at_

/-- The row an insert would conflict with. -/
theorem taken_iff (tenantId : String) (q : ExternalActionRequest) :
    (r.actionsById.values.any fun row =>
        sameAction tenantId q.actionId row || sameKey tenantId q.idempotencyKey row) =
      (met r tenantId q).isSome := by
  unfold met
  rw [Option.isSome_or, List.isSome_find?, List.isSome_find?]
  induction r.actionsById.values with
  | nil => rfl
  | cons a rows ih =>
    simp only [List.any_cons, ih]
    cases sameAction tenantId q.actionId a <;> cases sameKey tenantId q.idempotencyKey a <;> simp

/-- The request as its columns hold it. -/
def columns (q : ExternalActionRequest) : ExternalActionRequest :=
  { q with tenantId := uuidColumn q.tenantId }

theorem inserted_met (h : Filed digest P r) {tenantId : String} {q : ExternalActionRequest}
    (unmet : met r tenantId q = none) {a : ExternalActionRecord} (id : a.id = idText (r.sequence + 1))
    (tenant : a.tenantId = tenantId) (action : a.actionId = q.actionId) :
    ((r.actionsById.set a.id a).values.find? (sameAction tenantId q.actionId)) = some a := by
  have fresh : r.actionsById.get a.id = none := id ▸ h.fresh
  have none_ := (Option.or_eq_none_iff.mp unmet).1
  rw [InsertionMap.values_set_fresh fresh, List.find?_append, none_]
  simp [sameAction, tenant, action]

/-- An insert that conflicts inserts nothing. -/
theorem insert_taken {q : ExternalActionRequest} {a : ExternalActionRecord} (digested : String)
    (clock : Instant) (found : met r (uuidColumn q.tenantId) q = some a) :
    (insertAction digested clock (columns q)).run r = (.ok none, r) := by
  have taken := taken_iff (r := r) (uuidColumn q.tenantId) q
  rw [found] at taken
  simp only [insertAction, columns, Store.run_bind, Store.run_read, taken, Option.isSome_some,
    ↓reduceIte, Store.run_pure]

/-- The tables with a new action. -/
def withAction (r : InMemoryExternalActionsRepository) (a : ExternalActionRecord) :
    InMemoryExternalActionsRepository :=
  { r with
    sequence := r.sequence + 1
    actionsById := r.actionsById.set a.id a
    actionIndex := r.actionIndex.set (key a.tenantId a.actionId) a.id
    idempotencyIndex := r.idempotencyIndex.set (key a.tenantId a.idempotencyKey) a.id }

theorem insert_free {q : ExternalActionRequest} (digested : String) (clock : Instant)
    (unmet : met r (uuidColumn q.tenantId) q = none) :
    (insertAction digested clock (columns q)).Ends r fun x t =>
      (x = .error .zod ∧ Refiled r t) ∨ ∃ a, a = requestedAction (columns q) (idText (r.sequence + 1)) digested clock ∧
        x = .ok (some a) ∧ t = withAction r a := by
  have taken := taken_iff (r := r) (uuidColumn q.tenantId) q
  rw [unmet] at taken
  apply Store.Ends.read_bind
  change (if (r.actionsById.values.any fun row =>
    sameAction (uuidColumn q.tenantId) q.actionId row ||
      sameKey (uuidColumn q.tenantId) q.idempotencyKey row) = true then _ else _ :
    ActionStore (Option ExternalActionRecord)).Ends r _
  rw [taken]
  apply ActionEffects.newId_bind
  apply Store.Ends.require_bind
  · intro _
    exact Or.inl ⟨rfl, counted r⟩
  · intro _
    apply ActionEffects.save_bind
    apply Store.Ends.modify_bind
    exact Store.Ends.pure (Or.inr ⟨_, rfl, rfl, rfl⟩)

theorem columns_valid {q : ExternalActionRequest} (valid : externalActionRequestSchema q = true) :
    externalActionRequestSchema (columns q) = true := by
  have tenant := uuidColumn_uuid (valid_tenant valid)
  simp only [externalActionRequestSchema, Bool.and_eq_true] at valid ⊢
  exact ⟨⟨⟨⟨tenant, valid.1.1.1.2⟩, valid.1.1.2⟩, valid.1.2⟩, valid.2⟩

theorem columns_dispatch {q : ExternalActionRequest} (valid : externalActionRequestSchema q = true) :
    ({ dispatchCommand q with tenantId := uuidColumn q.tenantId } : EnqueueOutboxEvent).valid = true := by
  simpa only [EnqueueOutboxEvent.valid, dispatchCommand, columns] using
    ActionLifecycle.dispatch_valid (columns_valid valid)

theorem free_of_met (h : Filed digest P r) {tenantId : String} (tenant : isUuid tenantId = true)
    {q : ExternalActionRequest} (unmet : met r tenantId q = none) :
    r.actionIndex.get (key tenantId q.actionId) = none ∧
      r.idempotencyIndex.get (key tenantId q.idempotencyKey) = none := by
  have empty := Option.or_eq_none_iff.mp unmet
  have known := h.known tenant q
  exact ⟨known.1.mpr empty.1, known.2.mpr empty.2⟩

/-- What a request does once its row is inserted or in conflict. -/
def afterInsert (digest : ExternalActionRequest → String) (clock : Clock) (q : ExternalActionRequest)
    (inserted : Option ExternalActionRecord) : ActionStore EnqueueExternalActionResult := do
  let byAction ← loadAction (uuidColumn q.tenantId) q.actionId
  let byIdempotency ← loadActionByIdempotency (uuidColumn q.tenantId) q.idempotencyKey
  match byAction.or byIdempotency with
  | none => Store.throw (.error "Failed to create or load external action")
  | some action =>
    Store.require (action.actionId = q.actionId ∧ action.idempotencyKey = q.idempotencyKey ∧
        action.requestDigest = digest q)
      (.conflict "actionId or idempotencyKey was reused with a different external action request")
    if inserted.isSome then
      appendEvent (clock 0) action (join "requested" q.idempotencyKey) "requested"
        (transitionEventPayload action "requested" [])
    let event ← enqueue (clock 0) { dispatchCommand q with tenantId := uuidColumn q.tenantId }
    return ⟨action, event, inserted.isNone⟩

theorem conflicting_answers (h : Filed digest P r) (clock : Clock) {q : ExternalActionRequest}
    (valid : externalActionRequestSchema q = true) {a : ExternalActionRecord}
    (found : met r (uuidColumn q.tenantId) q = some a) :
    (afterInsert digest clock q none).Ends r fun x t => Answered digest q r (some a) x t ∧ Filed digest P t := by
  apply Store.Ends.read_bind
  apply Store.Ends.read_bind
  change (match met r (uuidColumn q.tenantId) q with
    | none => _
    | some action => _ : ActionStore EnqueueExternalActionResult).Ends r _
  rw [found]
  simp only [Option.isSome_none, Bool.false_eq_true, ↓reduceIte, Option.isNone_none]
  exact existing_answers h _ (columns_dispatch valid) q a _

theorem inserted_answers {s : InMemoryExternalActionsRepository} (filed : Filed digest P s) (clock : Clock)
    {q : ExternalActionRequest} (valid : externalActionRequestSchema q = true) {a : ExternalActionRecord}
    (tenant : isUuid a.tenantId = true) (replays : Replays digest q a)
    (here : s.actionsById.values.find? (sameAction (uuidColumn q.tenantId) q.actionId) = some a) :
    (afterInsert digest clock q (some a)).Ends s fun x t =>
      (∃ event, x = .ok ⟨a, event, false⟩) ∧ Filed digest P t := by
  apply Store.Ends.read_bind
  apply Store.Ends.read_bind
  rw [here]
  apply Store.Ends.require_bind
  · intro differs
    exact absurd replays differs
  · intro _
    simp only [Option.isSome_some, ↓reduceIte, Option.isNone_some]
    exact sent_answers filed (clock 0) (clock 0) tenant q.idempotencyKey _ (columns_dispatch valid)

theorem fresh_answers (h : Filed digest P r)
    (blind : ∀ q tenantId, digest { q with tenantId } = digest q) (clock : Clock)
    {q : ExternalActionRequest} (valid : externalActionRequestSchema q = true) (asked : P (columns q))
    (unmet : met r (uuidColumn q.tenantId) q = none) :
    (insertAction (digest q) (clock 0) (columns q) >>= afterInsert digest clock q).Ends r fun x t =>
      Answered digest q r none x t ∧ Filed digest P t := by
  have tenant : isUuid (uuidColumn q.tenantId) = true := uuidColumn_uuid (valid_tenant valid)
  apply Store.Ends.bind (insert_free (digest q) (clock 0) unmet)
  · rintro e t (⟨refused, kept⟩ | ⟨_, _, returned, _⟩)
    · cases refused
      exact ⟨answered_refused nofun, h.refiled kept⟩
    · cases returned
  · rintro inserted t (⟨refused, _⟩ | ⟨a, made, returned, rfl⟩)
    · cases refused
    · cases returned
      obtain ⟨action, idempotency⟩ := free_of_met h tenant unmet
      have id : a.id = idText (r.sequence + 1) := by rw [made]; rfl
      have named : a.tenantId = uuidColumn q.tenantId := by rw [made]; rfl
      have replays : Replays digest q a := by rw [made]; exact ⟨rfl, rfl, rfl⟩
      have request : requestOf a = columns q := by rw [made]; rfl
      have own : isUuid a.tenantId = true := by rw [named]; exact tenant
      rw [← named, ← replays.1] at action
      rw [← named, ← replays.2.1] at idempotency
      rw [← request] at asked
      have digested : a.requestDigest = digest (requestOf a) := by
        rw [replays.2.2, request]
        exact (blind q _).symm
      have filed : Filed digest P (withAction r a) := h.insert id own action idempotency digested asked
      exact (inserted_answers filed clock valid own replays
        (inserted_met h unmet id named replays.1)).weaken
          fun _ _ done => ⟨answered_added done.1, done.2⟩

theorem postgres_answers (h : Filed digest P r)
    (blind : ∀ q tenantId, digest { q with tenantId } = digest q) (clock : Clock)
    {q : ExternalActionRequest} (valid : externalActionRequestSchema q = true) (asked : P (columns q)) :
    (PostgresExternalActionsRepository.enqueueRequested digest clock q).Ends r fun x t =>
      Answered digest q r (met r (uuidColumn q.tenantId) q) x t ∧ Filed digest P t := by
  have body : (insertAction (digest q) (clock 0) (columns q) >>= afterInsert digest clock q).Ends r
      fun x t => Answered digest q r (met r (uuidColumn q.tenantId) q) x t ∧ Filed digest P t := by
    cases found : met r (uuidColumn q.tenantId) q with
    | none => exact fresh_answers h blind clock valid asked found
    | some a =>
      apply Store.Ends.bind (R := fun x t => x = .ok none ∧ t = r)
      · exact Prod.ext_iff.mp (insert_taken (digest q) (clock 0) found)
      · rintro e t ⟨returned, _⟩
        cases returned
      · rintro inserted t ⟨returned, rfl⟩
        cases returned
        exact conflicting_answers h clock valid found
  apply Store.Ends.require_bind
  · intro refused
    exact absurd valid refused
  · intro _
    apply Store.Ends.transaction body
    · intro a t done
      exact done
    · rintro e t ⟨answered, _⟩
      refine ⟨?_, h⟩
      generalize met r (uuidColumn q.tenantId) q = found at answered
      cases answered with
      | conflict message differs => exact .conflict message differs
      | added fresh quiet => exact .added fresh quiet

end

end

end VantGrowth.Proofs.ActionFiling
