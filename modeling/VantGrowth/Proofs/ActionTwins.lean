import VantGrowth.Lib.Twin
import VantGrowth.Proofs.ActionFiling

namespace VantGrowth.Proofs.ActionTwins
open Db Db.InMemoryExternalActionsRepository Lib Lib.Text ActionEffects
open ActionFiling ActionOperations
open ActionSteps (Holds)
open PostgresExternalActionsRepository (settleRow updateRow settledRow requireAction sendable refusal)

inductive ErrorClass where
  | zod | notFound | conflict | state | error | range
deriving DecidableEq

def errorClass : DbError → ErrorClass
  | .zod => .zod
  | .notFound _ => .notFound
  | .conflict _ => .conflict
  | .state _ => .state
  | .error _ => .error
  | .range => .range

def SameClass (e f : DbError) : Prop := errorClass e = errorClass f

theorem SameClass.refl (e : DbError) : SameClass e e := rfl

theorem SameClass.state (message message' : String) : SameClass (.state message) (.state message') := rfl

/-- The action as its columns hold it. -/
def rowOf (a : ExternalActionRecord) : ExternalActionRecord :=
  { a with tenantId := uuidColumn a.tenantId }

/-- The names of a call as the columns hold them. -/
def columnsOf (identity : DispatchIdentity) : DispatchIdentity :=
  { identity with tenantId := uuidColumn identity.tenantId }

/-- The tables hold the rows of the actions in memory, and ledgers with the same
event keys. -/
structure Mirrors (r t : InMemoryExternalActionsRepository) : Prop where
  actions : ∀ i, t.actionsById.get i = (r.actionsById.get i).map rowOf
  sequence : t.sequence = r.sequence
  events : ∀ id, (t.ledger id).map (·.eventKey) = (r.ledger id).map (·.eventKey)
  memoryOutbox : r.outboxRepository.Consistent
  postgresOutbox : t.outboxRepository.Consistent

theorem empty_mirrors : Mirrors empty empty where
  actions _ := rfl
  sequence := rfl
  events _ := rfl
  memoryOutbox := InMemoryOutboxRepository.empty_consistent
  postgresOutbox := InMemoryOutboxRepository.empty_consistent

section
variable {r t : InMemoryExternalActionsRepository} {a b : ExternalActionRecord}
  {E : DbError → DbError → Prop}

theorem read_run {f : InMemoryExternalActionsRepository → β} {g : β → ActionStore α} :
    (Store.read f >>= g).run r = (g (f r)).run r := rfl

theorem refuse_run {p : Prop} [Decidable p] {e : DbError} {g : Unit → ActionStore α} (refused : ¬ p) :
    (Store.require p e >>= g).run r = (.error e, r) := by
  rw [Store.run_bind, Store.run_require, if_neg refused]

theorem require_run {p : Prop} [Decidable p] {e : DbError} {g : Unit → ActionStore α} (passed : p) :
    (Store.require p e >>= g).run r = (g ()).run r := by
  rw [Store.run_bind, Store.run_require, if_pos passed]

theorem any_key (events : List ExternalActionEventRecord) (eventKey : String) :
    (events.any fun e => e.eventKey == eventKey) = (events.map (·.eventKey)).any (· == eventKey) := by
  induction events with
  | nil => rfl
  | cons e events ih => simp only [List.any_cons, List.map_cons, ih]

theorem Mirrors.any (h : Mirrors r t) (id eventKey : String) :
    ((t.ledger id).any fun e => e.eventKey == eventKey) =
      (r.ledger id).any fun e => e.eventKey == eventKey := by
  rw [any_key, any_key, h.events]

theorem append_run (clock : Instant) (payload : Payload) {eventKey eventType : String}
    (tenant : isUuid a.tenantId = true) (named : eventKey ≠ "") (typed : eventType ≠ "") :
    (appendEvent clock a eventKey eventType payload).run r =
      (.ok (), if (r.ledger a.id).any (fun e => e.eventKey == eventKey) then r
        else { r with
          sequence := r.sequence + 1
          eventsByActionId := r.eventsByActionId.set a.id
            (r.ledger a.id ++ [eventRecord (idText (r.sequence + 1)) clock a eventKey eventType payload]) }) := by
  have schema : externalActionEventRecordSchema
      (eventRecord (idText (r.sequence + 1)) clock a eventKey eventType payload) = true := by
    simp [externalActionEventRecordSchema, eventRecord, tenant, named, typed]
  unfold appendEvent
  cases there : (r.ledger a.id).any fun e => e.eventKey == eventKey with
  | true => simp only [Store.run_bind, Store.run_read, there, ↓reduceIte, Store.run_pure]
  | false =>
    simp only [Store.run_bind, Store.run_read, there, Bool.false_eq_true, ↓reduceIte, newId,
      Store.run_modify, Store.run_require, schema]

theorem logged_ledger (r : InMemoryExternalActionsRepository) (sequence : Nat) (id : String)
    (events : List ExternalActionEventRecord) (i : String) :
    ({ r with sequence, eventsByActionId := r.eventsByActionId.set id events } :
      InMemoryExternalActionsRepository).ledger i = if i = id then events else r.ledger i := by
  simp only [ledger, InsertionMap.get_set]
  split <;> rfl

theorem append_twin (h : Mirrors r t) (clock server : Instant) (payload payload' : Payload)
    {eventKey eventType : String} (tenant : isUuid a.tenantId = true) (named : eventKey ≠ "")
    (typed : eventType ≠ "") :
    Twin Mirrors E (fun _ _ => True) (appendEvent clock a eventKey eventType payload)
      (appendEvent server (rowOf a) eventKey eventType payload') r t := by
  have memory := append_run (r := r) clock payload tenant named typed
  have postgres := append_run (r := t) (a := rowOf a) server payload' (uuidColumn_uuid tenant) named typed
  constructor
  · rw [memory, postgres]
    exact .ok trivial
  · rw [memory, postgres, show (rowOf a).id = a.id from rfl, h.any]
    by_cases there : ((r.ledger a.id).any fun e => e.eventKey == eventKey) = true
    · rw [if_pos there, if_pos there]
      exact h
    · rw [if_neg there, if_neg there]
      refine ⟨h.actions, congrArg (· + 1) h.sequence, ?_, h.memoryOutbox, h.postgresOutbox⟩
      intro id
      rw [logged_ledger, logged_ledger]
      split
      · simp only [List.map_append, h.events, List.map_cons, List.map_nil, eventRecord]
      · exact h.events id

theorem enqueue_twin (h : Mirrors r t) (clock server : Instant) {command command' : EnqueueOutboxEvent}
    (valid : command.valid = true) (valid' : command'.valid = true) :
    Twin Mirrors E (fun _ _ => True) (enqueue clock command) (enqueue server command') r t := by
  obtain ⟨⟨e, memory⟩, sent⟩ := enqueue_ends clock h.memoryOutbox valid
  obtain ⟨⟨f, postgres⟩, sent'⟩ := enqueue_ends server h.postgresOutbox valid'
  constructor
  · rw [memory, postgres]
    exact .ok trivial
  · exact { h with memoryOutbox := sent.outbox, postgresOutbox := sent'.outbox }

/-- The event an outbox call returns is not looked at. -/
theorem emit_twin (h : Mirrors r t) (clock server : Instant) {command command' : EnqueueOutboxEvent}
    (valid : command.valid = true) (valid' : command'.valid = true) :
    Twin Mirrors E (fun _ _ => True) (enqueue clock command >>= fun _ => (pure () : ActionStore Unit))
      (enqueue server command' >>= fun _ => (pure () : ActionStore Unit)) r t :=
  (enqueue_twin h clock server valid valid').bind fun _ _ _ _ _ h => .pure h trivial

theorem lifecycle_twin (h : Mirrors r t) (clock server : Instant) (extra extra' : Payload)
    {eventType tag rest : String} (tenant : isUuid a.tenantId = true)
    (typed : isOutboxEventType eventType = true) :
    Twin Mirrors E (fun _ _ => True) (emitLifecycle clock a eventType (join tag rest) extra)
      (emitLifecycle server (rowOf a) eventType (join tag rest) extra') r t :=
  emit_twin h clock server (lifecycle_valid tenant typed)
    (lifecycle_valid (a := rowOf a) (uuidColumn_uuid tenant) typed)

theorem incident_twin (h : Mirrors r t) (clock server : Instant) (phase : FailurePhase)
    (tenant : isUuid a.tenantId = true) :
    Twin Mirrors E (fun _ _ => True) (emitFailureIncident clock a phase)
      (emitFailureIncident server (rowOf a) phase) r t :=
  emit_twin h clock server (incident_valid phase tenant)
    (incident_valid (a := rowOf a) phase (uuidColumn_uuid tenant))

/-- A change that is logged and announced, with what follows. -/
theorem logged_twin (h : Mirrors r t) (clock clock' server : Instant) {payload payload' extra extra' : Payload}
    {eventKey eventType announced tag rest : String} {finish : ActionStore α} {close : ActionStore β}
    {V : α → β → Prop} (named : eventKey ≠ "") (typed : eventType ≠ "")
    (known : isOutboxEventType announced = true)
    (last : ∀ r t, Mirrors r t → Twin Mirrors E V finish close r t) (tenant : isUuid a.tenantId = true) :
    Twin Mirrors E V
      (appendEvent clock a eventKey eventType payload >>= fun _ =>
        emitLifecycle clock' a announced (join tag rest) extra >>= fun _ => finish)
      (appendEvent server (rowOf a) eventKey eventType payload' >>= fun _ =>
        emitLifecycle server (rowOf a) announced (join tag rest) extra' >>= fun _ => close) r t := by
  apply Twin.bind (append_twin h clock server payload payload' tenant named typed)
  intro _ _ r t _ h
  apply Twin.bind (lifecycle_twin h clock' server extra extra' tenant known)
  intro _ _ r t _ h
  exact last r t h

/-- A change that is logged and announced, where memory then returns. -/
theorem reported_twin (h : Mirrors r t) (clock clock' server : Instant)
    {payload payload' extra extra' : Payload} {eventKey eventType announced tag rest : String} {x : α}
    (named : eventKey ≠ "") (typed : eventType ≠ "") (known : isOutboxEventType announced = true)
    (tenant : isUuid a.tenantId = true) :
    Twin Mirrors E (fun y _ => y = x)
      (appendEvent clock a eventKey eventType payload >>= fun _ =>
        emitLifecycle clock' a announced (join tag rest) extra >>= fun _ => pure x)
      (appendEvent server (rowOf a) eventKey eventType payload' >>= fun _ =>
        emitLifecycle server (rowOf a) announced (join tag rest) extra') r t := by
  apply Twin.bind (append_twin h clock server payload payload' tenant named typed)
  intro _ _ r t _ h
  apply Twin.bind_left (lifecycle_twin h clock' server extra extra' tenant known)
  intro _ _ r t _ h
  exact .pure h rfl

theorem save_twin (h : Mirrors r t) (a : ExternalActionRecord) :
    Twin Mirrors E (fun x y => x = a ∧ y = rowOf a) (save a) (save (rowOf a)) r t := by
  refine ⟨.ok ⟨rfl, rfl⟩, { h with actions := ?_ }⟩
  intro i
  change (t.actionsById.set a.id (rowOf a)).get i = ((r.actionsById.set a.id a).get i).map rowOf
  rw [InsertionMap.get_set, InsertionMap.get_set]
  split
  · rfl
  · exact h.actions i

theorem find_run (identity : DispatchIdentity) (r : InMemoryExternalActionsRepository) :
    (∃ a, Holds r identity a ∧ (find identity).run r = (.ok a, r)) ∨
      (∀ a, ¬ Holds r identity a) ∧ (find identity).run r = (.error (.notFound identity.actionId), r) := by
  unfold find
  cases found : r.lookup identity.tenantId identity.actionId with
  | none =>
    apply Or.inr
    constructor
    · intro a holds
      rw [holds.found] at found
      cases found
    · simp only [Store.run_bind, Store.run_read, found, Store.run_throw]
  | some a =>
    by_cases keyed : a.idempotencyKey = identity.idempotencyKey
    · apply Or.inl
      refine ⟨a, ⟨found, keyed⟩, ?_⟩
      simp only [Store.run_bind, Store.run_read, found, Store.run_require, keyed, ↓reduceIte,
        Store.run_pure]
    · apply Or.inr
      constructor
      · intro b holds
        rw [holds.found] at found
        cases found
        exact keyed holds.keyed
      · simp only [Store.run_bind, Store.run_read, found, Store.run_require, keyed, ↓reduceIte]

theorem find_holds {identity : DispatchIdentity} (holds : Holds r identity a) :
    (find identity).run r = (.ok a, r) := by
  rcases find_run identity r with ⟨b, other, ran⟩ | ⟨missing, _⟩
  · have same := holds.found.symm.trans other.found
    cases same
    exact ran
  · exact absurd holds (missing a)

theorem find_missing {identity : DispatchIdentity} (missing : ∀ a, ¬ Holds r identity a) :
    (find identity).run r = (.error (.notFound identity.actionId), r) := by
  rcases find_run identity r with ⟨b, other, _⟩ | ⟨_, ran⟩
  · exact absurd other (missing b)
  · exact ran

section
variable {identity : DispatchIdentity} {guard : ExternalActionRecord → Bool}
  {set : ExternalActionRecord → ExternalActionRecord} {log : ExternalActionRecord → ActionStore Unit}

/-- An update whose conditions no row meets. -/
theorem settleRow_none (refused : ∀ a, Holds t identity a → guard a = false) :
    (settleRow identity guard set log).run t = (.ok none, t) := by
  unfold settleRow updateRow
  cases found : t.lookup identity.tenantId identity.actionId with
  | none => simp only [Store.run_bind, Store.run_read, found, Store.run_pure]
  | some a =>
    have unmet : ¬ (a.idempotencyKey = identity.idempotencyKey ∧ guard a = true) := by
      intro met
      have fails := refused a ⟨found, met.1⟩
      simp [fails] at met
    simp only [Store.run_bind, Store.run_read, found, unmet, ↓reduceIte, Store.run_pure]

theorem settleRow_some (holds : Holds t identity a) (fits : guard a = true) :
    (settleRow identity guard set log).run t =
      (save (set a) >>= fun updated => log updated >>= fun _ => pure (some updated)).run t := by
  unfold settleRow updateRow
  simp only [Store.run_bind, Store.run_read, holds.found, holds.keyed, fits, and_self, ↓reduceIte]
  rfl

/-- No error on either side. -/
def Never (_ _ : DbError) : Prop := False

/-- The row that the call names is rewritten and logged on both sides. -/
theorem rewritten_twin (h : Mirrors r t) (holds : Holds t identity (rowOf a))
    (fits : guard (rowOf a) = true) (made : set (rowOf a) = rowOf b)
    {rest : ExternalActionRecord → ActionStore α} {answer : α}
    (logs : ∀ r t, Mirrors r t → Twin Mirrors Never (fun x _ => x = answer) (rest b) (log (rowOf b)) r t) :
    Twin Mirrors Never (fun x y => x = answer ∧ y = some (rowOf b)) (save b >>= rest)
      (settleRow identity guard set log) r t := by
  apply Twin.congr rfl (settleRow_some holds fits)
  rw [made]
  apply (save_twin h b).bind
  intro x y s u same saved
  obtain ⟨rfl, rfl⟩ := same
  apply (logs s u saved).bind_right
  intro x y s u same logged
  exact .pure logged ⟨same, rfl⟩

end

/-- The stored actions with these names that are the tenant's have its id as it
is spelled here. -/
def Spelled (r : InMemoryExternalActionsRepository) (tenantId : String)
    (named : ExternalActionRecord → Prop) : Prop :=
  ∀ i a, r.actionsById.get i = some a → named a → uuidColumn a.tenantId = uuidColumn tenantId →
    a.tenantId = tenantId

/-- The names of the action a call is for. -/
def Names (identity : DispatchIdentity) (a : ExternalActionRecord) : Prop :=
  a.actionId = identity.actionId ∧ a.idempotencyKey = identity.idempotencyKey

section
variable {digest : ExternalActionRequest → String} {P : ExternalActionRequest → Prop}
  {identity : DispatchIdentity}

theorem holds_iff (h : Filed digest P r) (tenant : isUuid identity.tenantId = true) :
    Holds r identity a ↔
      r.actionsById.get a.id = some a ∧ a.tenantId = identity.tenantId ∧ Names identity a := by
  constructor
  · intro holds
    obtain ⟨i, indexed, stored⟩ := Option.bind_eq_some_iff.mp holds.found
    obtain ⟨b, same, keyed⟩ := (h.byAction _ i).mp indexed
    cases stored.symm.trans same
    obtain ⟨id, own, _⟩ := h.identity i a stored
    obtain ⟨spelled, action⟩ := (key_split own tenant).mp keyed
    rw [← id] at stored
    exact ⟨stored, spelled, action, holds.keyed⟩
  · intro named
    obtain ⟨stored, spelled, action, keyed⟩ := named
    have indexed := (h.byAction (key identity.tenantId identity.actionId) a.id).mpr
      ⟨a, stored, congrArg₂ key spelled action⟩
    constructor
    · unfold InMemoryExternalActionsRepository.lookup
      rw [indexed]
      exact stored
    · exact keyed

theorem Mirrors.row (h : Mirrors r t) (stored : r.actionsById.get a.id = some a) :
    t.actionsById.get (rowOf a).id = some (rowOf a) := by
  change t.actionsById.get a.id = some (rowOf a)
  rw [h.actions, stored, Option.map_some]

/-- Both sides find the same action. -/
theorem Mirrors.holds (h : Mirrors r t) (memory : Filed digest P r) (postgres : Filed digest P t)
    (tenant : isUuid identity.tenantId = true)
    (spelled : Spelled r identity.tenantId (Names identity)) (b : ExternalActionRecord) :
    Holds t (columnsOf identity) b ↔ ∃ a, Holds r identity a ∧ b = rowOf a := by
  have tenant' : isUuid (columnsOf identity).tenantId = true := uuidColumn_uuid tenant
  constructor
  · intro holds
    obtain ⟨stored, filed, names⟩ := (holds_iff postgres tenant').mp holds
    rw [h.actions] at stored
    obtain ⟨a, here, rfl⟩ := Option.map_eq_some_iff.mp stored
    exact ⟨a, (holds_iff memory tenant).mpr ⟨here, spelled _ a here names filed, names⟩, rfl⟩
  · intro found
    obtain ⟨a, holds, rfl⟩ := found
    obtain ⟨stored, own, names⟩ := (holds_iff memory tenant).mp holds
    exact (holds_iff postgres tenant').mpr ⟨h.row stored, congrArg uuidColumn own, names⟩

/-- Both sides find the action that a call names, or neither does. -/
def FoundAlike (r t : InMemoryExternalActionsRepository) (identity : DispatchIdentity) : Prop :=
  ∀ b, Holds t (columnsOf identity) b ↔ ∃ a, Holds r identity a ∧ b = rowOf a

theorem FoundAlike.missing (found : FoundAlike r t identity) (missing : ∀ a, ¬ Holds r identity a)
    (b : ExternalActionRecord) : ¬ Holds t (columnsOf identity) b := by
  intro holds
  obtain ⟨a, here, _⟩ := (found b).mp holds
  exact missing a here

theorem FoundAlike.only (found : FoundAlike r t identity) (holds : Holds r identity a)
    (there : Holds t (columnsOf identity) b) : b = rowOf a := by
  obtain ⟨c, here, rfl⟩ := (found b).mp there
  cases holds.found.symm.trans here.found
  rfl

theorem find_bind_holds {g : ExternalActionRecord → ActionStore α} (holds : Holds r identity a) :
    (find identity >>= g).run r = (g a).run r := by
  rw [Store.run_bind, find_holds holds]

theorem find_bind_missing {g : ExternalActionRecord → ActionStore α}
    (missing : ∀ a, ¬ Holds r identity a) :
    (find identity >>= g).run r = (.error (.notFound identity.actionId), r) := by
  rw [Store.run_bind, find_missing missing]

/-- Both sides throw and write nothing. -/
theorem refused_twin (h : Mirrors r t) {m : ActionStore α} {n : ActionStore β} {V : α → β → Prop}
    {e f : DbError} (same : SameClass e f) (left : m.run r = (.error e, r))
    (right : n.run t = (.error f, t)) : Twin Mirrors SameClass V m n r t := by
  constructor
  · rw [left, right]
    exact .error same
  · rw [left, right]
    exact h

def SameRow (a b : ExternalActionRecord) : Prop := b = rowOf a

/-- What a settlement whose update found no row ends with. -/
theorem settledRow_holds (there : Holds t (columnsOf identity) (rowOf a)) :
    (settledRow (columnsOf identity) none).run t =
      (if isSettled a.state = true then pure (rowOf a)
        else Store.throw (.state ("Dispatch lease was lost for external action " ++ identity.actionId)) :
        ActionStore ExternalActionRecord).run t := by
  unfold settledRow requireAction
  rw [find_bind_holds there]
  rfl

theorem transaction_read {m : ActionStore α} (h : m.run t = (x, t)) :
    (Store.transaction m).run t = (x, t) := by
  unfold Store.transaction
  cases x <;> simp only [h]

/-- A settlement on both sides, one checking the lease and then writing, the
other writing where the lease fits and asking afterwards why it did not. -/
theorem settlement_twin (h : Mirrors r t) (found : FoundAlike r t identity)
    (tenants : ∀ a, Holds r identity a → isUuid a.tenantId = true) {leaseOwner verb : String}
    {made set : ExternalActionRecord → ExternalActionRecord}
    {rest : ExternalActionRecord → ActionStore ExternalActionRecord}
    {log : ExternalActionRecord → ActionStore Unit} {update : ActionStore (Option ExternalActionRecord)}
    (written : update = Store.transaction (settleRow (columnsOf identity)
      (PostgresExternalActionsRepository.leased leaseOwner) set log))
    (rows : ∀ a, set (rowOf a) = rowOf (made a))
    (logs : ∀ a, isUuid a.tenantId = true → ∀ r t, Mirrors r t →
      Twin Mirrors Never (fun x _ => x = made a) (rest (made a)) (log (rowOf (made a))) r t) :
    Twin Mirrors SameClass SameRow
      (find identity >>= fun action =>
        if isSettled action.state = true then pure action
        else requireLease action leaseOwner verb >>= fun _ => save (made action) >>= rest)
      (Store.transaction (update >>= settledRow (columnsOf identity))) r t := by
  rw [written]
  apply Twin.congr rfl Store.transaction_inner
  rcases find_run identity r with ⟨a, holds, _⟩ | ⟨missing, _⟩
  · have there := (found (rowOf a)).mpr ⟨a, holds, rfl⟩
    by_cases leased : a.state = .dispatching ∧ a.dispatchLeaseOwner = some leaseOwner
    · have running : ¬ isSettled a.state = true := by simp [leased.1, isSettled]
      have fits : PostgresExternalActionsRepository.leased leaseOwner (rowOf a) = true := by
        simp [PostgresExternalActionsRepository.leased, rowOf, leased.1, leased.2]
      have left : (find identity >>= fun action =>
          if isSettled action.state = true then pure action
          else requireLease action leaseOwner verb >>= fun _ => save (made action) >>= rest).run r =
          (save (made a) >>= rest).run r := by
        rw [find_bind_holds holds, if_neg running]
        exact require_run leased
      apply Twin.congr left rfl
      apply Twin.transaction
      apply (rewritten_twin h there fits (rows a) (logs a (tenants a holds))).bind_right
      intro x y s u same saved
      obtain ⟨rfl, rfl⟩ := same
      exact .pure saved rfl
    · have unleased : ∀ b, Holds t (columnsOf identity) b →
          PostgresExternalActionsRepository.leased leaseOwner b = false := by
        intro b other
        rw [found.only holds other]
        simpa [PostgresExternalActionsRepository.leased, rowOf] using leased
      have kept : (settleRow (columnsOf identity) (PostgresExternalActionsRepository.leased leaseOwner)
          set log).run t = (.ok none, t) := settleRow_none unleased
      have right := Store.transaction_ok (g := settledRow (columnsOf identity)) kept
      apply Twin.congr (find_bind_holds holds) right
      by_cases done : isSettled a.state = true
      · have answer := settledRow_holds there
        rw [if_pos done] at answer ⊢
        exact Twin.congr rfl (transaction_read answer) (.pure h rfl)
      · have answer := settledRow_holds there
        rw [if_neg done] at answer ⊢
        exact refused_twin h (.state _ _) (refuse_run leased) (transaction_read answer)
  · have nowhere := found.missing missing
    have kept : (settleRow (columnsOf identity) (PostgresExternalActionsRepository.leased leaseOwner)
        set log).run t = (.ok none, t) := settleRow_none fun b other => absurd other (nowhere b)
    have right := Store.transaction_ok (g := settledRow (columnsOf identity)) kept
    have answer : (settledRow (columnsOf identity) none).run t = (.error (.notFound identity.actionId), t) :=
      find_bind_missing nowhere
    exact refused_twin h (.refl _) (find_bind_missing missing) (right.trans (transaction_read answer))

theorem holds_tenant (h : Filed digest P r) (tenant : isUuid identity.tenantId = true)
    (holds : Holds r identity a) : isUuid a.tenantId = true := by
  obtain ⟨_, own, _⟩ := (holds_iff h tenant).mp holds
  rw [own]
  exact tenant

theorem sendable_passed {date : JsDate} (dated : date ≠ .invalid) {m : ActionStore α} :
    (sendable date >>= fun _ => m) = m := by
  apply Store.run_ext
  intro s
  unfold sendable
  rw [Store.run_bind, Store.run_require, if_pos dated]

/-- The identifiers of a receipt are set or left out. -/
def NonEmpty (receipt : DispatchReceipt) : Prop :=
  receipt.workflowId ≠ some "" ∧ receipt.executionId ≠ some "" ∧ receipt.providerReference ≠ some ""

theorem truthy_same {value : Option String} (filled : value ≠ some "") :
    PostgresExternalActionsRepository.truthy value = value := by
  unfold PostgresExternalActionsRepository.truthy
  cases value with
  | none => rfl
  | some s =>
    have named : s ≠ "" := by
      intro empty
      exact filled (congrArg some empty)
    simp [named]

theorem truthy_receipt {receipt : DispatchReceipt} (filled : NonEmpty receipt) :
    { receipt with
      workflowId := PostgresExternalActionsRepository.truthy receipt.workflowId
      executionId := PostgresExternalActionsRepository.truthy receipt.executionId
      providerReference := PostgresExternalActionsRepository.truthy receipt.providerReference } = receipt := by
  rw [truthy_same filled.1, truthy_same filled.2.1, truthy_same filled.2.2]

/-- The names pass the check that every dispatch call starts with. -/
def ValidIdentity (identity : DispatchIdentity) : Prop :=
  isUuid identity.tenantId = true ∧ actionIdSchema identity.actionId = true ∧
    idempotencyKeySchema identity.idempotencyKey = true

/-- The date a call is stamped with is one. -/
theorem stamped {now : Option JsDate} (dated : now ≠ some .invalid) (clock : Instant) :
    now.getD (.valid clock) ≠ .invalid := by
  cases now with
  | none => simp
  | some date => simpa using dated

theorem accept_twin (h : Mirrors r t) (memory : Filed digest P r) (postgres : Filed digest P t)
    (clock : Clock) (input : RecordDispatchAcceptedInput)
    (spelled : Spelled r input.tenantId (Names input.toDispatchIdentity))
    (dated : ValidIdentity input.toDispatchIdentity → input.now ≠ some .invalid)
    (filled : NonEmpty input.receipt) :
    Twin Mirrors SameClass SameRow (recordDispatchAccepted clock input)
      (PostgresExternalActionsRepository.recordDispatchAccepted clock input) r t := by
  apply Twin.require_bind h (SameClass.refl _)
  intro valid
  have found : FoundAlike r t input.toDispatchIdentity := h.holds memory postgres valid.1 spelled
  have now : input.now.getD (.valid (clock 0)) ≠ .invalid := stamped (dated valid) _
  apply settlement_twin h found
  · intro a holds
    exact holds_tenant memory valid.1 holds
  · unfold PostgresExternalActionsRepository.acceptRow
    rw [sendable_passed now]
    simp only [truthy_receipt filled]
    rfl
  · intro a
    rfl
  · intro a tenant r t h
    apply reported_twin h _ _ _ (join_ne_empty _ _) (by decide) (by decide)
    exact tenant

theorem isoText_valid {date : JsDate} {g : String → ActionStore α} {at_ : Instant} (dated : date = .valid at_) :
    isoText date >>= g = g at_.toISOString := by
  rw [dated]
  rfl

theorem retry_twin (h : Mirrors r t) (memory : Filed digest P r) (postgres : Filed digest P t)
    (clock : Clock) (input : ScheduleDispatchRetryInput)
    (spelled : Spelled r input.tenantId (Names input.toDispatchIdentity))
    (dated : ValidIdentity input.toDispatchIdentity → input.retryAfterMs.atMostZero = false →
      (input.now.getD (.valid (clock 0))).plus input.retryAfterMs ≠ .invalid) :
    Twin Mirrors SameClass SameRow (scheduleDispatchRetry clock input)
      (PostgresExternalActionsRepository.scheduleDispatchRetry clock input) r t := by
  apply Twin.require_bind h (SameClass.refl _)
  intro valid
  apply Twin.require_bind h (SameClass.refl _)
  intro positive
  have found : FoundAlike r t input.toDispatchIdentity := h.holds memory postgres valid.1 spelled
  obtain ⟨at_, time⟩ : ∃ at_, (input.now.getD (.valid (clock 0))).plus input.retryAfterMs = .valid at_ := by
    cases due : (input.now.getD (.valid (clock 0))).plus input.retryAfterMs with
    | invalid => exact absurd due (dated valid positive)
    | valid at_ => exact ⟨at_, rfl⟩
  apply settlement_twin h found
  · intro a holds
    exact holds_tenant memory valid.1 holds
  · unfold PostgresExternalActionsRepository.retryRow
    rw [isoText_valid time]
    rfl
  · intro a
    rfl
  · intro a tenant r t h
    rw [isoText_valid time]
    apply reported_twin h _ _ _ (join_ne_empty _ _) (by decide) (by decide)
    exact tenant

theorem fail_twin (h : Mirrors r t) (memory : Filed digest P r) (postgres : Filed digest P t)
    (clock : Clock) (input : FailExternalActionDispatchInput)
    (spelled : Spelled r input.tenantId (Names input.toDispatchIdentity))
    (dated : ValidIdentity input.toDispatchIdentity → input.now ≠ some .invalid) :
    Twin Mirrors SameClass SameRow (failDispatch clock input)
      (PostgresExternalActionsRepository.failDispatch clock input) r t := by
  apply Twin.require_bind h (SameClass.refl _)
  intro valid
  have found : FoundAlike r t input.toDispatchIdentity := h.holds memory postgres valid.1 spelled
  have now : input.now.getD (.valid (clock 0)) ≠ .invalid := stamped (dated valid) _
  apply settlement_twin h found
  · intro a holds
    exact holds_tenant memory valid.1 holds
  · unfold PostgresExternalActionsRepository.failRow
    rw [sendable_passed now]
    rfl
  · intro a
    rfl
  · intro a tenant r t h
    apply logged_twin h _ _ _ (join_ne_empty _ _) (by decide) (by decide)
    · intro r t h
      apply Twin.bind_left (incident_twin h _ _ _ _)
      · intro _ _ r t _ h
        exact .pure h rfl
      · exact tenant
    · exact tenant

/-- The claim with the row of its action. -/
def claimOf : ExternalActionDispatchClaim → ExternalActionDispatchClaim
  | .claimed a => .claimed (rowOf a)
  | .deferred a => .deferred (rowOf a)
  | .in_flight a => .in_flight (rowOf a)
  | .settled a => .settled (rowOf a)

def SameClaim (x y : ExternalActionDispatchClaim) : Prop := y = claimOf x

/-- What no branch of a claim turns away is what its update takes. -/
theorem claimable_row (sound : Sound r) (stored : r.actionsById.get a.id = some a) {now : JsDate}
    (unsettled : ¬ isSettled a.state = true)
    (due : ¬ (a.state = .retry_scheduled ∧ a.nextRetryAt.any (·.after now) = true))
    (lapsed : ¬ (a.state = .dispatching ∧ a.dispatchLeaseExpiresAt.any (·.after now) = true)) :
    PostgresExternalActionsRepository.claimable now (rowOf a) = true := by
  have waits := (sound.shapes _ a stored).retry
  unfold PostgresExternalActionsRepository.claimable rowOf
  cases state : a.state with
  | requested =>
    have never : a.nextRetryAt = none := by simpa [state] using waits
    simp [never]
  | dispatching => simpa [state] using lapsed
  | retry_scheduled => simpa [state] using due
  | dispatched => simp [state, isSettled] at unsettled
  | completed => simp [state, isSettled] at unsettled
  | failed => simp [state, isSettled] at unsettled

theorem claim_twin (h : Mirrors r t) (memory : Filed digest P r) (postgres : Filed digest P t)
    (sound : Sound r) (clock : Clock) (input : ClaimExternalActionDispatch)
    (spelled : Spelled r input.tenantId (Names input.toDispatchIdentity))
    (dated : ∀ a, Holds r input.toDispatchIdentity a → ValidIdentity input.toDispatchIdentity →
      input.leaseOwner ≠ "" ∧ input.leaseDurationMs.atMostZero = false →
        PostgresExternalActionsRepository.claimable (input.now.getD (.valid (clock 0))) a = true →
          (input.now.getD (.valid (clock 0))).plus input.leaseDurationMs ≠ .invalid) :
    Twin Mirrors SameClass SameClaim (claimDispatch clock input)
      (PostgresExternalActionsRepository.claimDispatch clock input) r t := by
  apply Twin.require_bind h (SameClass.refl _)
  intro valid
  apply Twin.require_bind h (SameClass.refl _)
  intro lease
  have found : FoundAlike r t input.toDispatchIdentity := h.holds memory postgres valid.1 spelled
  rcases find_run input.toDispatchIdentity r with ⟨a, holds, _⟩ | ⟨missing, _⟩
  · have there := (found (rowOf a)).mpr ⟨a, holds, rfl⟩
    apply Twin.congr (find_bind_holds holds) (Store.transaction_ok (find_holds there))
    generalize input.now.getD (.valid (clock 0)) = now at dated ⊢
    by_cases done : isSettled a.state = true
    · have refused : refusal (rowOf a) now = some (.settled (rowOf a)) := if_pos done
      rw [if_pos done, refused]
      exact Twin.congr rfl (transaction_read rfl) (.pure h rfl)
    · by_cases due : a.state = .retry_scheduled ∧ a.nextRetryAt.any (·.after now) = true
      · have refused : refusal (rowOf a) now = some (.deferred (rowOf a)) := (if_neg done).trans (if_pos due)
        rw [if_neg done, if_pos due, refused]
        exact Twin.congr rfl (transaction_read rfl) (.pure h rfl)
      · have passed : refusal (rowOf a) now = none := (if_neg done).trans (if_neg due)
        rw [if_neg done, if_neg due, passed]
        change Twin _ _ _ _ (Store.transaction (if a.state = .dispatching ∧
          a.dispatchLeaseExpiresAt.any (·.after now) = true then _ else _)) _ _
        by_cases held : a.state = .dispatching ∧ a.dispatchLeaseExpiresAt.any (·.after now) = true
        · rw [if_pos held, if_pos held]
          exact Twin.congr rfl (transaction_read rfl) (.pure h rfl)
        · rw [if_neg held, if_neg held]
          obtain ⟨stored, _⟩ := (holds_iff memory valid.1).mp holds
          have tenant : isUuid a.tenantId = true := holds_tenant memory valid.1 holds
          have fits := claimable_row sound stored done due held
          have written : PostgresExternalActionsRepository.claimRow (clock 1) now
              { input with tenantId := uuidColumn input.tenantId } =
            Store.transaction (settleRow (columnsOf input.toDispatchIdentity)
              (PostgresExternalActionsRepository.claimable now) (claimedAction input now) fun claimed =>
                appendEvent (clock 1) claimed (join "dispatch_started" (decimal claimed.dispatchAttempts))
                  "dispatch_started" (transitionEventPayload claimed "dispatch_started" [])) := by
            unfold PostgresExternalActionsRepository.claimRow
            rw [sendable_passed (dated a holds valid lease fits)]
            rfl
          rw [written]
          apply Twin.congr rfl Store.transaction_inner
          apply Twin.transaction
          apply Twin.bind_right (W := fun x y => x = .claimed (claimedAction input now a) ∧
            y = some (rowOf (claimedAction input now a)))
          · apply rewritten_twin (b := claimedAction input now a) h there fits rfl
            intro r t h
            apply Twin.bind_left (append_twin h _ _ _ _ _ (join_ne_empty _ _) (by decide))
            · intro _ _ r t _ h
              exact .pure h rfl
            · exact tenant
          · intro x y r t same h
            obtain ⟨rfl, rfl⟩ := same
            exact .pure h rfl
  · have nowhere := found.missing missing
    exact refused_twin h (.refl _) (find_bind_missing missing) (transaction_read (find_bind_missing nowhere))

/-- The names of the action a callback is for. -/
def calledBack (input : RecordExternalActionOutcome) : DispatchIdentity :=
  ⟨input.tenantId, input.actionId, input.idempotencyKey⟩

/-- A callback on both sides: the same answer about the same action. -/
def SameOutcome (x y : RecordExternalActionOutcomeResult) : Prop :=
  y = ⟨rowOf x.action, x.isDuplicate⟩

theorem truthy_named {value : Option String} (named : optionalName value = true) :
    PostgresExternalActionsRepository.truthy value = value := by
  apply truthy_same
  intro empty
  rw [empty] at named
  revert named
  decide

theorem eligible_iff (state : ExternalActionState) :
    PostgresExternalActionsRepository.callbackEligible state = true ↔ ¬ (state = .completed ∨ state = .failed) := by
  cases state <;> simp [PostgresExternalActionsRepository.callbackEligible]

/-- The identifiers of a valid outcome are not empty. -/
theorem outcome_row {input : RecordExternalActionOutcome}
    (valid : recordExternalActionOutcomeSchema input = true) (now : Instant) (a : ExternalActionRecord) :
    settledAction { input with
      tenantId := uuidColumn input.tenantId
      workflowId := PostgresExternalActionsRepository.truthy input.workflowId
      executionId := PostgresExternalActionsRepository.truthy input.executionId
      providerReference := PostgresExternalActionsRepository.truthy input.providerReference } now (rowOf a) =
        rowOf (settledAction input now a) := by
  simp only [recordExternalActionOutcomeSchema, Bool.and_eq_true] at valid
  obtain ⟨⟨⟨⟨⟨_, workflow⟩, execution⟩, provider⟩, _⟩, _⟩ := valid
  simp only [truthy_named workflow, truthy_named execution, truthy_named provider]
  rfl

theorem outcome_typed (status : ExternalActionOutcomeStatus) : "outcome_" ++ status.state.text ≠ "" := by
  cases status <;> decide

theorem outcome_type (status : ExternalActionOutcomeStatus) :
    isOutboxEventType ("external_action." ++ status.state.text ++ ".v1") = true := by
  cases status <;> decide

/-- No row of a terminal action takes a callback. -/
theorem outcomeRow_none {input : RecordExternalActionOutcome} (found : FoundAlike r t (calledBack input))
    (holds : Holds r (calledBack input) a) (ended : a.state = .completed ∨ a.state = .failed)
    (server now : Instant) :
    (PostgresExternalActionsRepository.outcomeRow server now
      { input with tenantId := uuidColumn input.tenantId }).run t = (.ok none, t) := by
  apply transaction_read
  apply settleRow_none
  intro b other
  rw [found.only holds other]
  have shut := (eligible_iff a.state).not.mpr (not_not.mpr ended)
  exact Bool.eq_false_iff.mpr shut

theorem outcome_twin (h : Mirrors r t) (memory : Filed digest P r) (postgres : Filed digest P t)
    (clock : Clock) (input : RecordExternalActionOutcome)
    (spelled : Spelled r input.tenantId (Names (calledBack input))) :
    Twin Mirrors SameClass SameOutcome (recordOutcome clock input)
      (PostgresExternalActionsRepository.recordOutcome clock input) r t := by
  apply Twin.require_bind h (SameClass.refl _)
  intro valid
  have tenant : isUuid input.tenantId = true := by
    simp only [recordExternalActionOutcomeSchema, Bool.and_eq_true] at valid
    exact valid.1.1.1.1.1.1.1.1
  have found : FoundAlike r t (calledBack input) := h.holds memory postgres tenant spelled
  rcases find_run (calledBack input) r with ⟨a, holds, _⟩ | ⟨missing, _⟩
  · have there := (found (rowOf a)).mpr ⟨a, holds, rfl⟩
    have own : isUuid a.tenantId = true := holds_tenant memory tenant holds
    apply Twin.congr (find_bind_holds holds) (Store.transaction_ok (find_holds there))
    generalize input.occurredAt.getD (clock 0) = now
    apply Twin.congr read_run (Store.transaction_ok rfl)
    have logged : ((t.ledger (rowOf a).id).any fun e => e.eventKey == join "callback" input.callbackId) =
        (r.ledger a.id).any fun e => e.eventKey == join "callback" input.callbackId := h.any a.id _
    dsimp only
    by_cases seen : ((r.ledger a.id).any fun e => e.eventKey == join "callback" input.callbackId) = true
    · rw [if_pos seen, if_pos (logged.trans seen)]
      exact Twin.congr rfl (transaction_read rfl) (.pure h rfl)
    · rw [if_neg seen, if_neg (fun later => seen (logged.symm.trans later))]
      by_cases ended : a.state = .completed ∨ a.state = .failed
      · have nothing := outcomeRow_none found holds ended (clock 1) now
        apply refused_twin h (.state _ _) (refuse_run (not_not.mpr ended))
        apply (Store.transaction_ok nothing).trans
        apply (Store.transaction_ok (find_holds there)).trans
        apply (Store.transaction_ok rfl).trans
        dsimp only
        rw [if_neg (fun later => seen (logged.symm.trans later))]
        rfl
      · have fits : PostgresExternalActionsRepository.callbackEligible (rowOf a).state = true :=
          (eligible_iff a.state).mpr ended
        apply Twin.congr (require_run ended) Store.transaction_inner
        apply Twin.transaction
        apply Twin.bind_right (W := fun x y => x = ⟨settledAction input now a, false⟩ ∧
          y = some (rowOf (settledAction input now a)))
        · apply rewritten_twin (b := settledAction input now a) h there fits (outcome_row valid now a)
          intro r t h
          have kept : isUuid (settledAction input now a).tenantId = true := own
          generalize settledAction input now a = b at kept ⊢
          apply logged_twin h _ _ _ (join_ne_empty _ _) (outcome_typed input.status)
            (outcome_type input.status) _ kept
          intro r t h
          by_cases completed : input.status ≠ .completed
          · rw [if_pos completed, if_pos completed]
            apply Twin.bind_left (incident_twin h _ _ _ kept)
            intro _ _ r t _ h
            exact .pure h rfl
          · rw [if_neg completed, if_neg completed]
            exact .pure h rfl
        · intro x y r t same h
          obtain ⟨rfl, rfl⟩ := same
          exact .pure h rfl
  · have nowhere := found.missing missing
    exact refused_twin h (.refl _) (find_bind_missing missing) (transaction_read (find_bind_missing nowhere))

/-- A request on both sides: the same action, and new on both or on neither. -/
def SameRequested (x y : EnqueueExternalActionResult) : Prop :=
  y.action = rowOf x.action ∧ y.isDuplicate = x.isDuplicate

/-- The stored actions that a request shares a name with. -/
def SharesName (q : ExternalActionRequest) (a : ExternalActionRecord) : Prop :=
  a.actionId = q.actionId ∨ a.idempotencyKey = q.idempotencyKey

/-- The indexes agree on a name of the tenant. -/
theorem Mirrors.index (h : Mirrors r t) (memory : Filed digest P r) (postgres : Filed digest P t)
    {name : ExternalActionRecord → String} {index index' : InsertionMap String String}
    (indexed : InsertionMap.Indexes index r.actionsById fun a => key a.tenantId (name a))
    (indexed' : InsertionMap.Indexes index' t.actionsById fun a => key a.tenantId (name a))
    (kept : ∀ a, name (rowOf a) = name a) {tenantId x : String} (tenant : isUuid tenantId = true)
    (spelled : Spelled r tenantId fun a => name a = x) :
    index'.get (key (uuidColumn tenantId) x) = index.get (key tenantId x) := by
  apply Option.ext
  intro i
  rw [indexed, indexed']
  constructor
  · intro found
    obtain ⟨b, stored, keyed⟩ := found
    have own := (postgres.identity i b stored).2.1
    obtain ⟨filed, named⟩ := (key_split own (uuidColumn_uuid tenant)).mp keyed
    rw [h.actions] at stored
    obtain ⟨a, here, rfl⟩ := Option.map_eq_some_iff.mp stored
    rw [kept] at named
    exact ⟨a, here, congrArg₂ key (spelled i a here named filed) named⟩
  · intro found
    obtain ⟨a, stored, keyed⟩ := found
    have own := (memory.identity i a stored).2.1
    obtain ⟨spelling, named⟩ := (key_split own tenant).mp keyed
    refine ⟨rowOf a, ?_, congrArg₂ key (congrArg uuidColumn spelling) ((kept a).trans named)⟩
    rw [h.actions, stored, Option.map_some]

theorem Mirrors.chosen (h : Mirrors r t) (memory : Filed digest P r) (postgres : Filed digest P t)
    {q : ExternalActionRequest} (tenant : isUuid q.tenantId = true)
    (spelled : Spelled r q.tenantId (SharesName q)) :
    chosen t (uuidColumn q.tenantId) q = chosen r q.tenantId q := by
  have byAction := h.index memory postgres memory.byAction postgres.byAction (fun _ => rfl) tenant
    fun i a stored named => spelled i a stored (Or.inl named)
  have byKey := h.index memory postgres memory.byKey postgres.byKey (fun _ => rfl) tenant
    fun i a stored named => spelled i a stored (Or.inr named)
  unfold ActionFiling.chosen
  rw [byAction, byKey]

/-- What an accepted request is stored as passes the check of records. -/
theorem record_valid {q : ExternalActionRequest} (valid : externalActionRequestSchema q = true)
    {digested : String} (hex : jsLength digested = 64) (id : String) (now : Instant) :
    externalActionRecordSchema (requestedAction q id digested now) = true := by
  simp only [externalActionRequestSchema, Bool.and_eq_true] at valid
  obtain ⟨⟨⟨⟨tenant, action⟩, type⟩, approved⟩, key⟩ := valid
  simp only [externalActionRecordSchema, requestedAction, Bool.and_eq_true, beq_iff_eq]
  exact ⟨⟨⟨⟨⟨tenant, action⟩, key⟩, hex⟩, type⟩, approved⟩

/-- A new action is stored under the next id. -/
theorem insert_run {q : ExternalActionRequest} {digested : String} (clock : Instant)
    (unmet : met t (uuidColumn q.tenantId) q = none)
    (record : externalActionRecordSchema
      (requestedAction (columns q) (idText (t.sequence + 1)) digested clock) = true) :
    (PostgresExternalActionsRepository.insertAction digested clock (columns q)).run t =
      (.ok (some (requestedAction (columns q) (idText (t.sequence + 1)) digested clock)),
        withAction t (requestedAction (columns q) (idText (t.sequence + 1)) digested clock)) := by
  have free := taken_iff (r := t) (uuidColumn q.tenantId) q
  rw [unmet] at free
  unfold PostgresExternalActionsRepository.insertAction
  simp only [columns] at record ⊢
  simp only [Store.run_bind, Store.run_read, free, Option.isSome_none, Bool.false_eq_true,
    ↓reduceIte, newId, Store.run_modify, Store.run_require, record]
  rfl

theorem Mirrors.withAction (h : Mirrors r t) (a : ExternalActionRecord) :
    Mirrors (withAction r a) (withAction t (rowOf a)) := by
  refine ⟨?_, congrArg (· + 1) h.sequence, h.events, h.memoryOutbox, h.postgresOutbox⟩
  intro i
  change (t.actionsById.set a.id (rowOf a)).get i = ((r.actionsById.set a.id a).get i).map rowOf
  rw [InsertionMap.get_set, InsertionMap.get_set]
  split
  · rfl
  · exact h.actions i

/-- A new request in memory. -/
theorem fresh_run {q : ExternalActionRequest} (clock : Clock) (valid : externalActionRequestSchema q = true)
    (unmet : chosen r q.tenantId q = none) {a : ExternalActionRecord}
    (made : a = requestedAction q (idText (r.sequence + 1)) (digest q) (clock 0))
    (record : externalActionRecordSchema a = true) :
    (InMemoryExternalActionsRepository.enqueueRequested digest clock q).run r =
      (appendEvent (clock 1) a (join "requested" q.idempotencyKey) "requested"
          (transitionEventPayload a "requested" []) >>= fun _ =>
        enqueue (clock 2) (dispatchCommand q) >>= fun event =>
          (pure ⟨a, event, false⟩ : ActionStore EnqueueExternalActionResult)).run (ActionFiling.withAction r a) := by
  subst made
  unfold InMemoryExternalActionsRepository.enqueueRequested
  rw [require_run valid, read_run, read_run, chosen_eq, unmet]
  simp only [Store.run_bind, newId, Store.run_modify, Store.run_read, Store.run_require, record]
  rfl

/-- A request whose row was inserted. -/
theorem inserted_run {q : ExternalActionRequest} (clock : Clock) (replays : Replays digest q a)
    (here : t.actionsById.values.find?
      (PostgresExternalActionsRepository.sameAction (uuidColumn q.tenantId) q.actionId) = some a) :
    (afterInsert digest clock q (some a)).run t =
      (appendEvent (clock 0) a (join "requested" q.idempotencyKey) "requested"
          (transitionEventPayload a "requested" []) >>= fun _ =>
        enqueue (clock 0) { dispatchCommand q with tenantId := uuidColumn q.tenantId } >>= fun event =>
          (pure ⟨a, event, false⟩ : ActionStore EnqueueExternalActionResult)).run t := by
  unfold afterInsert PostgresExternalActionsRepository.loadAction
    PostgresExternalActionsRepository.loadActionByIdempotency
  rw [read_run, read_run, here, Option.some_or]
  simp only [Option.isSome_some, ↓reduceIte, Option.isNone_some]
  exact require_run replays

/-- A request whose row was in conflict. -/
theorem conflicting_run {q : ExternalActionRequest} (clock : Clock)
    (found : met t (uuidColumn q.tenantId) q = some a) :
    (afterInsert digest clock q none).run t =
      (Store.require (a.actionId = q.actionId ∧ a.idempotencyKey = q.idempotencyKey ∧ a.requestDigest = digest q)
          (.conflict "actionId or idempotencyKey was reused with a different external action request") >>= fun _ =>
        enqueue (clock 0) { dispatchCommand q with tenantId := uuidColumn q.tenantId } >>= fun event =>
          (pure ⟨a, event, true⟩ : ActionStore EnqueueExternalActionResult)).run t := by
  unfold met at found
  unfold afterInsert PostgresExternalActionsRepository.loadAction
    PostgresExternalActionsRepository.loadActionByIdempotency
  rw [read_run, read_run, found]
  simp only [Option.isSome_none, Bool.false_eq_true, ↓reduceIte, Option.isNone_none]

/-- A request that meets a stored action, in memory. -/
theorem existing_run {q : ExternalActionRequest} {i : String} (clock : Clock)
    (valid : externalActionRequestSchema q = true) (known : chosen r q.tenantId q = some i)
    (stored : r.actionsById.get i = some a) :
    (InMemoryExternalActionsRepository.enqueueRequested digest clock q).run r =
      (Store.require (a.actionId = q.actionId ∧ a.idempotencyKey = q.idempotencyKey ∧ a.requestDigest = digest q)
          (.conflict "actionId or idempotencyKey was reused with a different external action request") >>= fun _ =>
        enqueue (clock 0) (dispatchCommand q) >>= fun event =>
          (pure ⟨a, event, true⟩ : ActionStore EnqueueExternalActionResult)).run r := by
  unfold InMemoryExternalActionsRepository.enqueueRequested
  rw [require_run valid, read_run, read_run, chosen_eq, known]
  dsimp only
  rw [read_run, stored]

theorem taken_twin (h : Mirrors r t) (memory : Filed digest P r) (postgres : Filed digest P t)
    (clock : Clock) {q : ExternalActionRequest} (valid : externalActionRequestSchema q = true)
    (spelled : Spelled r q.tenantId (SharesName q)) {i : String} (known : chosen r q.tenantId q = some i) :
    Twin Mirrors SameClass SameRequested
      (InMemoryExternalActionsRepository.enqueueRequested digest clock q)
      (Store.transaction (PostgresExternalActionsRepository.insertAction (digest q) (clock 0) (columns q) >>=
        afterInsert digest clock q)) r t := by
  have tenant := valid_tenant valid
  obtain ⟨a, stored⟩ := memory.stored known
  have found : met t (uuidColumn q.tenantId) q = some (rowOf a) := by
    rw [postgres.met_chosen (uuidColumn_uuid tenant), h.chosen memory postgres tenant spelled, known,
      Option.bind_some, h.actions, stored, Option.map_some]
  have left : (InMemoryExternalActionsRepository.enqueueRequested digest clock q).run r = _ :=
    existing_run clock valid known stored
  have right := Store.transaction_ok (g := afterInsert digest clock q) (insert_taken (digest q) (clock 0) found)
  have later : (afterInsert digest clock q none).run t = _ := conflicting_run clock found
  apply Twin.congr left right
  by_cases replays : a.actionId = q.actionId ∧ a.idempotencyKey = q.idempotencyKey ∧ a.requestDigest = digest q
  · apply Twin.congr (require_run replays) rfl
    apply Twin.transaction
    apply Twin.congr rfl (later.trans (require_run replays))
    apply Twin.bind (enqueue_twin h _ _ (ActionLifecycle.dispatch_valid valid) (columns_dispatch valid))
    intro _ _ r t _ h
    exact .pure h ⟨rfl, rfl⟩
  · exact refused_twin h (.refl _) (refuse_run replays) (transaction_read (later.trans (refuse_run replays)))

theorem fresh_twin (h : Mirrors r t) (memory : Filed digest P r) (postgres : Filed digest P t)
    (hex : ∀ q, jsLength (digest q) = 64) (clock : Clock) {q : ExternalActionRequest}
    (valid : externalActionRequestSchema q = true) (spelled : Spelled r q.tenantId (SharesName q))
    (unknown : chosen r q.tenantId q = none) :
    Twin Mirrors SameClass SameRequested
      (InMemoryExternalActionsRepository.enqueueRequested digest clock q)
      (Store.transaction (PostgresExternalActionsRepository.insertAction (digest q) (clock 0) (columns q) >>=
        afterInsert digest clock q)) r t := by
  have tenant := valid_tenant valid
  have unmet : met t (uuidColumn q.tenantId) q = none := by
    rw [postgres.met_chosen (uuidColumn_uuid tenant), h.chosen memory postgres tenant spelled, unknown]
    rfl
  have record := record_valid valid (hex q) (idText (r.sequence + 1)) (clock 0)
  have inserted := insert_run (clock 0) unmet (record_valid (columns_valid valid) (hex q) _ _)
  have left : (InMemoryExternalActionsRepository.enqueueRequested digest clock q).run r = _ :=
    fresh_run clock valid unknown rfl record
  have row : requestedAction (columns q) (idText (t.sequence + 1)) (digest q) (clock 0) =
      rowOf (requestedAction q (idText (r.sequence + 1)) (digest q) (clock 0)) := by
    rw [h.sequence]
    rfl
  have id : (rowOf (requestedAction q (idText (r.sequence + 1)) (digest q) (clock 0))).id =
      idText (t.sequence + 1) := by
    rw [h.sequence]
    rfl
  rw [row] at inserted
  have own : isUuid (requestedAction q (idText (r.sequence + 1)) (digest q) (clock 0)).tenantId = true := tenant
  have here := inserted_met postgres unmet id rfl rfl
  have replays : Replays digest q (rowOf (requestedAction q (idText (r.sequence + 1)) (digest q) (clock 0))) :=
    ⟨rfl, rfl, rfl⟩
  generalize requestedAction q (idText (r.sequence + 1)) (digest q) (clock 0) = a at left inserted own here replays
  have right : (PostgresExternalActionsRepository.insertAction (digest q) (clock 0) (columns q) >>=
      afterInsert digest clock q).run t = (afterInsert digest clock q (some (rowOf a))).run (withAction t (rowOf a)) := by
    rw [Store.run_bind, inserted]
  apply Twin.transaction
  apply Twin.onward left (right.trans (inserted_run clock replays here))
  apply Twin.bind (append_twin (h.withAction a) _ _ _ _ own (join_ne_empty _ _) (by decide))
  intro _ _ r t _ h
  apply Twin.bind (enqueue_twin h _ _ (ActionLifecycle.dispatch_valid valid) (columns_dispatch valid))
  intro _ _ r t _ h
  exact .pure h ⟨rfl, rfl⟩

theorem request_twin (h : Mirrors r t) (memory : Filed digest P r) (postgres : Filed digest P t)
    (hex : ∀ q, jsLength (digest q) = 64) (clock : Clock) (q : ExternalActionRequest)
    (spelled : Spelled r q.tenantId (SharesName q)) :
    Twin Mirrors SameClass SameRequested
      (InMemoryExternalActionsRepository.enqueueRequested digest clock q)
      (PostgresExternalActionsRepository.enqueueRequested digest clock q) r t := by
  by_cases valid : externalActionRequestSchema q = true
  · have right : (PostgresExternalActionsRepository.enqueueRequested digest clock q).run t =
        (Store.transaction (PostgresExternalActionsRepository.insertAction (digest q) (clock 0) (columns q) >>=
          afterInsert digest clock q)).run t := by
      unfold PostgresExternalActionsRepository.enqueueRequested
      rw [require_run valid]
      rfl
    cases known : chosen r q.tenantId q with
    | some i => exact Twin.congr rfl right (taken_twin h memory postgres clock valid spelled known)
    | none => exact Twin.congr rfl right (fresh_twin h memory postgres hex clock valid spelled known)
  · have left : (InMemoryExternalActionsRepository.enqueueRequested digest clock q).run r = (.error .zod, r) :=
      refuse_run valid
    have right : (PostgresExternalActionsRepository.enqueueRequested digest clock q).run t = (.error .zod, t) :=
      refuse_run valid
    exact refused_twin h (.refl _) left right

end

end

end VantGrowth.Proofs.ActionTwins
