import VantGrowth.Proofs.ActionSteps

namespace VantGrowth.Proofs.ActionCalls
open Db Db.InMemoryExternalActionsRepository Lib Lib.Text ActionSteps

/-- The computation leaves the table of actions alone. -/
def Quiet (m : ActionStore α) : Prop := ∀ r, m.Ends r fun _ t => Aside r t

theorem Quiet.pure (a : α) : Quiet (Pure.pure a : ActionStore α) := fun r => Aside.refl r

theorem Quiet.bind {m : ActionStore α} {g : α → ActionStore β} (hm : Quiet m)
    (hg : ∀ a, Quiet (g a)) : Quiet (m >>= g) := by
  intro r
  refine Store.Ends.bind (hm r) (fun _ _ aside => aside) fun a s first => ?_
  exact (hg a s).weaken fun _ _ second => first.trans second

theorem Quiet.ite {p : Prop} [Decidable p] {m n : ActionStore α} (hm : Quiet m) (hn : Quiet n) :
    Quiet (if p then m else n) :=
  fun r => Store.Ends.ite (fun _ => hm r) fun _ => hn r

/-- The computation leaves the table of actions alone and returns `c` where it
returns. -/
def Tail (c : α) (m : ActionStore α) : Prop :=
  ∀ r, m.Ends r fun x t => Aside r t ∧ ∀ y, x = .ok y → y = c

theorem Tail.pure (c : α) : Tail c (Pure.pure c) := by
  intro r
  refine ⟨.refl r, ?_⟩
  rintro y ⟨⟩
  rfl

theorem Quiet.tail {c : β} {m : ActionStore α} {g : α → ActionStore β} (hm : Quiet m)
    (hg : ∀ a, Tail c (g a)) : Tail c (m >>= g) := by
  intro r
  refine Store.Ends.bind (hm r) (fun e _ aside => ⟨aside, by rintro y ⟨⟩⟩) fun a s first => ?_
  exact (hg a s).weaken fun _ _ second => ⟨first.trans second.1, second.2⟩

theorem newId_quiet : Quiet newId := by
  intro r
  exact ⟨rfl, rfl, Nat.le_succ _, .refl _⟩

theorem appendEvent_quiet (now : Instant) (a : ExternalActionRecord) (eventKey eventType : String)
    (payload : Payload) : Quiet (appendEvent now a eventKey eventType payload) := by
  intro r
  refine Store.Ends.read_bind (Store.Ends.ite (fun _ => Aside.refl r) fun _ => ?_)
  refine Store.Ends.bind (newId_quiet r) (fun _ _ aside => aside) fun id s counted => ?_
  refine Store.Ends.require_bind (fun _ => counted) fun _ => ?_
  exact counted.trans ⟨rfl, rfl, Nat.le_refl _, .refl _⟩

theorem grows_of_enqueue (now : Instant) (command : EnqueueOutboxEvent) (o : InMemoryOutboxRepository) :
    Grows o ((InMemoryOutboxRepository.enqueue now command).run o).2 := by
  intro h
  rcases InMemoryOutboxRepository.enqueue_ends h now command with same | sends
  · rw [same]
    exact Grows.refl o h
  · refine ⟨sends.consistent, sends.keeps, ?_⟩
    intro e he
    rcases sends.events with ⟨same, _⟩ | ⟨new, grown, _, unread, _⟩
    · rw [same] at he
      exact Or.inl he
    · rw [grown] at he
      rcases List.mem_append.mp he with old | last
      · exact Or.inl old
      · rw [List.mem_singleton.mp last]
        exact Or.inr unread

theorem enqueue_quiet (now : Instant) (command : EnqueueOutboxEvent) :
    Quiet (enqueue now command) :=
  fun r => ⟨rfl, rfl, Nat.le_refl _, grows_of_enqueue now command r.outboxRepository⟩

theorem emitLifecycle_quiet (now : Instant) (a : ExternalActionRecord) (eventType key : String)
    (extra : Payload) : Quiet (emitLifecycle now a eventType key extra) :=
  .bind (enqueue_quiet _ _) fun _ => .pure ()

theorem emitFailureIncident_quiet (now : Instant) (a : ExternalActionRecord)
    (phase : FailurePhase) : Quiet (emitFailureIncident now a phase) :=
  .bind (enqueue_quiet _ _) fun _ => .pure ()

section
variable {r t : InMemoryExternalActionsRepository} {identity : DispatchIdentity}
  {a b : ExternalActionRecord} {call : Call}

theorem find_holds_bind {g : ExternalActionRecord → ActionStore α}
    {Q : Except DbError α → InMemoryExternalActionsRepository → Prop}
    (missing : ∀ e, Q (.error e) r) (next : ∀ a, Holds r identity a → (g a).Ends r Q) :
    (find identity >>= g).Ends r Q := by
  have found : (find identity).Ends r fun x t => t = r ∧ ∀ a, x = .ok a → Holds r identity a := by
    refine Store.Ends.read_bind ?_
    cases hl : r.lookup identity.tenantId identity.actionId with
    | none => exact Store.Ends.throw ⟨rfl, by simp⟩
    | some a =>
      refine Store.Ends.require_bind (fun _ => ⟨rfl, by simp⟩) fun keyed => Store.Ends.pure ⟨rfl, ?_⟩
      rintro b ⟨⟩
      exact ⟨hl, keyed⟩
  refine Store.Ends.bind found ?_ ?_
  · rintro e t ⟨rfl, _⟩
    exact missing e
  · rintro a t ⟨rfl, holds⟩
    exact next a (holds a rfl)

/-- A stored action was saved as `b`, and nothing else of the table changed. -/
theorem saved (h : Stored r) (holds : Holds r identity a) (move : Moved a call b)
    (aside : Aside { r with actionsById := r.actionsById.set b.id b } t) :
    Step call r t ∧ Holds t identity b ∧ t.actionsById.get b.id = some b := by
  obtain ⟨indexed, found⟩ := holds.stored h
  have id := move.same.id
  have rows : t.actionsById = r.actionsById.set a.id b := id ▸ aside.rows
  have now_ : t.actionsById.get b.id = some b := by
    rw [rows, id]
    exact InsertionMap.get_set_self ..
  refine ⟨⟨.moved a b found move rows aside.index, aside.sequence, aside.outbox⟩, ⟨?_, ?_⟩, now_⟩
  · unfold lookup
    rw [aside.index]
    dsimp only
    rw [indexed, ← id]
    exact now_
  · exact move.same.idempotencyKey.trans holds.keyed

/-- The action is saved as `b`, and the call ends with `c`. -/
theorem save_tail (call : Call) {g : ExternalActionRecord → ActionStore α} (c : α)
    {Q : Except DbError α → InMemoryExternalActionsRepository → Prop} (h : Stored r)
    (holds : Holds r identity a) (move : Moved a call b) (tail : Tail c (g b))
    (returned : ∀ t, Step call r t → Holds t identity b → t.actionsById.get b.id = some b → Q (.ok c) t)
    (thrown : ∀ e t, Step call r t → Q (.error e) t) : (save b >>= g).Ends r Q := by
  refine (tail { r with actionsById := r.actionsById.set b.id b }).weaken fun x t ended => ?_
  obtain ⟨step, after, stored⟩ := saved h holds move ended.1
  cases x with
  | error e => exact thrown e t step
  | ok y =>
    rw [ended.2 y rfl]
    exact returned t step after stored

/-- The claim was granted and `b` is what it made of the action. -/
structure Granted (now : JsDate) (input : ClaimExternalActionDispatch)
    (r t : InMemoryExternalActionsRepository) (b : ExternalActionRecord) : Prop where
  before : ∃ a, r.actionsById.get a.id = some a ∧ Claimable now a ∧ b = claimedAction input now a
  after : t.actionsById.get b.id = some b

/-- What the answer of a claim tells. -/
def ClaimAnswer (now : JsDate) (input : ClaimExternalActionDispatch)
    (r t : InMemoryExternalActionsRepository) : Except DbError ExternalActionDispatchClaim → Prop
  | .ok (.claimed b) => Granted now input r t b
  | .ok (.settled a) => Holds t input.toDispatchIdentity a ∧ isSettled a.state = true
  | _ => True

theorem claim_step (h : Stored r) (clock : Clock) (input : ClaimExternalActionDispatch) :
    (claimDispatch clock input).Ends r fun x t =>
      Step (.claim (input.now.getD (.valid (clock 0))) input) r t ∧
        ClaimAnswer (input.now.getD (.valid (clock 0))) input r t x := by
  generalize hn : input.now.getD (.valid (clock 0)) = now
  refine Store.Ends.require_bind (fun _ => ⟨.refl r, trivial⟩) fun _ => ?_
  refine Store.Ends.require_bind (fun _ => ⟨.refl r, trivial⟩) fun _ => ?_
  refine find_holds_bind (fun _ => ⟨.refl r, trivial⟩) fun a holds => ?_
  rw [hn]
  refine Store.Ends.ite (fun done => ⟨.refl r, holds, done⟩) fun running => ?_
  refine Store.Ends.ite (fun _ => ⟨.refl r, trivial⟩) fun due => ?_
  refine Store.Ends.ite (fun _ => ⟨.refl r, trivial⟩) fun lapsed => ?_
  have stored := (holds.stored h).2
  have free : Claimable now a := by
    refine ⟨by simpa using running, ?_, fun held => by simpa [held] using lapsed⟩
    cases waits : a.nextRetryAt with
    | none => rfl
    | some at_ => simpa [h.due _ a stored (by simp [waits]), waits] using due
  have move : Moved a (.claim now input) (claimedAction input now a) := .claimed now input free
  refine save_tail _ _ h holds move ((appendEvent_quiet _ _ _ _ _).tail fun _ => .pure _) ?_ ?_
  · exact fun t step _ after => ⟨step, ⟨a, stored, free, rfl⟩, after⟩
  · exact fun e t step => ⟨step, trivial⟩

/-- A settlement that returned left the action settled. -/
def SettlementAnswer (identity : DispatchIdentity) (t : InMemoryExternalActionsRepository) :
    Except DbError ExternalActionRecord → Prop
  | .ok a => Holds t identity a ∧ isSettled a.state = true
  | .error _ => True

theorem requireLease_bind {leaseOwner verb : String} {g : Unit → ActionStore α}
    {Q : Except DbError α → InMemoryExternalActionsRepository → Prop} (refused : ∀ e, Q (.error e) r)
    (passed : a.state = .dispatching → a.dispatchLeaseOwner = some leaseOwner → (g ()).Ends r Q) :
    (requireLease a leaseOwner verb >>= g).Ends r Q :=
  Store.Ends.require_bind (fun _ => refused _) fun held => passed held.1 held.2

theorem accept_step (h : Stored r) (clock : Clock) (input : RecordDispatchAcceptedInput) :
    (recordDispatchAccepted clock input).Ends r fun x t =>
      Step (.settlement input.leaseOwner) r t ∧ SettlementAnswer input.toDispatchIdentity t x := by
  refine Store.Ends.require_bind (fun _ => ⟨.refl r, trivial⟩) fun _ => ?_
  refine find_holds_bind (fun _ => ⟨.refl r, trivial⟩) fun a holds => ?_
  refine Store.Ends.ite (fun done => ⟨.refl r, holds, done⟩) fun _ => ?_
  refine requireLease_bind (fun _ => ⟨.refl r, trivial⟩) fun held lease => ?_
  refine save_tail _ _ h holds (.reported input.leaseOwner _ held lease (.accepted _ _)) ((appendEvent_quiet _ _ _ _ _).tail
    fun _ => (emitLifecycle_quiet _ _ _ _ _).tail fun _ => .pure _) ?_ ?_
  · exact fun t step after _ => ⟨step, after, rfl⟩
  · exact fun e t step => ⟨step, trivial⟩

theorem isoText_quiet (date : JsDate) : Quiet (isoText date) := by
  intro r
  cases date <;> exact Aside.refl r

theorem retry_step (h : Stored r) (clock : Clock) (input : ScheduleDispatchRetryInput) :
    (scheduleDispatchRetry clock input).Ends r fun _ t => Step (.settlement input.leaseOwner) r t := by
  refine Store.Ends.require_bind (fun _ => .refl r) fun _ => ?_
  refine Store.Ends.require_bind (fun _ => .refl r) fun _ => ?_
  refine find_holds_bind (fun _ => .refl r) fun a holds => ?_
  refine Store.Ends.ite (fun _ => Step.refl r) fun _ => ?_
  refine requireLease_bind (fun _ => .refl r) fun held lease => ?_
  refine save_tail _ _ h holds (.reported input.leaseOwner _ held lease (.retried input _)) ((isoText_quiet _).tail
    fun _ => (appendEvent_quiet _ _ _ _ _).tail fun _ => (emitLifecycle_quiet _ _ _ _ _).tail
      fun _ => .pure _) ?_ ?_
  · exact fun t step _ _ => step
  · exact fun e t step => step

theorem fail_step (h : Stored r) (clock : Clock) (input : FailExternalActionDispatchInput) :
    (failDispatch clock input).Ends r fun x t =>
      Step (.settlement input.leaseOwner) r t ∧ SettlementAnswer input.toDispatchIdentity t x := by
  refine Store.Ends.require_bind (fun _ => ⟨.refl r, trivial⟩) fun _ => ?_
  refine find_holds_bind (fun _ => ⟨.refl r, trivial⟩) fun a holds => ?_
  refine Store.Ends.ite (fun done => ⟨.refl r, holds, done⟩) fun _ => ?_
  refine requireLease_bind (fun _ => ⟨.refl r, trivial⟩) fun held lease => ?_
  refine save_tail _ _ h holds (.reported input.leaseOwner _ held lease (.failed input _)) ((appendEvent_quiet _ _ _ _ _).tail
    fun _ => (emitLifecycle_quiet _ _ _ _ _).tail fun _ => (emitFailureIncident_quiet _ _ _).tail
      fun _ => .pure _) ?_ ?_
  · exact fun t step after _ => ⟨step, after, rfl⟩
  · exact fun e t step => ⟨step, trivial⟩

theorem Quiet.tail_ite {c : α} {p : Prop} [Decidable p] {m : ActionStore Unit}
    {g : Unit → ActionStore α} (hm : Quiet m) (hg : Tail c (g ())) :
    Tail c (if p then m >>= g else g ()) :=
  fun r => Store.Ends.ite (fun _ => hm.tail (fun _ => hg) r) fun _ => hg r

theorem outcome_step (h : Stored r) (clock : Clock) (input : RecordExternalActionOutcome) :
    (recordOutcome clock input).Ends r fun _ t => Step .callback r t := by
  refine Store.Ends.require_bind (fun _ => .refl r) fun _ => ?_
  refine find_holds_bind (fun _ => .refl r) fun a holds => ?_
  refine Store.Ends.read_bind (Store.Ends.ite (fun _ => Step.refl r) fun _ => ?_)
  refine Store.Ends.require_bind (fun _ => .refl r) fun open_ => ?_
  refine save_tail _ ⟨settledAction input (input.occurredAt.getD (clock 0)) a, false⟩ h holds
    (.settled input _ (not_or.mp open_)) ((appendEvent_quiet _ _ _ _ _).tail
      fun _ => (emitLifecycle_quiet _ _ _ _ _).tail fun _ => ?_) ?_ ?_
  · exact (emitFailureIncident_quiet _ _ _).tail_ite (.pure _)
  · exact fun t step _ _ => step
  · exact fun e t step => step

theorem save_modify {f : InMemoryExternalActionsRepository → InMemoryExternalActionsRepository}
    {g : Unit → ActionStore α} {Q : Except DbError α → InMemoryExternalActionsRepository → Prop}
    (rest : (g ()).Ends (f { r with actionsById := r.actionsById.set b.id b }) Q) :
    (save b >>= fun _ => Store.modify f >>= g).Ends r Q := rest

theorem request_step (digest : ExternalActionRequest → String) (clock : Clock)
    (request : ExternalActionRequest) :
    (enqueueRequested digest clock request).Ends r fun _ t => Step .other r t := by
  refine Store.Ends.require_bind (fun _ => .refl r) fun valid => ?_
  have tenant : isUuid request.tenantId = true := by
    simp only [externalActionRequestSchema, Bool.and_eq_true] at valid
    exact valid.1.1.1.1
  refine Store.Ends.read_bind (Store.Ends.read_bind ?_)
  split
  · refine Store.Ends.read_bind ?_
    split
    · exact Store.Ends.throw (.refl r)
    · refine Store.Ends.require_bind (fun _ => .refl r) fun _ => ?_
      have quiet : Quiet (enqueue (clock 0) (dispatchCommand request) >>= fun event =>
          pure (⟨‹_›, event, true⟩ : EnqueueExternalActionResult)) :=
        (enqueue_quiet _ _).bind fun _ => .pure _
      exact (quiet r).weaken fun _ _ aside => .of_aside aside
  · rename_i unknown
    have free : r.actionIndex.get (key request.tenantId request.actionId) = none := by
      cases known : r.actionIndex.get (key request.tenantId request.actionId) with
      | none => rfl
      | some i =>
        rw [known] at unknown
        cases unknown
    refine Store.Ends.bind (R := fun x t => (∀ i, x = .ok i → i = idText (r.sequence + 1)) ∧
      t = { r with sequence := r.sequence + 1 }) ⟨by rintro i ⟨⟩; rfl, rfl⟩ ?_ ?_
    · rintro e t ⟨_, rfl⟩
      exact ⟨.kept rfl rfl, Nat.le_succ _, .refl _⟩
    · rintro id t ⟨name, rfl⟩
      obtain rfl := name id rfl
      refine Store.Ends.require_bind (fun _ => ⟨.kept rfl rfl, Nat.le_succ _, .refl _⟩) fun _ => ?_
      have rest : Quiet (appendEvent (clock 1)
            (requestedAction request (idText (r.sequence + 1)) (digest request) (clock 0))
            (join "requested" request.idempotencyKey) "requested"
            (transitionEventPayload (requestedAction request (idText (r.sequence + 1))
              (digest request) (clock 0)) "requested" []) >>= fun _ =>
          enqueue (clock 2) (dispatchCommand request) >>= fun event =>
          pure (⟨requestedAction request (idText (r.sequence + 1)) (digest request) (clock 0), event,
            false⟩ : EnqueueExternalActionResult)) :=
        (appendEvent_quiet _ _ _ _ _).bind fun _ => (enqueue_quiet _ _).bind fun _ => .pure _
      refine save_modify ((rest _).weaken fun _ t aside => ?_)
      exact ⟨.added _ _ rfl tenant rfl rfl aside.sequence aside.rows free aside.index,
        Nat.le_of_succ_le aside.sequence, aside.outbox⟩

/-- What an update that returned a row did. -/
structure Updated (identity : DispatchIdentity) (guard : ExternalActionRecord → Bool)
    (set : ExternalActionRecord → ExternalActionRecord) (r t : InMemoryExternalActionsRepository)
    (b : ExternalActionRecord) : Prop where
  before : ∃ a, Holds r identity a ∧ guard a = true ∧ b = set a
  holds : Holds t identity b
  after : t.actionsById.get b.id = some b

theorem settleRow_step (call : Call) (h : Stored r) {guard : ExternalActionRecord → Bool}
    {set : ExternalActionRecord → ExternalActionRecord} {log : ExternalActionRecord → ActionStore Unit}
    (quiet : ∀ b, Quiet (log b)) (move : ∀ a, Holds r identity a → guard a = true → Moved a call (set a)) :
    (PostgresExternalActionsRepository.settleRow identity guard set log).Ends r fun x t =>
      Step call r t ∧ ∀ b, x = .ok (some b) → Updated identity guard set r t b := by
  have none_ : Step call r r ∧ ∀ b, (.ok none : Except DbError _) = .ok (some b) →
      Updated identity guard set r r b := ⟨.refl r, by rintro b ⟨⟩⟩
  unfold PostgresExternalActionsRepository.settleRow PostgresExternalActionsRepository.updateRow
  cases found : r.lookup identity.tenantId identity.actionId with
  | none => simpa [Store.Ends, Store.run_bind, found] using none_
  | some a =>
    by_cases fits : a.idempotencyKey = identity.idempotencyKey ∧ guard a = true
    · have holds : Holds r identity a := ⟨found, fits.1⟩
      have run : (save (set a) >>= fun updated => log updated >>= fun _ => pure (some updated)).Ends r
          fun x t => Step call r t ∧ ∀ b, x = .ok (some b) → Updated identity guard set r t b := by
        refine save_tail _ _ h holds (move a holds fits.2) ((quiet _).tail fun _ => .pure _) ?_ ?_
        · intro t step holds' after
          refine ⟨step, ?_⟩
          rintro b ⟨⟩
          exact ⟨⟨a, holds, fits.2, rfl⟩, holds', after⟩
        · exact fun e t step => ⟨step, by rintro b ⟨⟩⟩
      simpa [Store.Ends, Store.run_bind, found, fits, save] using run
    · simpa [Store.Ends, Store.run_bind, found, fits] using none_

/-- What the transaction of an update returns tells. -/
def RowAnswer (Q : ExternalActionRecord → Prop) : Except DbError (Option ExternalActionRecord) → Prop
  | .ok (some b) => Q b
  | _ => True

theorem transaction_step {Q : InMemoryExternalActionsRepository → ExternalActionRecord → Prop}
    {m : ActionStore (Option ExternalActionRecord)}
    (body : m.Ends r fun x t => Step call r t ∧ RowAnswer (Q t) x) :
    (Store.transaction m).Ends r fun x t => Step call r t ∧ RowAnswer (Q t) x :=
  Store.Ends.transaction body (fun _ _ done => done) fun _ _ _ => ⟨.refl r, trivial⟩

theorem Updated.answer {guard : ExternalActionRecord → Bool}
    {set : ExternalActionRecord → ExternalActionRecord} {Q : ExternalActionRecord → Prop}
    {x : Except DbError (Option ExternalActionRecord)}
    (answered : ∀ b, x = .ok (some b) → Updated identity guard set r t b)
    (tells : ∀ b, Updated identity guard set r t b → Q b) : RowAnswer Q x := by
  cases x with
  | error e => trivial
  | ok o =>
    cases o with
    | none => trivial
    | some b => exact tells b (answered b rfl)

theorem claimable_free (h : Stored r) (holds : Holds r identity a) {now : JsDate}
    (fits : PostgresExternalActionsRepository.claimable now a = true) : Claimable now a := by
  unfold PostgresExternalActionsRepository.claimable at fits
  have due := h.due _ a (holds.stored h).2
  cases hs : a.state <;> simp only [hs, Bool.not_eq_true', Bool.false_eq_true] at fits due
  · exact ⟨by simp [hs, isSettled], fits, by simp [hs]⟩
  · refine ⟨by simp [hs, isSettled], ?_, fun _ => fits⟩
    cases waits : a.nextRetryAt with
    | none => rfl
    | some at_ => exact absurd (due (by simp [waits])) (by simp)
  · exact ⟨by simp [hs, isSettled], fits, by simp [hs]⟩

theorem claimRow_step (h : Stored r) (clock : Instant) (now : JsDate)
    (input : ClaimExternalActionDispatch) :
    (PostgresExternalActionsRepository.claimRow clock now input).Ends r fun x t =>
      Step (.claim now input) r t ∧ RowAnswer (Granted now input r t) x := by
  refine transaction_step (Store.Ends.require_bind (fun _ => ⟨.refl r, trivial⟩) fun _ => ?_)
  refine (settleRow_step _ h (fun b => appendEvent_quiet _ _ _ _ _) fun a holds fits =>
    .claimed now input (claimable_free h holds fits)).weaken fun x t done => ⟨done.1, ?_⟩
  refine Updated.answer done.2 ?_
  rintro b ⟨⟨a, holds, fits, rfl⟩, _, after⟩
  exact ⟨⟨a, (holds.stored h).2, claimable_free h holds fits, rfl⟩, after⟩

theorem leased_held {leaseOwner : String}
    (fits : PostgresExternalActionsRepository.leased leaseOwner a = true) :
    a.state = .dispatching ∧ a.dispatchLeaseOwner = some leaseOwner := by
  simpa [PostgresExternalActionsRepository.leased] using fits

/-- What the updates that end a dispatch have in common. -/
theorem settlementRow_step (h : Stored r) {leaseOwner : String}
    {set : ExternalActionRecord → ExternalActionRecord} {log : ExternalActionRecord → ActionStore Unit}
    (quiet : ∀ b, Quiet (log b)) (report : ∀ a, Reported a (set a)) :
    (PostgresExternalActionsRepository.settleRow identity
      (PostgresExternalActionsRepository.leased leaseOwner) set log).Ends r fun x t =>
        Step (.settlement leaseOwner) r t ∧
          RowAnswer (fun b => Holds t identity b ∧ ∃ a, b = set a) x := by
  refine (settleRow_step _ h quiet fun a _ fits => .reported leaseOwner _ (leased_held fits).1
    (leased_held fits).2 (report a)).weaken fun x t done => ⟨done.1, ?_⟩
  refine Updated.answer done.2 ?_
  rintro b ⟨⟨a, _, _, made⟩, holds, _⟩
  exact ⟨holds, a, made⟩

/-- An update that returned a row left the action settled. -/
def SettledRow (identity : DispatchIdentity) (t : InMemoryExternalActionsRepository)
    (b : ExternalActionRecord) : Prop :=
  Holds t identity b ∧ isSettled b.state = true

theorem RowAnswer.imp {P Q : ExternalActionRecord → Prop}
    {x : Except DbError (Option ExternalActionRecord)} (h : RowAnswer P x) (sub : ∀ b, P b → Q b) :
    RowAnswer Q x := by
  cases x with
  | error e => trivial
  | ok o =>
    cases o with
    | none => trivial
    | some b => exact sub b h

theorem acceptRow_step (h : Stored r) (clock : Instant) (now : JsDate)
    (input : RecordDispatchAcceptedInput) :
    (PostgresExternalActionsRepository.acceptRow clock now input).Ends r fun x t =>
      Step (.settlement input.leaseOwner) r t ∧ RowAnswer (SettledRow input.toDispatchIdentity t) x := by
  refine transaction_step (Store.Ends.require_bind (fun _ => ⟨.refl r, trivial⟩) fun _ => ?_)
  refine (settlementRow_step h (fun b => (appendEvent_quiet _ _ _ _ _).bind fun _ =>
    emitLifecycle_quiet _ _ _ _ _) fun a => .accepted _ now).weaken fun x t done => ⟨done.1, ?_⟩
  refine done.2.imp ?_
  rintro b ⟨holds, a, rfl⟩
  exact ⟨holds, rfl⟩

theorem retryRow_step (h : Stored r) (clock : Instant) (now : JsDate)
    (input : ScheduleDispatchRetryInput) :
    (PostgresExternalActionsRepository.retryRow clock now input).Ends r fun _ t =>
      Step (.settlement input.leaseOwner) r t := by
  refine (transaction_step (Q := fun _ _ => True) ?_).weaken fun _ _ done => done.1
  refine Store.Ends.bind (R := fun _ t => t = r) ?_ ?_ ?_
  · cases now.plus input.retryAfterMs <;> rfl
  · rintro e t rfl
    exact ⟨.refl _, trivial⟩
  · rintro retryAt t rfl
    exact (settlementRow_step h (fun b => (appendEvent_quiet _ _ _ _ _).bind fun _ =>
      emitLifecycle_quiet _ _ _ _ _) fun a => .retried input now).weaken
        fun x t done => ⟨done.1, done.2.imp fun _ _ => trivial⟩

theorem failRow_step (h : Stored r) (clock : Instant) (now : JsDate)
    (input : FailExternalActionDispatchInput) :
    (PostgresExternalActionsRepository.failRow clock now input).Ends r fun x t =>
      Step (.settlement input.leaseOwner) r t ∧ RowAnswer (SettledRow input.toDispatchIdentity t) x := by
  refine transaction_step (Store.Ends.require_bind (fun _ => ⟨.refl r, trivial⟩) fun _ => ?_)
  refine (settlementRow_step h (fun b => (appendEvent_quiet _ _ _ _ _).bind fun _ =>
    (emitLifecycle_quiet _ _ _ _ _).bind fun _ => emitFailureIncident_quiet _ _ _)
      fun a => .failed input now).weaken fun x t done => ⟨done.1, ?_⟩
  refine done.2.imp ?_
  rintro b ⟨holds, a, rfl⟩
  exact ⟨holds, rfl⟩

theorem outcomeRow_step (h : Stored r) (clock now : Instant) (input : RecordExternalActionOutcome) :
    (PostgresExternalActionsRepository.outcomeRow clock now input).Ends r fun x t =>
      Step .callback r t ∧
        RowAnswer (Holds t ⟨input.tenantId, input.actionId, input.idempotencyKey⟩) x := by
  refine transaction_step ?_
  refine (settleRow_step .callback h (fun b => (appendEvent_quiet _ _ _ _ _).bind fun _ =>
    (emitLifecycle_quiet _ _ _ _ _).bind fun _ => ?_) fun a _ fits => .settled _ now ?_).weaken
      fun x t done => ⟨done.1, Updated.answer done.2 fun _ updated => updated.holds⟩
  · exact (emitFailureIncident_quiet _ _ _).ite (.pure ())
  · cases hs : a.state <;> simp_all [PostgresExternalActionsRepository.callbackEligible]

end

end VantGrowth.Proofs.ActionCalls
