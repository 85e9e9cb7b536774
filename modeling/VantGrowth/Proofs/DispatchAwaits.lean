import VantGrowth.Lib.Tallies
import VantGrowth.Proofs.PublisherAwaits

namespace VantGrowth.Proofs.DispatchAwaits
open Db Lib N8n Publisher Prog PublisherAwaits

deriving instance DecidableEq for DispatchIdentity

/-- An operation that asks n8n to dispatch the named action. -/
def asksFor (identity : DispatchIdentity) : Op → Bool
  | .dispatch sent => identityOf sent = identity
  | _ => false

/-- An answer that grants a claim of the named action. -/
def grants (identity : DispatchIdentity) : Did Res → Bool
  | ⟨.claimDispatch input, .claimed _⟩ => input.toDispatchIdentity = identity
  | ⟨.claimRow _ input, some _⟩ => input.toDispatchIdentity = identity
  | _ => false

def asked (h : List (Did Res)) (identity : DispatchIdentity) : Nat :=
  h.countP fun d => asksFor identity d.op

def granted (h : List (Did Res)) (identity : DispatchIdentity) : Nat := h.countP (grants identity)

/-- What a publisher sends for an event, its own callback before that of the request. -/
def outgoing (p : OutboxPublisher) (request : N8nDispatchRequest) : N8nDispatchRequest :=
  { request with
    callback := (p.n8nDispatchResultCallbackUrl.filter (· != "")).or request.callback }

/-- What a publisher has been answered by the time it calls n8n: the event the
request was read from, and one claim more than it has used. -/
structure Entitled (d : Deployment) (s : Start) (h : List (Did Res)) (sent : N8nDispatchRequest) :
    Prop where
  read : ∃ p tenantIds limit, ∃ event : StoredOutboxEvent, ∃ request,
    s = .publishCycle p tenantIds limit ∧ Listed h event ∧
    event.eventType = externalActionOutboxEventType ∧
    n8nTypedDispatchRequestSchema d.formats event.payload = some request ∧ sent = outgoing p request
  claimed : asked h (identityOf sent) < granted h (identityOf sent)

/-- No handler requests an action or writes to the outbox itself. -/
def Sends (d : Deployment) (s : Start) (h : List (Did Res)) : Op → Prop
  | .dispatch sent => Entitled d s h sent
  | .enqueueRequested _ | .enqueue _ => False
  | _ => True

/-- No more dispatches than claims. -/
def Balanced (h : List (Did Res)) : Prop := ∀ identity, asked h identity ≤ granted h identity

def quiet : Op → Bool
  | .dispatch _ | .enqueueRequested _ | .enqueue _ => false
  | _ => true

/-- Nor does it publish or mark an event. -/
def still : Op → Bool
  | .publish _ _ | .markConsumed _ _ => false
  | op => quiet op

theorem quiet_of_still (op : Op) (silent : still op = true) : quiet op = true := by
  cases op with
  | publish subject payload => rfl
  | markConsumed tenantId id => rfl
  | _ => exact silent

section
variable {d : Deployment} {s : Start} {h k l : List (Did Res)} {identity : DispatchIdentity}

theorem sends_of_quiet (h : List (Did Res)) (op : Op) (silent : quiet op = true) : Sends d s h op := by
  cases op with
  | dispatch sent => cases silent
  | enqueueRequested request => cases silent
  | enqueue command => cases silent
  | _ => trivial

theorem asked_append : asked (h ++ l) identity = asked h identity + asked l identity :=
  List.countP_append

theorem granted_append : granted (h ++ l) identity = granted h identity + granted l identity :=
  List.countP_append

theorem asked_quiet (silent : ∀ d ∈ l, quiet d.op = true) : asked l identity = 0 := by
  refine List.countP_eq_zero.mpr fun d member => ?_
  have quiet_ := silent d member
  obtain ⟨op, r⟩ := d
  cases op with
  | dispatch sent => cases quiet_
  | _ => simp [asksFor]

theorem Balanced.quiet (balanced : Balanced h) (silent : ∀ d ∈ l, quiet d.op = true) :
    Balanced (h ++ l) := by
  intro identity
  have before := balanced identity
  rw [asked_append, granted_append, asked_quiet silent]
  omega

/-- A program that calls neither n8n nor the outbox keeps the balance. -/
theorem quiet_meets {m : Handler α} (only : Only (quiet · = true) m) (balanced : Balanced h) :
    Meets (Sends d s) (fun k _ => Balanced k ∧ h <+: k) h m := by
  refine meets_weaken (only.meets sends_of_quiet h) ?_
  rintro k a ⟨l, rfl, silent⟩
  exact ⟨balanced.quiet silent, List.prefix_append h l⟩

theorem parsed_only (value : Option α) : Only (still · = true) (parsed value) := by
  cases value with
  | none => exact only_throw _
  | some a => exact only_pure a

theorem awaitIf_only (wired : Bool) {op : Op} (silent : still op = true) :
    Only (still · = true) (awaitIf wired op) :=
  only_ite (only_bind (only_perform silent) fun _ => only_pure ()) (only_pure ())

theorem positiveMs_only (value : JsNumber) (message : String) :
    Only (still · = true) (positiveMs value message) := by
  unfold positiveMs
  split
  · exact only_ite (only_pure _) (only_throw _)
  · exact only_throw _

theorem tenantScopedSubject_only (tenantId subject : String) :
    Only (still · = true) (tenantScopedSubject tenantId subject) :=
  only_ite (only_throw _) (only_ite (only_throw _) (only_pure _))

theorem timeOr_only (now : Option JsDate) : Only (still · = true) (timeOr now) := by
  cases now with
  | some at_ => exact only_pure at_
  | none => exact only_bind (only_perform rfl) fun _ => only_pure _

theorem persistOperationalState_only (p : OutboxPublisher) (event : StoredOutboxEvent) :
    Only (still · = true) (persistOperationalState d p event) := by
  apply only_ite
  · apply only_ite (only_pure ())
    exact only_bind (parsed_only _) fun _ => only_bind (only_perform rfl) fun _ => only_pure ()
  · apply only_ite (only_pure ())
    apply only_bind (parsed_only _)
    intro payload
    exact only_bind (awaitIf_only _ rfl) fun _ => awaitIf_only _ rfl

theorem settledRow_only (row : Option ExternalActionRecord) :
    Only (still · = true) (Postgres.settledRow identity row) := by
  cases row with
  | some updated => exact only_pure updated
  | none => exact only_bind (only_perform rfl) fun _ => only_ite (only_pure _) (only_throw _)

theorem recordDispatchAccepted_only (input : RecordDispatchAcceptedInput) :
    Only (still · = true) (recordDispatchAccepted d input) := by
  unfold recordDispatchAccepted Deployment.choose
  cases d.backend with
  | inMemory => exact only_perform rfl
  | postgres =>
    apply only_bind (only_require _ _)
    intro _
    apply only_bind (timeOr_only _)
    intro now
    exact only_bind (only_perform rfl) fun row => settledRow_only row

theorem failDispatch_only (input : FailExternalActionDispatchInput) :
    Only (still · = true) (failDispatch d input) := by
  unfold failDispatch Deployment.choose
  cases d.backend with
  | inMemory => exact only_perform rfl
  | postgres =>
    apply only_bind (only_require _ _)
    intro _
    apply only_bind (timeOr_only _)
    intro now
    exact only_bind (only_perform rfl) fun row => settledRow_only row

theorem scheduleDispatchRetry_only (input : ScheduleDispatchRetryInput) :
    Only (still · = true) (scheduleDispatchRetry d input) := by
  unfold scheduleDispatchRetry Deployment.choose
  cases d.backend with
  | inMemory => exact only_perform rfl
  | postgres =>
    apply only_bind (only_require _ _)
    intro _
    apply only_bind (only_require _ _)
    intro _
    apply only_bind (timeOr_only _)
    intro now
    exact only_bind (only_perform rfl) fun row => settledRow_only row

theorem outcomeAt_only (input : RecordExternalActionOutcome) (now : Instant) :
    Only (still · = true) (Postgres.outcomeAt input now) := by
  refine only_bind (only_perform rfl) fun (action : ExternalActionRecord) => ?_
  refine only_bind (only_perform rfl) fun (seen : Bool) => ?_
  apply only_ite (only_pure _)
  refine only_bind (only_perform rfl) fun (row : Option ExternalActionRecord) => ?_
  cases row with
  | some transitioned => exact only_pure _
  | none =>
    refine only_bind (only_perform rfl) fun (current : ExternalActionRecord) => ?_
    refine only_bind (only_perform rfl) fun (seen : Bool) => ?_
    exact only_ite (only_pure _) (only_throw _)

theorem recordOutcome_only (input : RecordExternalActionOutcome) :
    Only (still · = true) (recordOutcome d input) := by
  unfold recordOutcome Deployment.choose
  cases d.backend with
  | inMemory => exact only_perform rfl
  | postgres =>
    apply only_bind (only_require _ _)
    intro _
    cases input.occurredAt with
    | some now => exact outcomeAt_only input now
    | none => exact only_bind (only_perform rfl) fun now => outcomeAt_only input now

theorem postgres_claim_only (input : ClaimExternalActionDispatch) :
    Only (still · = true) (Postgres.claimDispatch input) := by
  apply only_bind (only_require _ _)
  intro _
  apply only_bind (only_require _ _)
  intro _
  apply only_bind (timeOr_only _)
  intro now
  refine only_bind (only_perform rfl) fun (current : ExternalActionRecord) => ?_
  cases Postgres.refusal current now with
  | some refused => exact only_pure _
  | none =>
    apply only_ite (only_pure _)
    refine only_bind (only_perform rfl) fun (row : Option ExternalActionRecord) => ?_
    cases row with
    | some claimed => exact only_pure _
    | none => exact only_bind (only_perform rfl) fun _ => only_pure _

theorem claimDispatch_only (input : ClaimExternalActionDispatch) :
    Only (still · = true) (claimDispatch d input) := by
  unfold claimDispatch Deployment.choose
  cases d.backend with
  | inMemory => exact only_perform rfl
  | postgres => exact postgres_claim_only input

theorem settleDispatch_only (p : OutboxPublisher) (request : N8nDispatchRequest) (result : N8nDispatchResult) :
    Only (still · = true) (settleDispatch d p request result) := by
  cases result with
  | success status body => exact only_bind (recordDispatchAccepted_only _) fun _ => only_pure _
  | failure status error retryable =>
    apply only_ite
    · apply only_bind (positiveMs_only _ _)
      intro retryAfterMs
      exact only_bind (scheduleDispatchRetry_only _) fun _ => only_pure _
    · exact only_bind (failDispatch_only _) fun _ => only_pure _

theorem last_granted {op : Op} {r : Res op} (fresh : grants identity ⟨op, r⟩ = true) :
    granted h identity < granted (h ++ [⟨op, r⟩]) identity := by
  rw [granted_append]
  simp [granted, fresh]

theorem granted_mono (grown : h <+: k) : granted h identity ≤ granted k identity :=
  grown.sublist.countP_le

theorem refusal_grants_nothing {a b : ExternalActionRecord} {now : JsDate} :
    Postgres.refusal a now ≠ some (.claimed b) := by
  unfold Postgres.refusal
  split
  · nofun
  · split <;> nofun

theorem postgres_claim_grants (input : ClaimExternalActionDispatch) :
    Meets (fun _ _ => True) (fun k claim => ∀ a, claim = .claimed a →
      granted h input.toDispatchIdentity < granted k input.toDispatchIdentity) h
      (Postgres.claimDispatch input) := by
  refine checked_bind (checked_bind ?_)
  refine meets_bind (meets_grows (meets_trivial h (timeOr input.now))) fun k now grown => ?_
  refine meets_perform_bind trivial fun (current : ExternalActionRecord) => ?_
  cases refused : Postgres.refusal current now with
  | some claim =>
    refine meets_pure fun a claimed => ?_
    rw [claimed] at refused
    exact absurd refused refusal_grants_nothing
  | none =>
    refine meets_ite (fun _ => meets_pure (by rintro a ⟨⟩)) fun _ => ?_
    refine meets_perform_bind trivial fun (row : Option ExternalActionRecord) => ?_
    cases row with
    | some claimed =>
      refine meets_pure fun a _ => ?_
      have earlier : granted h input.toDispatchIdentity ≤
          granted (k ++ [⟨.requireAction input.toDispatchIdentity, current⟩]) input.toDispatchIdentity :=
        granted_mono (grown.2.trans (List.prefix_append k _))
      exact Nat.lt_of_le_of_lt earlier (last_granted (by simp [grants]))
    | none =>
      refine meets_perform_bind trivial fun (refreshed : ExternalActionRecord) => ?_
      refine meets_pure fun a claimed => ?_
      cases again : Postgres.refusal refreshed now with
      | none => rw [again] at claimed; cases claimed
      | some claim =>
        rw [again] at claimed
        rw [show claim = .claimed a from claimed] at again
        exact absurd again refusal_grants_nothing

theorem claimDispatch_grants (input : ClaimExternalActionDispatch) :
    Meets (fun _ _ => True) (fun k claim => ∀ a, claim = .claimed a →
      granted h input.toDispatchIdentity < granted k input.toDispatchIdentity) h
      (claimDispatch d input) := by
  unfold claimDispatch Deployment.choose
  cases d.backend with
  | postgres => exact postgres_claim_grants input
  | inMemory =>
    refine ⟨trivial, fun claim a claimed => ?_⟩
    subst claimed
    exact last_granted (by simp [grants])

/-- What a claim adds to a balanced history lets its action be dispatched. -/
theorem claimDispatch_meets (input : ClaimExternalActionDispatch) (balanced : Balanced h) :
    Meets (Sends d s) (fun k claim => Balanced k ∧ h <+: k ∧ ∀ a, claim = .claimed a →
      asked k input.toDispatchIdentity < granted k input.toDispatchIdentity) h
      (claimDispatch d input) := by
  have both := meets_and (((claimDispatch_only (d := d) input).mono quiet_of_still).meets (sends_of_quiet (d := d) (s := s)) h)
    (claimDispatch_grants input)
  refine meets_ops (meets_weaken both ?_) fun _ _ allowed => allowed.1
  rintro k claim ⟨⟨l, rfl, silent⟩, more⟩
  refine ⟨balanced.quiet silent, List.prefix_append h l, fun a claimed => ?_⟩
  have before := balanced input.toDispatchIdentity
  have now_ := more a claimed
  rw [asked_append, asked_quiet silent]
  omega

/-- A dispatch uses up a claim. -/
theorem Balanced.dispatch (balanced : Balanced h) {sent : N8nDispatchRequest}
    (claimed : asked h (identityOf sent) < granted h (identityOf sent)) (result : N8nDispatchResult) :
    Balanced (h ++ [⟨.dispatch sent, result⟩]) := by
  intro identity
  have before := balanced identity
  rw [asked_append, granted_append]
  by_cases same : identityOf sent = identity
  · subst same
    simp only [asked, asksFor, List.countP_singleton, decide_true, ↓reduceIte] at claimed ⊢
    omega
  · simp only [asked, asksFor, List.countP_singleton, same, decide_false, Bool.false_eq_true, ↓reduceIte]
      at before ⊢
    omega

section
variable {p : OutboxPublisher} {tenantIds : List String} {limit : Nat} {event : StoredOutboxEvent}

theorem dispatchN8nAction_meets (balanced : Balanced h) (listed : Listed h event)
    (type : event.eventType = externalActionOutboxEventType) :
    Meets (Sends d (.publishCycle p tenantIds limit)) (fun k _ => Balanced k ∧ h <+: k) h
      (dispatchN8nAction d p event.payload) := by
  refine meets_require_bind fun _ => meets_require_bind fun _ => meets_require_bind fun _ => ?_
  refine meets_bind (parsed_meets _) fun k request read => ?_
  obtain ⟨rfl, read⟩ := read
  refine meets_bind (positiveMs_meets _ _) fun k _ same => ?_
  subst same
  refine meets_bind (claimDispatch_meets (claimOf p request) balanced) fun k claim after => ?_
  obtain ⟨balanced, grown, allowed⟩ := after
  cases claim with
  | deferred a => exact meets_pure ⟨balanced, grown⟩
  | in_flight a => exact meets_pure ⟨balanced, grown⟩
  | settled a => exact meets_pure ⟨balanced, grown⟩
  | claimed a =>
    have entitled : Sends d (.publishCycle p tenantIds limit) k (.dispatch (outgoing p request)) :=
      ⟨⟨p, tenantIds, limit, event, request, rfl, listed.mono grown, type, read, rfl⟩, allowed a rfl⟩
    refine meets_perform_bind entitled fun (result : N8nDispatchResult) => ?_
    have due : asked k (identityOf (outgoing p request)) < granted k (identityOf (outgoing p request)) :=
      allowed a rfl
    have settled := balanced.dispatch due result
    refine meets_weaken (quiet_meets ((settleDispatch_only p request result).mono quiet_of_still) settled) ?_
    rintro k' disposition ⟨balanced', grown'⟩
    exact ⟨balanced', (grown.trans (List.prefix_append _ _)).trans grown'⟩

theorem handleEvent_meets (balanced : Balanced h) (listed : Listed h event) :
    Meets (Sends d (.publishCycle p tenantIds limit)) (fun k _ => Balanced k ∧ h <+: k) h
      (handleEvent d p event) := by
  refine meets_bind (quiet_meets ((persistOperationalState_only p event).mono quiet_of_still) balanced) fun k _ after => ?_
  obtain ⟨balanced, grown⟩ := after
  refine meets_ite (fun type => ?_) fun _ => ?_
  · refine meets_weaken (dispatchN8nAction_meets balanced (listed.mono grown) type) ?_
    rintro k' disposition ⟨balanced', grown'⟩
    exact ⟨balanced', grown.trans grown'⟩
  · have rest : Only (quiet · = true) (do
        let subject ← tenantScopedSubject event.tenantId event.eventType
        await (.publish subject event.payload)
        return Disposition.consumed : Handler Disposition) :=
      only_bind ((tenantScopedSubject_only _ _).mono quiet_of_still) fun _ => only_bind (only_perform rfl) fun _ => only_pure _
    refine meets_weaken (quiet_meets rest balanced) ?_
    rintro k' disposition ⟨balanced', grown'⟩
    exact ⟨balanced', grown.trans grown'⟩

theorem drainEvent_meets (balanced : Balanced h) (listed : Listed h event) :
    Meets (Sends d (.publishCycle p tenantIds limit)) (fun k _ => Balanced k ∧ h <+: k) h
      (drainEvent d p event) := by
  refine meets_bind (handleEvent_meets balanced listed) fun k disposition after => ?_
  obtain ⟨balanced, grown⟩ := after
  cases disposition with
  | deferred => exact meets_pure ⟨balanced, grown⟩
  | consumed =>
    have rest : Only (quiet · = true) (do
        let _ ← await (.markConsumed event.tenantId event.id)
        return true : Handler Bool) := only_bind (only_perform rfl) fun _ => only_pure _
    refine meets_weaken (quiet_meets rest balanced) ?_
    rintro k' consumed ⟨balanced', grown'⟩
    exact ⟨balanced', grown.trans grown'⟩

theorem drainEvents_meets (pending : List StoredOutboxEvent) (count : Nat) (balanced : Balanced h)
    (listed : ∀ event ∈ pending, Listed h event) :
    Meets (Sends d (.publishCycle p tenantIds limit)) (fun k _ => Balanced k) h
      (drainEvents d p pending count) := by
  induction pending generalizing h count with
  | nil => exact meets_pure balanced
  | cons event pending ih =>
    refine meets_bind (drainEvent_meets balanced (listed event List.mem_cons_self)) fun k consumed after => ?_
    exact ih _ after.1 fun other member => (listed other (List.mem_cons_of_mem event member)).mono after.2

theorem publishPendingForTenant_meets (tenantId : String) (batch : Nat) (balanced : Balanced h) :
    Meets (Sends d (.publishCycle p tenantIds limit)) (fun k _ => Balanced k) h
      (publishPendingForTenant d p tenantId batch) := by
  refine meets_perform_bind trivial fun (pending : List StoredOutboxEvent) => ?_
  refine drainEvents_meets pending 0 (balanced.quiet ?_) ?_
  · rintro d member
    cases List.mem_singleton.mp member
    rfl
  · exact fun event member => ⟨tenantId, batch, pending, last_mem h _, member⟩

theorem publishTenants_meets (batch : Nat) (tenants : List String) (result : PublishCycleResult)
    (balanced : Balanced h) :
    Meets (Sends d (.publishCycle p tenantIds limit)) (fun k _ => Balanced k) h
      (publishTenants d p batch tenants result) := by
  induction tenants generalizing h result with
  | nil => exact meets_pure balanced
  | cons tenantId tenants ih =>
    refine meets_bind (publishPendingForTenant_meets tenantId batch balanced) fun k n balanced => ?_
    exact ih _ balanced

end

/-- Whatever a handler is started for, it calls n8n only under a claim of its own. -/
theorem handler_sends (s : Start) : Meets (Sends d s) (fun _ _ => True) [] (s.handler d) := by
  have start : Balanced [] := fun _ => Nat.le_refl _
  have direct {α : Type} {m : Handler α} (only : Only (still · = true) m) :
      Meets (Sends d s) (fun _ _ => True) [] (m >>= fun _ => pure ()) :=
    meets_weaken (quiet_meets (only_bind (only.mono quiet_of_still) fun _ => only_pure ()) start)
      fun _ _ _ => trivial
  cases s with
  | publishCycle p tenantIds limit =>
    exact meets_bind (publishTenants_meets limit tenantIds _ start) fun _ _ _ => meets_pure trivial
  | claimDispatch input => exact direct (claimDispatch_only input)
  | recordDispatchAccepted input => exact direct (recordDispatchAccepted_only input)
  | scheduleDispatchRetry input => exact direct (scheduleDispatchRetry_only input)
  | failDispatch input => exact direct (failDispatch_only input)
  | recordOutcome input => exact direct (recordOutcome_only input)

end

end VantGrowth.Proofs.DispatchAwaits
