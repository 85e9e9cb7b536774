import VantGrowth.Publisher.OutboxPublisher

namespace VantGrowth.Proofs.PublisherAwaits
open Db Lib N8n Publisher Prog

/-- A time that was read from the clock or handed in with the call. -/
def Reading (s : Start) (h : List (Did Res)) (now : JsDate) : Prop :=
  (∃ at_, now = .valid at_ ∧ (⟨.now, at_⟩ : Did Res) ∈ h) ∨
    ∃ input, s = .claimDispatch input ∧ input.now = some now

/-- An answer tells that the named action is settled. -/
inductive Closed (identity : DispatchIdentity) (h : List (Did Res)) : Prop where
  | claim (input : ClaimExternalActionDispatch) (a : ExternalActionRecord)
      (same : input.toDispatchIdentity = identity) (told : ⟨.claimDispatch input, .settled a⟩ ∈ h)
  | accepted (input : RecordDispatchAcceptedInput) (a : ExternalActionRecord)
      (same : input.toDispatchIdentity = identity) (told : ⟨.recordDispatchAccepted input, a⟩ ∈ h)
  | failed (input : FailExternalActionDispatchInput) (a : ExternalActionRecord)
      (same : input.toDispatchIdentity = identity) (told : ⟨.failDispatch input, a⟩ ∈ h)
  | acceptRow (now : JsDate) (input : RecordDispatchAcceptedInput) (a : ExternalActionRecord)
      (same : input.toDispatchIdentity = identity) (told : ⟨.acceptRow now input, some a⟩ ∈ h)
  | failRow (now : JsDate) (input : FailExternalActionDispatchInput) (a : ExternalActionRecord)
      (same : input.toDispatchIdentity = identity) (told : ⟨.failRow now input, some a⟩ ∈ h)
  | required (a : ExternalActionRecord) (told : ⟨.requireAction identity, a⟩ ∈ h)
      (done : isSettled a.state = true)

/-- The incident an event asks for. -/
def incidentOf (d : Deployment) (event : StoredOutboxEvent) : Option CreateIncidentParams :=
  if event.eventType = incidentOpenedEventType then
    (incidentOpenedPayloadSchema event.payload).map openedIncident
  else
    (workerDeadLetterPayloadSchema event.payload).map fun payload =>
      deadLetterIncident (payload.failed_payload.bind d.payloadDigest) payload

def Operational (event : StoredOutboxEvent) : Prop :=
  event.eventType = incidentOpenedEventType ∨ event.eventType = workerDeadLetterEventType

def subjectOf (event : StoredOutboxEvent) : String :=
  "t." ++ event.tenantId ++ "." ++ event.eventType

/-- The answers say that an event was dealt with. -/
structure Handled (d : Deployment) (p : OutboxPublisher) (h : List (Did Res))
    (event : StoredOutboxEvent) : Prop where
  filed : p.incidentRepository = true → Operational event →
    ∃ params r, incidentOf d event = some params ∧ ⟨.createIncident event.tenantId params, r⟩ ∈ h
  dispatched : event.eventType = externalActionOutboxEventType →
    ∃ request, n8nTypedDispatchRequestSchema d.formats event.payload = some request ∧
      Closed (identityOf request) h
  sent : event.eventType ≠ externalActionOutboxEventType →
    ⟨.publish (subjectOf event) event.payload, ()⟩ ∈ h

/-- The event was in a list that was read. -/
def Listed (h : List (Did Res)) (event : StoredOutboxEvent) : Prop :=
  ∃ tenant limit, ∃ pending : List StoredOutboxEvent,
    ⟨.listUnconsumed tenant limit, pending⟩ ∈ h ∧ event ∈ pending

section
variable (d : Deployment) (s : Start)

/-- What a handler has been answered by the time it performs an operation. -/
def Asks (h : List (Did Res)) : Op → Prop
  | .claimDispatch input => ∀ now, input.now = some now → Reading s h now
  | .claimRow now _ => Reading s h now
  | .markConsumed tenantId id => ∃ p tenantIds limit, ∃ event : StoredOutboxEvent,
      s = .publishCycle p tenantIds limit ∧ event.tenantId = tenantId ∧ event.id = id ∧
      Listed h event ∧ Handled d p h event
  | _ => True

variable {d s}
variable {h k : List (Did Res)} {identity : DispatchIdentity}

theorem last_mem (h : List (Did Res)) (a : Did Res) : a ∈ h ++ [a] :=
  List.mem_append_right h (List.mem_singleton_self a)

theorem parsed_meets {P : List (Did Res) → Op → Prop} (value : Option α) :
    Meets P (fun k a => k = h ∧ value = some a) h (parsed value) := by
  cases value with
  | none => exact meets_throw
  | some a => exact meets_pure ⟨rfl, rfl⟩

theorem awaitIf_meets {P : List (Did Res) → Op → Prop} (wired : Bool) {op : Op} (allowed : P h op) :
    Meets P (fun k _ => wired = true → ∃ r, ⟨op, r⟩ ∈ k) h (awaitIf wired op) := by
  refine meets_ite (fun _ => ?_) fun off => meets_pure fun on => absurd on off
  exact meets_perform_bind allowed fun r => meets_pure fun _ => ⟨r, last_mem h _⟩

theorem positiveMs_meets {P : List (Did Res) → Op → Prop} (value : JsNumber) (message : String) :
    Meets P (fun k _ => k = h) h (positiveMs value message) := by
  unfold positiveMs
  split
  · exact meets_ite (fun _ => meets_pure rfl) fun _ => meets_throw
  · exact meets_throw

theorem tenantScopedSubject_meets {P : List (Did Res) → Op → Prop} (tenantId subject : String) :
    Meets P (fun k x => k = h ∧ x = "t." ++ tenantId ++ "." ++ subject) h
      (tenantScopedSubject tenantId subject) := by
  refine meets_ite (fun _ => meets_throw) fun _ => ?_
  exact meets_ite (fun _ => meets_throw) fun _ => meets_pure ⟨rfl, rfl⟩

/-- A check needs no answer. -/
theorem checked_bind {P : List (Did Res) → Op → Prop} {Q : List (Did Res) → α → Prop} {p : Prop}
    [Decidable p] {e : DbError} {f : Unit → Handler α} (rest : Meets P Q h (f ())) :
    Meets P Q h (checked p e >>= f) := meets_require_bind fun _ => rest

theorem timeOr_meets {P : List (Did Res) → Op → Prop} (now : Option JsDate) (allowed : P h .now)
    (given : ∀ at_, now = some at_ → Reading s h at_) :
    Meets P (fun k at_ => Reading s k at_) h (timeOr now) := by
  cases now with
  | some at_ => exact meets_pure (given at_ rfl)
  | none =>
    refine meets_perform_bind allowed fun at_ => meets_pure (Or.inl ⟨at_, rfl, ?_⟩)
    exact last_mem h _

theorem timeOr_bind {P : List (Did Res) → Op → Prop} {Q : List (Did Res) → α → Prop}
    {now : Option JsDate} {f : JsDate → Handler α} (allowed : P h .now)
    (rest : ∀ k at_, Meets P Q k (f at_)) : Meets P Q h (timeOr now >>= f) := by
  refine meets_bind (Q := fun _ _ => True) ?_ fun k at_ _ => rest k at_
  cases now with
  | some at_ => exact meets_pure trivial
  | none => exact meets_perform_bind allowed fun _ => meets_pure trivial

theorem refusal_settled {a a' : ExternalActionRecord} {now : JsDate}
    (settled : Postgres.refusal a now = some (.settled a')) : isSettled a.state = true := by
  unfold Postgres.refusal at settled
  split at settled
  · assumption
  · split at settled <;> cases settled

theorem postgres_claim_meets (input : ClaimExternalActionDispatch)
    (timely : ∀ now, input.now = some now → Reading s h now) :
    Meets (Asks d s) (fun k claim => ∀ a, claim = .settled a → Closed input.toDispatchIdentity k) h
      (Postgres.claimDispatch input) := by
  refine checked_bind (checked_bind ?_)
  refine meets_bind (timeOr_meets input.now trivial timely) fun h now reading => ?_
  refine meets_perform_bind trivial fun (current : ExternalActionRecord) => ?_
  have reading : Reading s (h ++ [⟨.requireAction input.toDispatchIdentity, current⟩]) now :=
    reading.imp_left fun ⟨at_, same, told⟩ => ⟨at_, same, List.mem_append_left _ told⟩
  cases refused : Postgres.refusal current now with
  | some claim =>
    dsimp only
    refine meets_pure fun a settled => ?_
    subst settled
    exact .required current (last_mem h _) (refusal_settled refused)
  | none =>
    dsimp only
    refine meets_ite (fun _ => meets_pure (by rintro a ⟨⟩)) fun _ => ?_
    refine meets_perform_bind reading fun (row : Option ExternalActionRecord) => ?_
    cases row with
    | some claimed => exact meets_pure (by rintro a ⟨⟩)
    | none =>
      refine meets_perform_bind trivial fun (refreshed : ExternalActionRecord) => ?_
      refine meets_pure fun a settled => ?_
      cases again : Postgres.refusal refreshed now with
      | none => rw [again] at settled; cases settled
      | some claim =>
        rw [again] at settled
        cases settled
        exact .required refreshed (last_mem _ _) (refusal_settled again)

theorem claimDispatch_meets (input : ClaimExternalActionDispatch)
    (timely : ∀ now, input.now = some now → Reading s h now) :
    Meets (Asks d s) (fun k claim => ∀ a, claim = .settled a → Closed input.toDispatchIdentity k) h
      (claimDispatch d input) := by
  unfold claimDispatch Deployment.choose
  cases d.backend with
  | postgres => exact postgres_claim_meets input timely
  | inMemory =>
    refine meets_perform timely fun claim a settled => ?_
    subst settled
    exact .claim input a rfl (last_mem h _)

theorem settledRow_meets {P : List (Did Res) → Op → Prop} (allowed : ∀ k, P k (.requireAction identity))
    (row : Option ExternalActionRecord) (told : ∀ a, row = some a → Closed identity h) :
    Meets P (fun k _ => Closed identity k) h (Postgres.settledRow identity row) := by
  cases row with
  | some a => exact meets_pure (told a rfl)
  | none =>
    refine meets_perform_bind (allowed h) fun (current : ExternalActionRecord) => ?_
    refine meets_ite (fun done => meets_pure ?_) fun _ => meets_throw
    exact .required current (last_mem h _) done

theorem recordDispatchAccepted_meets (input : RecordDispatchAcceptedInput) :
    Meets (Asks d s) (fun k _ => Closed input.toDispatchIdentity k) h
      (recordDispatchAccepted d input) := by
  unfold recordDispatchAccepted Deployment.choose
  cases d.backend with
  | inMemory => exact meets_perform trivial fun a => .accepted input a rfl (last_mem h _)
  | postgres =>
    refine checked_bind (timeOr_bind trivial fun h now => ?_)
    refine meets_perform_bind trivial fun (row : Option ExternalActionRecord) => ?_
    refine settledRow_meets (fun _ => trivial) row ?_
    rintro a rfl
    exact .acceptRow now input a rfl (last_mem h _)

theorem failDispatch_meets (input : FailExternalActionDispatchInput) :
    Meets (Asks d s) (fun k _ => Closed input.toDispatchIdentity k) h (failDispatch d input) := by
  unfold failDispatch Deployment.choose
  cases d.backend with
  | inMemory => exact meets_perform trivial fun a => .failed input a rfl (last_mem h _)
  | postgres =>
    refine checked_bind (timeOr_bind trivial fun h now => ?_)
    refine meets_perform_bind trivial fun (row : Option ExternalActionRecord) => ?_
    refine settledRow_meets (fun _ => trivial) row ?_
    rintro a rfl
    exact .failRow now input a rfl (last_mem h _)

theorem scheduleDispatchRetry_meets (input : ScheduleDispatchRetryInput) :
    Meets (Asks d s) (fun _ _ => True) h (scheduleDispatchRetry d input) := by
  unfold scheduleDispatchRetry Deployment.choose
  cases d.backend with
  | inMemory => exact meets_perform trivial fun a => trivial
  | postgres =>
    refine checked_bind (checked_bind (timeOr_bind trivial fun h now => ?_))
    refine meets_perform_bind trivial fun (row : Option ExternalActionRecord) => ?_
    cases row with
    | some a => exact meets_pure trivial
    | none =>
      refine meets_perform_bind trivial fun (current : ExternalActionRecord) => ?_
      exact meets_ite (fun _ => meets_pure trivial) fun _ => meets_throw

theorem outcomeAt_meets (input : RecordExternalActionOutcome) (now : Instant) :
    Meets (Asks d s) (fun _ _ => True) h (Postgres.outcomeAt input now) := by
  refine meets_perform_bind trivial fun (action : ExternalActionRecord) => ?_
  refine meets_perform_bind trivial fun (seen : Bool) => ?_
  refine meets_ite (fun _ => meets_pure trivial) fun _ => ?_
  refine meets_perform_bind trivial fun (row : Option ExternalActionRecord) => ?_
  cases row with
  | some a => exact meets_pure trivial
  | none =>
    refine meets_perform_bind trivial fun (current : ExternalActionRecord) => ?_
    refine meets_perform_bind trivial fun (seen : Bool) => ?_
    exact meets_ite (fun _ => meets_pure trivial) fun _ => meets_throw

theorem recordOutcome_meets (input : RecordExternalActionOutcome) :
    Meets (Asks d s) (fun _ _ => True) h (recordOutcome d input) := by
  unfold recordOutcome Deployment.choose
  cases d.backend with
  | inMemory => exact meets_perform trivial fun a => trivial
  | postgres =>
    refine checked_bind ?_
    cases input.occurredAt with
    | some now => exact outcomeAt_meets input now
    | none => exact meets_perform_bind trivial fun now => outcomeAt_meets input now

section
variable {p : OutboxPublisher} {event : StoredOutboxEvent}

theorem persistOperationalState_meets :
    Meets (Asks d s) (fun k _ => p.incidentRepository = true → Operational event →
      ∃ params r, incidentOf d event = some params ∧
        ⟨.createIncident event.tenantId params, r⟩ ∈ k) h (persistOperationalState d p event) := by
  unfold persistOperationalState
  split
  · rename_i opened
    refine meets_ite (fun off => meets_pure fun on => ?_) fun _ => ?_
    · rw [off] at on
      cases on
    · refine meets_bind (parsed_meets _) fun k payload read => ?_
      obtain ⟨rfl, read⟩ := read
      refine meets_perform_bind trivial fun r => meets_pure fun _ _ => ?_
      refine ⟨openedIncident payload, r, ?_, last_mem _ _⟩
      rw [incidentOf, if_pos opened, read]
      rfl
  · rename_i other
    refine meets_ite (fun neither => meets_pure fun _ kind => ?_) fun _ => ?_
    · exact (kind.elim other neither).elim
    · refine meets_bind (parsed_meets _) fun k payload read => ?_
      obtain ⟨rfl, read⟩ := read
      have asked : incidentOf d event = some (deadLetterIncident
          (payload.failed_payload.bind d.payloadDigest) payload) := by
        rw [incidentOf, if_neg other, read]
        rfl
      refine meets_bind (awaitIf_meets p.incidentRepository trivial) fun k _ filed => ?_
      refine meets_weaken (meets_grows (awaitIf_meets p.componentHealthRepository trivial)) ?_
      rintro k' _ ⟨_, grown⟩ wired _
      obtain ⟨r, told⟩ := filed wired
      exact ⟨_, r, asked, grown.subset told⟩

theorem settleDispatch_meets (request : N8nDispatchRequest) (result : N8nDispatchResult) :
    Meets (Asks d s) (fun k disposition => disposition = .consumed → Closed (identityOf request) k)
      h (settleDispatch d p request result) := by
  cases result with
  | success status body =>
    refine meets_bind (recordDispatchAccepted_meets _) fun k _ closed => ?_
    exact meets_pure fun _ => closed
  | failure status error retryable =>
    refine meets_ite (fun _ => ?_) fun _ => ?_
    · refine meets_bind (positiveMs_meets _ _) fun k _ _ => ?_
      refine meets_bind (scheduleDispatchRetry_meets _) fun k _ _ => ?_
      exact meets_pure (by rintro ⟨⟩)
    · refine meets_bind (failDispatch_meets _) fun k _ closed => ?_
      exact meets_pure fun _ => closed

theorem dispatchN8nAction_meets (payload : Payload) :
    Meets (Asks d s) (fun k disposition => disposition = .consumed →
      ∃ request, n8nTypedDispatchRequestSchema d.formats payload = some request ∧
        Closed (identityOf request) k) h (dispatchN8nAction d p payload) := by
  refine meets_require_bind fun _ => meets_require_bind fun _ => meets_require_bind fun _ => ?_
  refine meets_bind (parsed_meets _) fun k request read => ?_
  obtain ⟨rfl, read⟩ := read
  refine meets_bind (positiveMs_meets _ _) fun k _ same => ?_
  subst same
  refine meets_bind (claimDispatch_meets (claimOf p request) (by rintro now ⟨⟩)) fun k claim told => ?_
  cases claim with
  | deferred a => exact meets_pure (by rintro ⟨⟩)
  | in_flight a => exact meets_pure (by rintro ⟨⟩)
  | settled a => exact meets_pure fun _ => ⟨request, read, told a rfl⟩
  | claimed a =>
    refine meets_perform_bind trivial fun (result : N8nDispatchResult) => ?_
    refine meets_weaken (settleDispatch_meets request result) fun k disposition closed consumed => ?_
    exact ⟨request, read, closed consumed⟩

theorem handleEvent_meets :
    Meets (Asks d s) (fun k disposition => disposition = .consumed → Handled d p k event) h
      (handleEvent d p event) := by
  refine meets_bind persistOperationalState_meets fun k _ filed => ?_
  have later : ∀ {k'}, k <+: k' → p.incidentRepository = true → Operational event →
      ∃ params r, incidentOf d event = some params ∧
        ⟨.createIncident event.tenantId params, r⟩ ∈ k' := by
    intro k' grown wired kind
    obtain ⟨params, r, asked, told⟩ := filed wired kind
    exact ⟨params, r, asked, grown.subset told⟩
  refine meets_ite (fun dispatch => ?_) fun other => ?_
  · refine meets_weaken (meets_grows (dispatchN8nAction_meets event.payload)) ?_
    rintro k' disposition ⟨closed, grown⟩ consumed
    exact ⟨later grown, fun _ => closed consumed, fun apart => absurd dispatch apart⟩
  · refine meets_bind (tenantScopedSubject_meets _ _) fun k' subject same => ?_
    obtain ⟨rfl, rfl⟩ := same
    refine meets_perform_bind trivial fun _ => meets_pure fun _ => ?_
    exact ⟨later (List.prefix_append _ _), fun dispatch => absurd dispatch other,
      fun _ => last_mem _ _⟩

theorem Listed.mono (listed : Listed h event) (grown : h <+: k) : Listed k event := by
  obtain ⟨tenant, limit, pending, told, member⟩ := listed
  exact ⟨tenant, limit, pending, grown.subset told, member⟩

end

section
variable {p : OutboxPublisher} {tenantIds : List String} {limit : Nat}

theorem drainEvent_meets {event : StoredOutboxEvent} (listed : Listed h event) :
    Meets (Asks d (.publishCycle p tenantIds limit)) (fun k _ => h <+: k) h
      (drainEvent d p event) := by
  refine meets_weaken (meets_grows (Q := fun _ _ => True) ?_) fun _ _ grown => grown.2
  refine meets_bind (meets_grows handleEvent_meets) fun k disposition done => ?_
  cases disposition with
  | deferred => exact meets_pure trivial
  | consumed =>
    refine meets_perform_bind ?_ fun _ => meets_pure trivial
    exact ⟨p, tenantIds, limit, event, rfl, rfl, rfl, listed.mono done.2, done.1 rfl⟩

theorem drainEvents_meets (pending : List StoredOutboxEvent) (count : Nat)
    (listed : ∀ event ∈ pending, Listed h event) :
    Meets (Asks d (.publishCycle p tenantIds limit)) (fun _ _ => True) h
      (drainEvents d p pending count) := by
  induction pending generalizing h count with
  | nil => exact meets_pure trivial
  | cons event pending ih =>
    refine meets_bind (drainEvent_meets (listed event List.mem_cons_self)) fun k consumed grown => ?_
    exact ih _ fun other member => (listed other (List.mem_cons_of_mem event member)).mono grown

theorem publishPendingForTenant_meets (tenantId : String) (batch : Nat) :
    Meets (Asks d (.publishCycle p tenantIds limit)) (fun _ _ => True) h
      (publishPendingForTenant d p tenantId batch) := by
  refine meets_perform_bind trivial fun (pending : List StoredOutboxEvent) => ?_
  exact drainEvents_meets pending 0 fun event member => ⟨tenantId, batch, pending, last_mem h _, member⟩

theorem publishTenants_meets (batch : Nat) (tenants : List String) (result : PublishCycleResult) :
    Meets (Asks d (.publishCycle p tenantIds limit)) (fun _ _ => True) h
      (publishTenants d p batch tenants result) := by
  induction tenants generalizing h result with
  | nil => exact meets_pure trivial
  | cons tenantId tenants ih =>
    refine meets_bind (publishPendingForTenant_meets tenantId batch) fun k n _ => ?_
    exact ih _

end

theorem handler_meets (s : Start) :
    Meets (Asks d s) (fun _ _ => True) [] (s.handler d) := by
  cases s with
  | publishCycle p tenantIds limit =>
    exact meets_bind (publishTenants_meets limit tenantIds _) fun _ _ _ => meets_pure trivial
  | claimDispatch input =>
    refine meets_bind (claimDispatch_meets input ?_) fun _ _ _ => meets_pure trivial
    exact fun now given => Or.inr ⟨input, rfl, given⟩
  | recordDispatchAccepted input =>
    exact meets_bind (recordDispatchAccepted_meets input) fun _ _ _ => meets_pure trivial
  | scheduleDispatchRetry input =>
    exact meets_bind (scheduleDispatchRetry_meets input) fun _ _ _ => meets_pure trivial
  | failDispatch input =>
    exact meets_bind (failDispatch_meets input) fun _ _ _ => meets_pure trivial
  | recordOutcome input =>
    exact meets_bind (recordOutcome_meets input) fun _ _ _ => meets_pure trivial

end

end VantGrowth.Proofs.PublisherAwaits
