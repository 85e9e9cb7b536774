import VantGrowth.Lib.Along
import VantGrowth.Proofs.ActionFiling
import VantGrowth.Proofs.PublisherLogs

namespace VantGrowth.Proofs.DispatchEvents
open Db Db.InMemoryExternalActionsRepository Lib Lib.Text ActionFiling
open Store (Along)

/-- The dispatch requests an outbox holds, as they were written. -/
def dispatchesOf (o : InMemoryOutboxRepository) : List EnqueueOutboxEvent :=
  (o.events.map StoredOutboxEvent.toEnqueueOutboxEvent).filter
    (·.eventType == externalActionOutboxEventType)

/-- No dispatch request came or went. -/
def Mute (r t : InMemoryExternalActionsRepository) : Prop :=
  r.outboxRepository.Consistent → t.outboxRepository.Consistent ∧
    dispatchesOf t.outboxRepository = dispatchesOf r.outboxRepository

instance : IsPreorder InMemoryExternalActionsRepository Mute where
  refl r start := ⟨start, rfl⟩
  trans r s t first second start := by
    obtain ⟨middle, same⟩ := first start
    exact ⟨(second middle).1, (second middle).2.trans same⟩

theorem dispatches_append (o : InMemoryOutboxRepository) {p : InMemoryOutboxRepository}
    {e : StoredOutboxEvent} (grown : p.events = o.events ++ [e]) :
    dispatchesOf p = dispatchesOf o ++
      if e.eventType = externalActionOutboxEventType then [e.toEnqueueOutboxEvent] else [] := by
  unfold dispatchesOf
  rw [grown, List.map_append, List.filter_append]
  congr 1
  by_cases dispatch : e.eventType = externalActionOutboxEventType <;> simp [dispatch]

theorem mem_dispatches {o : InMemoryOutboxRepository} {command : EnqueueOutboxEvent} :
    command ∈ dispatchesOf o ↔ ∃ e ∈ o.events, e.eventType = externalActionOutboxEventType ∧
      e.toEnqueueOutboxEvent = command := by
  constructor
  · intro member
    obtain ⟨written, dispatch⟩ := List.mem_filter.mp member
    obtain ⟨e, there, rfl⟩ := List.mem_map.mp written
    exact ⟨e, there, by simpa using dispatch, rfl⟩
  · rintro ⟨e, there, dispatch, rfl⟩
    exact List.mem_filter.mpr ⟨List.mem_map_of_mem there, by simpa using dispatch⟩

/-- A command of another type leaves the dispatch requests as they are. -/
theorem enqueue_mute (clock : Instant) {command : EnqueueOutboxEvent}
    (other : command.eventType ≠ externalActionOutboxEventType) : Along Mute (enqueue clock command) := by
  apply Along.zoom (R := fun o p => o.Consistent → p.Consistent ∧ dispatchesOf p = dispatchesOf o)
  · intro o
    unfold Store.Ends
    intro start
    rcases InMemoryOutboxRepository.enqueue_ends start clock command with same | sends
    · rw [same]
      exact ⟨start, rfl⟩
    · refine ⟨sends.consistent, ?_⟩
      rcases sends.events with ⟨same, _⟩ | ⟨e, grown, written, _⟩
      · rw [same]
      · have apart : e.eventType ≠ externalActionOutboxEventType := by
          rw [show e.eventType = command.eventType from congrArg EnqueueOutboxEvent.eventType written]
          exact other
        rw [dispatches_append o grown, if_neg apart, List.append_nil]
  · intro r o kept
    exact kept

theorem newId_mute : Along Mute newId :=
  Along.bind (Along.modify fun _ start => ⟨start, rfl⟩) fun _ => Along.read _

theorem save_mute (a : ExternalActionRecord) : Along Mute (save a) :=
  Along.bind (Along.modify fun _ start => ⟨start, rfl⟩) fun _ => Along.pure _

theorem appendEvent_mute (clock : Instant) (a : ExternalActionRecord) (eventKey eventType : String)
    (payload : Payload) : Along Mute (appendEvent clock a eventKey eventType payload) := by
  apply Along.bind (Along.read _)
  intro events
  apply Along.ite (Along.pure ())
  apply Along.bind newId_mute
  intro id
  apply Along.bind (Along.require _ _)
  intro _
  exact Along.modify fun _ start => ⟨start, rfl⟩

theorem emitLifecycle_mute (clock : Instant) (a : ExternalActionRecord) {eventType : String}
    (key : String) (extra : Payload) (other : eventType ≠ externalActionOutboxEventType) :
    Along Mute (emitLifecycle clock a eventType key extra) :=
  (enqueue_mute clock (show (lifecycleCommand a eventType key extra).eventType ≠ _ from other)).bind
    fun _ => .pure ()

theorem emitFailureIncident_mute (clock : Instant) (a : ExternalActionRecord) (phase : FailurePhase) :
    Along Mute (emitFailureIncident clock a phase) := by
  have other : (incidentCommand a phase).eventType ≠ externalActionOutboxEventType :=
    show "incident.opened.v1" ≠ externalActionOutboxEventType by decide
  exact (enqueue_mute clock other).bind fun _ => .pure ()

theorem find_along {R : InMemoryExternalActionsRepository → InMemoryExternalActionsRepository → Prop}
    [IsPreorder _ R] (identity : DispatchIdentity) : Along R (find identity) := by
  apply Along.bind (Along.read _)
  intro found
  cases found with
  | none => exact Along.throw _
  | some a => exact (Along.require _ _).bind fun _ => .pure a

theorem isoText_mute (date : JsDate) : Along Mute (isoText date) := by
  cases date with
  | valid t => exact Along.pure _
  | invalid => exact Along.throw _

theorem outcome_other (status : ExternalActionOutcomeStatus) :
    "external_action." ++ status.state.text ++ ".v1" ≠ externalActionOutboxEventType := by
  cases status <;> decide

theorem claim_mute (clock : Clock) (input : ClaimExternalActionDispatch) :
    Along Mute (claimDispatch clock input) := by
  apply (Along.require _ _).bind
  intro _
  apply (Along.require _ _).bind
  intro _
  apply (find_along _).bind
  intro a
  apply Along.ite (.pure _)
  apply Along.ite (.pure _)
  apply Along.ite (.pure _)
  apply (save_mute _).bind
  intro claimed
  exact (appendEvent_mute _ _ _ _ _).bind fun _ => .pure _

theorem accept_mute (clock : Clock) (input : RecordDispatchAcceptedInput) :
    Along Mute (recordDispatchAccepted clock input) := by
  apply (Along.require _ _).bind
  intro _
  apply (find_along _).bind
  intro a
  apply Along.ite (.pure _)
  apply (Along.require _ _).bind
  intro _
  apply (save_mute _).bind
  intro accepted
  apply (appendEvent_mute _ _ _ _ _).bind
  intro _
  exact (emitLifecycle_mute _ _ _ _ (by decide)).bind fun _ => .pure _

theorem retry_mute (clock : Clock) (input : ScheduleDispatchRetryInput) :
    Along Mute (scheduleDispatchRetry clock input) := by
  apply (Along.require _ _).bind
  intro _
  apply (Along.require _ _).bind
  intro _
  apply (find_along _).bind
  intro a
  apply Along.ite (.pure _)
  apply (Along.require _ _).bind
  intro _
  apply (save_mute _).bind
  intro retry
  apply (isoText_mute _).bind
  intro retryAt
  apply (appendEvent_mute _ _ _ _ _).bind
  intro _
  exact (emitLifecycle_mute _ _ _ _ (by decide)).bind fun _ => .pure _

theorem fail_mute (clock : Clock) (input : FailExternalActionDispatchInput) :
    Along Mute (failDispatch clock input) := by
  apply (Along.require _ _).bind
  intro _
  apply (find_along _).bind
  intro a
  apply Along.ite (.pure _)
  apply (Along.require _ _).bind
  intro _
  apply (save_mute _).bind
  intro failed
  apply (appendEvent_mute _ _ _ _ _).bind
  intro _
  apply (emitLifecycle_mute _ _ _ _ (by decide)).bind
  intro _
  exact (emitFailureIncident_mute _ _ _).bind fun _ => .pure _

theorem outcome_mute (clock : Clock) (input : RecordExternalActionOutcome) :
    Along Mute (recordOutcome clock input) := by
  apply (Along.require _ _).bind
  intro _
  apply (find_along _).bind
  intro a
  apply (Along.read _).bind
  intro events
  apply Along.ite (.pure _)
  apply (Along.require _ _).bind
  intro _
  apply (save_mute _).bind
  intro transitioned
  apply (appendEvent_mute _ _ _ _ _).bind
  intro _
  apply (emitLifecycle_mute _ _ _ _ (outcome_other input.status)).bind
  intro _
  apply Along.ite
  · exact (emitFailureIncident_mute _ _ _).bind fun _ => .pure _
  · exact Along.pure _

section
open PostgresExternalActionsRepository

theorem updateRow_mute (identity : DispatchIdentity) (guard : ExternalActionRecord → Bool)
    (set : ExternalActionRecord → ExternalActionRecord) : Along Mute (updateRow identity guard set) := by
  apply (Along.read _).bind
  intro found
  cases found with
  | none => exact Along.pure none
  | some row => exact Along.ite ((save_mute _).bind fun _ => .pure _) (.pure none)

theorem settleRow_mute (identity : DispatchIdentity) (guard : ExternalActionRecord → Bool)
    (set : ExternalActionRecord → ExternalActionRecord) {log : ExternalActionRecord → ActionStore Unit}
    (logs : ∀ b, Along Mute (log b)) : Along Mute (settleRow identity guard set log) := by
  apply (updateRow_mute identity guard set).bind
  intro row
  cases row with
  | none => exact Along.pure none
  | some updated => exact (logs updated).bind fun _ => .pure _

theorem claimRow_mute (clock : Instant) (now : JsDate) (input : ClaimExternalActionDispatch) :
    Along Mute (claimRow clock now input) := by
  apply Along.transaction
  apply (Along.require _ _).bind
  intro _
  exact settleRow_mute _ _ _ fun _ => appendEvent_mute _ _ _ _ _

theorem acceptRow_mute (clock : Instant) (now : JsDate) (input : RecordDispatchAcceptedInput) :
    Along Mute (acceptRow clock now input) := by
  apply Along.transaction
  apply (Along.require _ _).bind
  intro _
  exact settleRow_mute _ _ _ fun _ =>
    (appendEvent_mute _ _ _ _ _).bind fun _ => emitLifecycle_mute _ _ _ _ (by decide)

theorem retryRow_mute (clock : Instant) (now : JsDate) (input : ScheduleDispatchRetryInput) :
    Along Mute (retryRow clock now input) := by
  apply Along.transaction
  apply (isoText_mute _).bind
  intro retryAt
  exact settleRow_mute _ _ _ fun _ =>
    (appendEvent_mute _ _ _ _ _).bind fun _ => emitLifecycle_mute _ _ _ _ (by decide)

theorem failRow_mute (clock : Instant) (now : JsDate) (input : FailExternalActionDispatchInput) :
    Along Mute (failRow clock now input) := by
  apply Along.transaction
  apply (Along.require _ _).bind
  intro _
  exact settleRow_mute _ _ _ fun _ => (appendEvent_mute _ _ _ _ _).bind fun _ =>
    (emitLifecycle_mute _ _ _ _ (by decide)).bind fun _ => emitFailureIncident_mute _ _ _

theorem outcomeRow_mute (clock now : Instant) (input : RecordExternalActionOutcome) :
    Along Mute (outcomeRow clock now input) := by
  apply Along.transaction
  apply settleRow_mute
  intro b
  apply (appendEvent_mute _ _ _ _ _).bind
  intro _
  apply (emitLifecycle_mute _ _ _ _ (outcome_other input.status)).bind
  intro _
  exact Along.ite (emitFailureIncident_mute _ _ _) (.pure ())

end

/-- Every dispatch request in the outbox is that of a stored action, and every
stored action has its dispatch request there. -/
structure Backed (digest : ExternalActionRequest → String) (r : InMemoryExternalActionsRepository) :
    Prop where
  filed : Filed digest (fun q => externalActionRequestSchema q = true) r
  carried : ∀ c ∈ dispatchesOf r.outboxRepository,
    ∃ i a, r.actionsById.get i = some a ∧ c = dispatchCommand (requestOf a)
  sent : ∀ i a, r.actionsById.get i = some a →
    dispatchCommand (requestOf a) ∈ dispatchesOf r.outboxRepository

section
variable {digest : ExternalActionRequest → String} {r s t : InMemoryExternalActionsRepository}

theorem empty_backed : Backed digest empty :=
  ⟨empty_filed, fun _ none_ => (List.not_mem_nil none_).elim, fun _ _ stored => by cases stored⟩

theorem refiled_forth (kept : Refiled r t) (stored : r.actionsById.get i = some a) :
    ∃ b, t.actionsById.get i = some b ∧ requestOf b = requestOf a := by
  have same := kept.rows i
  rw [stored] at same
  obtain ⟨b, found, alike⟩ := Option.map_eq_some_iff.mp same
  exact ⟨b, found, (names_eq alike).2.1⟩

theorem Backed.kept (h : Backed digest r) (kept : Refiled r t) (mute : Mute r t) : Backed digest t := by
  have same := (mute h.filed.outbox).2
  refine ⟨h.filed.refiled kept, ?_, ?_⟩
  · intro c member
    obtain ⟨i, a, stored, rfl⟩ := h.carried c (same ▸ member)
    obtain ⟨b, found, request⟩ := refiled_forth kept stored
    exact ⟨i, b, found, by rw [request]⟩
  · intro i b found
    obtain ⟨a, stored, alike⟩ := kept.row found
    rw [same, ← (names_eq alike).2.1]
    exact h.sent i a stored

theorem dispatch_type (q : ExternalActionRequest) :
    (dispatchCommand q).eventType = externalActionOutboxEventType := rfl

/-- A command for a dispatch request that is there already brings nothing. -/
theorem sends_again {o p : InMemoryOutboxRepository} {c command : EnqueueOutboxEvent}
    (sends : InMemoryOutboxRepository.Sends command o p) (there : c ∈ dispatchesOf o)
    (type : command.eventType = externalActionOutboxEventType) (tenant : c.tenantId = command.tenantId)
    (key : c.idempotencyKey = command.idempotencyKey) : p = o := by
  obtain ⟨e, member, dispatch, rfl⟩ := mem_dispatches.mp there
  rcases sends.events with ⟨same, _⟩ | ⟨_, _, _, _, fresh⟩
  · exact same
  · exact absurd ⟨tenant, dispatch.trans type.symm, key⟩ (fresh e member)

/-- The dispatch request of a stored action is sent again. -/
theorem Backed.again (h : Backed digest r) (stored : r.actionsById.get i = some a) (clock : Instant) {q : ExternalActionRequest}
    (valid : externalActionRequestSchema q = true) (tenant : a.tenantId = q.tenantId)
    (key : a.idempotencyKey = q.idempotencyKey) :
    (enqueue clock (dispatchCommand q)).Ends r fun _ t => Backed digest t := by
  have sent := (ActionEffects.enqueue_ends clock h.filed.outbox (ActionLifecycle.dispatch_valid valid)).2
  have kept := enqueue_calm clock (dispatchCommand q) r h.filed.named
  have same := sends_again sent.sends (h.sent i a stored) rfl tenant key
  refine h.kept kept fun _ => ⟨sent.outbox, ?_⟩
  rw [same]

/-- A new action is stored, and its dispatch request is still to be sent. -/
structure Pending (digest : ExternalActionRequest → String) (r : InMemoryExternalActionsRepository)
    (i : String) (a : ExternalActionRecord) : Prop where
  filed : Filed digest (fun q => externalActionRequestSchema q = true) r
  stored : r.actionsById.get i = some a
  carried : ∀ c ∈ dispatchesOf r.outboxRepository,
    ∃ j b, r.actionsById.get j = some b ∧ j ≠ i ∧ c = dispatchCommand (requestOf b)
  sent : ∀ j b, r.actionsById.get j = some b → j ≠ i →
    dispatchCommand (requestOf b) ∈ dispatchesOf r.outboxRepository

theorem Pending.kept (h : Pending digest r i a)
    (kept : Refiled r t) (mute : Mute r t) :
    ∃ b, requestOf b = requestOf a ∧ Pending digest t i b := by
  have same := (mute h.filed.outbox).2
  obtain ⟨b, found, request⟩ := refiled_forth kept h.stored
  refine ⟨b, request, h.filed.refiled kept, found, ?_, ?_⟩
  · intro c member
    obtain ⟨j, a', stored, other, rfl⟩ := h.carried c (same ▸ member)
    obtain ⟨b', found', request'⟩ := refiled_forth kept stored
    exact ⟨j, b', found', other, by rw [request']⟩
  · intro j b' found' other
    obtain ⟨a', stored, alike⟩ := kept.row found'
    rw [same, ← (names_eq alike).2.1]
    exact h.sent j a' stored other

/-- The dispatch request of the new action is the only one of its key. -/
theorem Pending.sends (h : Pending digest r i a)
    (clock : Instant) :
    (enqueue clock (dispatchCommand (requestOf a))).Ends r fun _ t => Backed digest t := by
  have valid := h.filed.asked i a h.stored
  have sent := (ActionEffects.enqueue_ends clock h.filed.outbox (ActionLifecycle.dispatch_valid valid)).2
  have kept := enqueue_calm clock (dispatchCommand (requestOf a)) r h.filed.named
  have grown : dispatchesOf ((enqueue clock (dispatchCommand (requestOf a))).run r).2.outboxRepository =
      dispatchesOf r.outboxRepository ++ [dispatchCommand (requestOf a)] := by
    rcases sent.sends.events with ⟨_, e, member, tenant, type, key⟩ | ⟨e, grown, written, _⟩
    · exfalso
      have there : e.toEnqueueOutboxEvent ∈ dispatchesOf r.outboxRepository :=
        mem_dispatches.mpr ⟨e, member, type, rfl⟩
      obtain ⟨j, b, stored, other, same⟩ := h.carried _ there
      have tenants : b.tenantId = a.tenantId := by
        rw [← show e.tenantId = b.tenantId from congrArg EnqueueOutboxEvent.tenantId same]
        exact tenant
      have keys : b.idempotencyKey = a.idempotencyKey := by
        rw [← show e.idempotencyKey = b.idempotencyKey from
          congrArg EnqueueOutboxEvent.idempotencyKey same]
        exact key
      have here := (h.filed.byKey (InMemoryExternalActionsRepository.key a.tenantId a.idempotencyKey) i).mpr
        ⟨a, h.stored, rfl⟩
      have there := (h.filed.byKey (InMemoryExternalActionsRepository.key a.tenantId a.idempotencyKey) j).mpr
        ⟨b, stored, by dsimp only; rw [tenants, keys]⟩
      rw [here] at there
      exact other (Option.some.inj there).symm
    · have type : e.eventType = externalActionOutboxEventType :=
        (congrArg EnqueueOutboxEvent.eventType written).trans (dispatch_type _)
      rw [dispatches_append _ grown, if_pos type, written]
  refine ⟨h.filed.refiled kept, ?_, ?_⟩
  · intro c member
    rw [grown] at member
    rcases List.mem_append.mp member with old | new
    · obtain ⟨j, b, stored, _, rfl⟩ := h.carried c old
      obtain ⟨b', found, request⟩ := refiled_forth kept stored
      exact ⟨j, b', found, by rw [request]⟩
    · obtain ⟨a', found, request⟩ := refiled_forth kept h.stored
      exact ⟨i, a', found, by rw [request, List.mem_singleton.mp new]⟩
  · intro j b found
    obtain ⟨b', stored, alike⟩ := kept.row found
    rw [grown, ← (names_eq alike).2.1]
    by_cases same : j = i
    · subst same
      rw [h.stored] at stored
      cases stored
      exact List.mem_append_right _ (List.mem_singleton_self _)
    · exact List.mem_append_left _ (h.sent j b' stored same)

theorem Backed.insert (h : Backed digest r) {a : ExternalActionRecord} (id : a.id = idText (r.sequence + 1))
    (tenant : isUuid a.tenantId = true) (action : r.actionIndex.get (key a.tenantId a.actionId) = none)
    (idempotency : r.idempotencyIndex.get (key a.tenantId a.idempotencyKey) = none)
    (digested : a.requestDigest = digest (requestOf a))
    (valid : externalActionRequestSchema (requestOf a) = true) : Pending digest (withAction r a) a.id a := by
  have fresh : r.actionsById.get a.id = none := id ▸ h.filed.fresh
  refine ⟨h.filed.insert id tenant action idempotency digested valid, InsertionMap.get_set_self _ _ _, ?_, ?_⟩
  · intro c member
    obtain ⟨j, b, stored, rfl⟩ := h.carried c member
    have other : j ≠ a.id := by
      rintro rfl
      rw [fresh] at stored
      cases stored
    exact ⟨j, b, (InsertionMap.get_set_other _ other _).trans stored, other, rfl⟩
  · intro j b found other
    exact h.sent j b ((InsertionMap.get_set_other _ other _).symm.trans found)

theorem Pending.logged (h : Pending digest r i a) (clock server : Instant) (idempotencyKey : String)
    (payload : Payload) (c : StoredOutboxEvent → β) :
    (appendEvent clock a (join "requested" idempotencyKey) "requested" payload >>= fun _ =>
      enqueue server (dispatchCommand (requestOf a)) >>= fun event =>
        (pure (c event) : ActionStore β)).Ends r fun _ t => Backed digest t := by
  have tenant := (h.filed.identity i a h.stored).2.1
  have logged := ActionEffects.append_ends (r := r) clock payload tenant
    (join_ne_empty "requested" idempotencyKey) (by decide : "requested" ≠ "")
  apply Store.Ends.bind (R := fun x t => x = .ok () ∧ Refiled r t ∧ Mute r t)
    ⟨logged.1, appendEvent_calm _ _ _ _ _ r h.filed.named, appendEvent_mute _ _ _ _ _ r⟩
  · rintro e t ⟨returned, _⟩
    cases returned
  · rintro _ t ⟨_, kept, mute⟩
    obtain ⟨b, request, pending⟩ := h.kept kept mute
    have sends := pending.sends server
    rw [request] at sends
    exact sends.bind (fun _ _ backed => backed) fun _ _ backed => Store.Ends.pure backed

/-- The action a request meets is one of its tenant. -/
theorem chosen_tenant {P : ExternalActionRequest → Prop} (h : Filed digest P r) {q : ExternalActionRequest} (tenant : isUuid q.tenantId = true)
    (found : chosen r q.tenantId q = some i) (stored : r.actionsById.get i = some a) :
    a.tenantId = q.tenantId := by
  have own : isUuid a.tenantId = true := (h.identity i a stored).2.1
  unfold chosen at found
  cases known : r.actionIndex.get (key q.tenantId q.actionId) with
  | some j =>
    rw [known] at found
    cases found
    obtain ⟨b, there, same⟩ := (h.byAction _ i).mp known
    rw [stored] at there
    cases there
    exact ((key_split own tenant).mp same).1
  | none =>
    rw [known] at found
    obtain ⟨b, there, same⟩ := (h.byKey _ i).mp found
    rw [stored] at there
    cases there
    exact ((key_split own tenant).mp same).1

/-- A request stores an action together with its dispatch request, or neither. -/
theorem request_backed (h : Backed digest r) (clock : Clock) (q : ExternalActionRequest) :
    (enqueueRequested digest clock q).Ends r fun _ t => Backed digest t := by
  apply Store.Ends.require_bind (fun _ => h)
  intro valid
  have tenant := valid_tenant valid
  apply Store.Ends.read_bind
  apply Store.Ends.read_bind
  dsimp only
  rw [chosen_eq]
  cases found : chosen r q.tenantId q with
  | some i =>
    obtain ⟨a, stored⟩ := h.filed.stored found
    apply Store.Ends.read_bind
    rw [stored]
    dsimp only
    apply Store.Ends.require_bind (fun _ => h)
    intro replays
    have named := chosen_tenant h.filed tenant found stored
    apply Store.Ends.bind (h.again stored (clock 0) valid named replays.2.1)
    · exact fun _ _ kept => kept
    · exact fun _ _ kept => Store.Ends.pure kept
  | none =>
    obtain ⟨action, idempotency⟩ := free_of_unmet found
    apply ActionEffects.newId_bind
    apply Store.Ends.require_bind
    · intro _
      exact h.kept (counted r) fun start => ⟨start, rfl⟩
    · intro _
      apply ActionEffects.save_bind
      apply Store.Ends.modify_bind
      have pending := h.insert (a := requestedAction q (idText (r.sequence + 1)) (digest q) (clock 0))
        rfl tenant action idempotency rfl valid
      exact pending.logged _ _ _ _ _

end

section
open Publisher PublisherLogs

section
variable {I : InMemoryExternalActionsRepository → Prop}

/-- The stored actions keep meeting `I`. -/
def Keeps (I : InMemoryExternalActionsRepository → Prop) (r t : InMemoryExternalActionsRepository) :
    Prop := I r → I t

instance : IsPreorder InMemoryExternalActionsRepository (Keeps I) where
  refl _ h := h
  trans _ _ _ first second h := second (first h)

/-- The same of a world. -/
def WorldKeeps (I : InMemoryExternalActionsRepository → Prop) (w v : World) : Prop :=
  I w.actions → I v.actions

instance : IsPreorder World (WorldKeeps I) where
  refl _ h := h
  trans _ _ _ first second h := second (first h)

/-- What calls that neither request nor rename an action, and send no dispatch
request, leave alone. -/
structure Steady (I : InMemoryExternalActionsRepository → Prop) : Prop where
  named : ∀ r, I r → Named r
  outbox : ∀ r, I r → r.outboxRepository.Consistent
  rests : ∀ r t, I r → Refiled r t → Mute r t → I t

theorem rests_keeps (steady : Steady I) {m : ActionStore α} (calm : AlwaysCalm m)
    (mute : Along Mute m) : Along (Keeps I) m := fun r h =>
  steady.rests r _ h (calm r (steady.named r h)) (mute r)

theorem onActions_keeps {call : Instant → ActionStore α} (each : ∀ now, Along (Keeps I) (call now)) :
    Along (WorldKeeps I) (onActions call) := by
  apply Along.bind (Along.read _)
  intro clock
  exact Along.zoom ((each clock).mapError) fun _ _ kept => kept

theorem onIncidents_keeps (call : Instant → Store DbError IncidentStore α) :
    Along (WorldKeeps I) (onIncidents call) := by
  apply Along.bind (Along.read _)
  intro clock
  exact Along.zoom (R := fun _ _ => True) (fun _ => trivial) fun _ _ _ h => h

theorem onHealth_keeps (call : Instant → Store DbError ComponentHealthStore α) :
    Along (WorldKeeps I) (onHealth call) := by
  apply Along.bind (Along.read _)
  intro clock
  exact Along.zoom (R := fun _ _ => True) (fun _ => trivial) fun _ _ _ h => h

theorem withIncident_keeps {uuid : Supply} {phase : FailurePhase}
    {settled : Store PublisherError World (Option ExternalActionRecord)}
    (kept : Along (WorldKeeps I) settled) : Along (WorldKeeps I) (withIncident uuid phase settled) := by
  apply Along.bind kept
  intro row
  cases row with
  | none => exact Along.pure none
  | some action => exact (onIncidents_keeps _).bind fun _ => .pure _

theorem answerDispatch_keeps : Along (WorldKeeps I) answerDispatch := by
  apply Along.bind (Along.read _)
  intro answer
  apply Along.bind (Along.modify fun _ h => h)
  intro _
  cases answer with
  | none => exact Along.throw _
  | some result => exact Along.pure result

/-- Marking an event leaves what was written of it. -/
theorem consumes_same {o p : InMemoryOutboxRepository} {tenantId : String} {id : Nat}
    (start : o.Consistent) (consumes : InMemoryOutboxRepository.Consumes tenantId id o p) :
    dispatchesOf p = dispatchesOf o := by
  obtain ⟨e, at_, stored, _, set⟩ := consumes.event
  have named : ∀ k v, o.eventsById.get k = some v → v.id = k := fun k v found => (start.stored k v found).1
  unfold dispatchesOf InMemoryOutboxRepository.events
  rw [set, InsertionMap.values_set_stored named stored, List.map_map]
  congr 1
  apply List.map_congr_left
  intro u member
  dsimp only [Function.comp_apply]
  split
  · rename_i same
    have there := start.event member
    rw [same, stored] at there
    cases there
    rfl
  · rfl

theorem markConsumed_keeps (steady : Steady I) (tenantId : String) (id : Nat) (now : Instant) :
    Along (Keeps I) (Store.zoom (·.outboxRepository) (fun r o => { r with outboxRepository := o })
      (InMemoryOutboxRepository.markConsumed tenantId id now) : ActionStore StoredOutboxEvent) := by
  intro r h
  have start := steady.outbox r h
  have effect := InMemoryOutboxRepository.markConsumed_ends start tenantId id now
  have mute : ((InMemoryOutboxRepository.markConsumed tenantId id now).run r.outboxRepository).2.Consistent ∧
      dispatchesOf ((InMemoryOutboxRepository.markConsumed tenantId id now).run r.outboxRepository).2 =
        dispatchesOf r.outboxRepository := by
    rcases effect with same | consumes
    · rw [same]
      exact ⟨start, rfl⟩
    · exact ⟨consumes.consistent, consumes_same start consumes⟩
  exact steady.rests r _ h ⟨rfl, rfl, fun _ => rfl, Nat.le_refl _, fun _ => mute.1⟩ fun _ => mute

variable (d : Deployment)

theorem listUnconsumed_keeps (tenantId : String) (limit : Nat) :
    Along (Keeps I) (Store.zoom (·.outboxRepository) (fun r o => { r with outboxRepository := o })
      (listUnconsumed d tenantId limit) : ActionStore (List StoredOutboxEvent)) := by
  have read : Along (fun o p => o = p) (listUnconsumed d tenantId limit) :=
    (Along.require _ _).bind fun _ => Along.read _
  apply Along.zoom read
  rintro r o rfl h
  exact h

/-- What requests and outside events keep, everything keeps. -/
theorem exec_keeps (steady : Steady I)
    (requests : ∀ clock q, Along (Keeps I)
      (InMemoryExternalActionsRepository.enqueueRequested d.requestDigest clock q)) (op : Op)
    (enqueues : ∀ command, op = .enqueue command → ∀ clock,
      Along (Keeps I) (InMemoryExternalActionsRepository.enqueue clock command)) :
    Along (fun w v : Faulty World => I w.state.actions → I v.state.actions) (exec d op) := by
  have rests {α : Type} {m : ActionStore α} (calm : AlwaysCalm m) (mute : Along Mute m) :=
    rests_keeps steady calm mute
  cases op with
  | now => exact Along.sound (R := WorldKeeps I) (Along.read _)
  | listUnconsumed tenantId limit =>
    exact Along.faulty (onActions_keeps fun _ => listUnconsumed_keeps d tenantId limit)
  | markConsumed tenantId id =>
    exact Along.faulty (onActions_keeps fun now => markConsumed_keeps steady tenantId id now)
  | createIncident tenantId params => exact Along.faulty (onIncidents_keeps _)
  | recordHealth tenantId params => exact Along.faulty (onHealth_keeps _)
  | publish subject payload => exact Along.faulty (R := WorldKeeps I) (Along.modify fun _ h => h)
  | dispatch request => exact Along.faulty answerDispatch_keeps
  | claimDispatch input =>
    exact Along.faulty (onActions_keeps fun _ => rests (claim_calm _ input) (claim_mute _ input))
  | recordDispatchAccepted input =>
    exact Along.faulty (onActions_keeps fun _ => rests (accept_calm _ input) (accept_mute _ input))
  | scheduleDispatchRetry input =>
    exact Along.faulty (onActions_keeps fun _ => rests (retry_calm _ input) (retry_mute _ input))
  | failDispatch input =>
    exact Along.faulty (onActions_keeps fun _ => rests (fail_calm _ input) (fail_mute _ input))
  | recordOutcome input =>
    exact Along.faulty (onActions_keeps fun _ => rests (outcome_calm _ input) (outcome_mute _ input))
  | requireAction identity => exact Along.faulty (onActions_keeps fun _ => find_along identity)
  | hasEvent id eventKey =>
    exact Along.faulty (onActions_keeps fun _ => Along.read _)
  | claimRow at_ input =>
    exact Along.faulty (onActions_keeps fun now =>
      rests (claimRow_calm now at_ input) (claimRow_mute now at_ input))
  | acceptRow at_ input =>
    exact Along.faulty (onActions_keeps fun now =>
      rests (acceptRow_calm now at_ input) (acceptRow_mute now at_ input))
  | retryRow at_ input =>
    exact Along.faulty (onActions_keeps fun now =>
      rests (retryRow_calm now at_ input) (retryRow_mute now at_ input))
  | failRow at_ input =>
    exact Along.faulty (withIncident_keeps (onActions_keeps fun now =>
      rests (failRow_calm now at_ input) (failRow_mute now at_ input)))
  | outcomeRow at_ input =>
    have settled : Along (WorldKeeps I) (onActions fun now =>
        PostgresExternalActionsRepository.outcomeRow now at_ input) :=
      onActions_keeps fun now => rests (outcomeRow_calm now at_ input) (outcomeRow_mute now at_ input)
    exact Along.faulty (Along.ite settled (withIncident_keeps settled))
  | enqueueRequested request =>
    exact Along.faulty (onActions_keeps fun now => requests (fun _ => now) request)
  | enqueue command =>
    exact Along.faulty (onActions_keeps fun now => enqueues command rfl now)
  | tick ms => exact Along.sound (R := WorldKeeps I) (Along.modify fun _ h => h)
  | disturb faults => exact Along.modify fun _ h => h
  | prepare answers => exact Along.sound (R := WorldKeeps I) (Along.modify fun _ h => h)

end

end

end VantGrowth.Proofs.DispatchEvents
