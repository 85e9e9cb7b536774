import VantGrowth.Proofs.PublisherLogs

namespace VantGrowth.Proofs.ConsumptionSoundness
open Db Lib N8n Publisher ActionSteps ActionCalls IncidentFiling PublisherSteps PublisherAwaits
open PublisherLogs

/-- All dependencies of a publisher are configured. -/
def Configured (p : OutboxPublisher) : Prop :=
  p.n8nDispatchClient = true ∧ p.externalActionsRepository = true ∧ p.incidentRepository = true ∧
    p.componentHealthRepository = true

/-- The incident of an event is in the store. -/
def OnFile (d : Deployment) (w : World) (e : StoredOutboxEvent) : Prop :=
  ∃ params parsed, incidentOf d e = some params ∧ params.parse = some parsed ∧
    isUuid e.tenantId = true ∧ (w.incidents.find e.tenantId parsed.incidentKey).isSome = true

/-- The action a dispatch request names is settled. -/
def Completed (w : World) (request : N8nDispatchRequest) : Prop :=
  ∃ a, Holds w.actions (identityOf request) a ∧ isSettled a.state = true

/-- What is true of an event from the time it is consumed. -/
structure Served (d : Deployment) (w : World) (e : StoredOutboxEvent) : Prop where
  filed : Operational e → OnFile d w e
  dispatched : e.eventType = externalActionOutboxEventType →
    ∃ request, n8nTypedDispatchRequestSchema d.formats e.payload = some request ∧
      Completed w request
  sent : e.eventType ≠ externalActionOutboxEventType → (subjectOf e, e.payload) ∈ w.published

/-- What later worlds keep. -/
structure Later (d : Deployment) (w v : World) : Prop where
  published : w.published <+: v.published
  settled : ∀ identity a, Holds w.actions identity a → isSettled a.state = true →
    ∃ b, Holds v.actions identity b ∧ isSettled b.state = true
  incidents : Kept d.uuid w.incidents v.incidents
  events : ∀ i e, w.outbox.eventsById.get i = some e →
    ∃ at_, v.outbox.eventsById.get i = some { e with consumedAt := at_ }

section
variable {d : Deployment} {op : Op} {u v w : World}

theorem Later.refl (w : World) : Later d w w :=
  ⟨List.prefix_rfl, fun _ a holds done => ⟨a, holds, done⟩, .refl _, fun _ e found =>
    ⟨e.consumedAt, found⟩⟩

theorem Later.trans (first : Later d u v) (second : Later d v w) : Later d u w := by
  refine ⟨first.published.trans second.published, ?_, first.incidents.trans second.incidents, ?_⟩
  · intro identity a holds done
    obtain ⟨b, holds, done⟩ := first.settled identity a holds done
    exact second.settled identity b holds done
  · intro i e found
    obtain ⟨_, found'⟩ := first.events i e found
    obtain ⟨at_, found''⟩ := second.events i _ found'
    exact ⟨at_, found''⟩

theorem next_later (next : Next d op w v) (h : Stored w.actions) : Later d w v := by
  refine ⟨next.published, ?_, next.incidents, ?_⟩
  · intro identity a holds done
    obtain ⟨b, ⟨found, keyed⟩, rfl | move⟩ := next.step.holds h holds
    · exact ⟨_, ⟨found, keyed⟩, done⟩
    · exact ⟨b, ⟨found, keyed⟩, move.stays done⟩
  · intro i e found
    rcases next.outbox with grows | ⟨tenantId, id, _, consumes⟩
    · exact ⟨e.consumedAt, (grows h.outbox).2.1 i e found⟩
    · obtain ⟨e', at_, stored, owner, set⟩ := consumes.event
      rw [set, InsertionMap.get_set]
      split
      · rename_i same
        rw [same, stored] at found
        cases found
        exact ⟨some at_, rfl⟩
      · exact ⟨e.consumedAt, found⟩

theorem Served.later {e : StoredOutboxEvent} (served : Served d w e) (later : Later d w v)
    (filed : Filed d.uuid w.incidents) : Served d v e := by
  refine ⟨?_, ?_, fun other => later.published.subset (served.sent other)⟩
  · intro kind
    obtain ⟨params, parsed, asked, parses, tenant, found⟩ := served.filed kind
    exact ⟨params, parsed, asked, parses, tenant, (later.incidents filed).2 _ _ found⟩
  · intro kind
    obtain ⟨request, read, a, holds, done⟩ := served.dispatched kind
    exact ⟨request, read, later.settled _ a holds done⟩

end

section
variable {d : Deployment} {clock : Instant}

variable (d clock) in
theorem later_after (a b : Log) : Later d (after d clock a) (after d clock (a ++ b)) :=
  related_after d clock (R := Later d) .refl (fun _ _ _ => .trans) (fun _ _ _ h next => next_later next h) a b

variable (d clock) in
theorem filed_after (log : Log) : Filed d.uuid (after d clock log).incidents :=
  ((later_after d clock [] log).incidents (empty_filed d.uuid)).1

/-- What an answer told, and that the world has only gone on since. -/
theorem told_after {a b : Log} {i : Nat} {op : Op} {r : Res op}
    (valid : Explained d clock (a ++ b)) (told : ⟨op, r⟩ ∈ Machine.history i a) :
    ∃ w v, Tells op w v (.ok r) ∧ Stored w.actions ∧ Later d w v ∧ Filed d.uuid v.incidents ∧
      Later d v (after d clock a) := by
  obtain ⟨s, member⟩ := Machine.mem_history told
  obtain ⟨x, y, rfl⟩ := List.append_of_mem member
  have later := later_after d clock (x ++ [.did (.worker i s) op (.ok r)]) y
  rw [List.append_assoc, List.singleton_append] at later
  exact ⟨_, _, (did_ends (a := x) (b := y) valid.init_).2, stored_after x, later_after d clock x _,
    filed_after d clock _, later⟩

theorem closed_completed {a b : Log} {i : Nat} {request : N8nDispatchRequest}
    (valid : Explained d clock (a ++ b))
    (closed : Closed (identityOf request) (Machine.history i a)) :
    Completed (after d clock a) request := by
  have use : ∀ {identity : DispatchIdentity} {v : World} {c : ExternalActionRecord},
      identity = identityOf request → SettledRow identity v.actions c →
      Later d v (after d clock a) → Completed (after d clock a) request := by
    rintro _ v c rfl settled later
    exact later.settled _ _ settled.1 settled.2
  cases closed with
  | claim input c same told =>
    obtain ⟨_, v, tells, _, _, _, later⟩ := told_after valid told
    exact use same tells later
  | accepted input c same told =>
    obtain ⟨_, v, tells, _, _, _, later⟩ := told_after valid told
    exact use same tells later
  | failed input c same told =>
    obtain ⟨_, v, tells, _, _, _, later⟩ := told_after valid told
    exact use same tells later
  | acceptRow now input c same told =>
    obtain ⟨_, v, tells, _, _, _, later⟩ := told_after valid told
    exact use same tells later
  | failRow now input c same told =>
    obtain ⟨_, v, tells, _, _, _, later⟩ := told_after valid told
    exact use same tells later
  | required c told done =>
    obtain ⟨_, v, tells, _, _, _, later⟩ := told_after valid told
    exact later.settled _ c tells done

/-- What a publisher knows when it marks an event is true. -/
theorem handled_served {a b : Log} {i : Nat} {p : OutboxPublisher} {e : StoredOutboxEvent}
    (valid : Explained d clock (a ++ b)) (wired : Configured p)
    (handled : Handled d p (Machine.history i a) e) : Served d (after d clock a) e := by
  refine ⟨?_, ?_, ?_⟩
  · intro kind
    obtain ⟨params, r, asked, told⟩ := handled.filed wired.2.2.1 kind
    obtain ⟨_, v, ⟨parsed, parses, tenant, found⟩, _, _, filed, later⟩ := told_after valid told
    exact ⟨params, parsed, asked, parses, tenant, (later.incidents filed).2 _ _ found⟩
  · intro kind
    obtain ⟨request, read, closed⟩ := handled.dispatched kind
    exact ⟨request, read, closed_completed valid closed⟩
  · intro kind
    obtain ⟨_, v, tells, _, _, _, later⟩ := told_after valid (handled.sent kind)
    exact later.published.subset tells

/-- An event that is marked was listed as it is stored, and is served. -/
theorem marked_served {a b : Log} {i : Nat} {s : Start} {tenantId : String} {id : Nat}
    {r : Except PublisherError (Res (.markConsumed tenantId id))} {e : StoredOutboxEvent}
    (valid : Explained d clock (a ++ .did (.worker i s) (.markConsumed tenantId id) r :: b))
    (wired : ∀ p tenantIds limit, s = .publishCycle p tenantIds limit → Configured p)
    (found : (after d clock a).outbox.eventsById.get id = some e) :
    Served d (after d clock a) e := by
  obtain ⟨_, p, tenantIds, limit, event, start, _, rfl, listed, handled⟩ :=
    valid.worked a b i s _ r rfl
  obtain ⟨tenant, batch, pending, told, member⟩ := listed
  obtain ⟨w, v, tells, stored, first, _, later⟩ := told_after valid told
  have tells : pending = w.outbox.listUnconsumed tenant batch := tells
  rw [tells] at member
  obtain ⟨at_, now⟩ := (first.trans later).events _ _ (stored.outbox.event (InMemoryOutboxRepository.mem_listUnconsumed member).1)
  rw [found] at now
  cases now
  have served := handled_served valid (wired p tenantIds limit start) handled
  exact ⟨served.filed, served.dispatched, served.sent⟩

/-- A step that leaves an event consumed found it so or has just marked it. -/
theorem consumed_before {a b : Log} {actor : Machine.Actor Start} {op : Op}
    {r : Except PublisherError (Res op)} {e : StoredOutboxEvent}
    (valid : Explained d clock (a ++ .did actor op r :: b))
    (member : e ∈ (after d clock (a ++ [.did actor op r])).outbox.events)
    (consumed : e.consumedAt ≠ none) :
    e ∈ (after d clock a).outbox.events ∨ ∃ i s tenantId id at_ e', actor = .worker i s ∧
      op = .markConsumed tenantId id ∧ (after d clock a).outbox.eventsById.get id = some e' ∧
      e = { e' with consumedAt := some at_ } := by
  obtain ⟨next, _⟩ := did_ends valid
  rcases next.outbox with grows | ⟨tenantId, id, rfl, consumes⟩
  · rcases (grows (stored_after a).outbox).2.2 e member with old | unread
    · exact Or.inl old
    · exact absurd unread consumed
  · obtain ⟨e', at_, stored, owner, set⟩ := consumes.event
    obtain ⟨i, found⟩ := (InsertionMap.mem_values _ e).mp member
    rw [set, InsertionMap.get_set] at found
    split at found
    · cases found
      cases actor with
      | outside => cases valid.outside a b _ r rfl
      | settled j s => cases (valid.settled a b j s _ r rfl).2.1
      | worker j s => exact Or.inr ⟨j, s, tenantId, id, at_, e', rfl, rfl, stored, rfl⟩
    · exact Or.inl ((InsertionMap.mem_values _ e).mpr ⟨i, found⟩)

theorem consumed_served {log : Log} (valid : Explained d clock log)
    (wired : ∀ i p tenantIds limit, .spawned i (.publishCycle p tenantIds limit) ∈ log →
      Configured p) :
    ∀ e ∈ (after d clock log).outbox.events, e.consumedAt ≠ none → Served d (after d clock log) e := by
  induction log using List.reverseRecOn with
  | nil => rintro e ⟨⟩
  | append_singleton a f ih =>
    intro e member consumed
    have earlier := ih valid.init_ fun i p tenantIds limit spawned =>
      wired i p tenantIds limit (List.mem_append_left _ spawned)
    have later := later_after d clock a [f]
    cases f with
    | spawned i s =>
      rw [after_spawned] at member
      exact (earlier e member consumed).later later (filed_after d clock a)
    | did actor op r =>
      rcases consumed_before valid member consumed with old | marked
      · exact (earlier e old consumed).later later (filed_after d clock a)
      · obtain ⟨i, s, tenantId, id, at_, e', rfl, rfl, found, rfl⟩ := marked
        have served : Served d (after d clock a) e' := by
          refine marked_served valid ?_ found
          rintro p tenantIds limit rfl
          exact wired i p tenantIds limit (List.mem_append_left _ (valid.worked a [] i _ _ r rfl).1)
        have served := served.later later (filed_after d clock a)
        exact ⟨served.filed, served.dispatched, served.sent⟩

/-- What marking an event consumed promises: a dispatch is settled, everything
else was published to its tenant, and an operational event has its one
incident. -/
structure Sound (d : Deployment) (w : World) (e : StoredOutboxEvent) : Prop where
  dispatched : e.eventType = externalActionOutboxEventType → ∃ request a,
    n8nTypedDispatchRequestSchema d.formats e.payload = some request ∧
    w.actions.lookup request.tenantId request.actionId = some a ∧
    a.idempotencyKey = request.idempotencyKey ∧ isSettled a.state = true
  published : e.eventType ≠ externalActionOutboxEventType → (subjectOf e, e.payload) ∈ w.published
  incident : Operational e → ∃ params parsed r, incidentOf d e = some params ∧
    params.parse = some parsed ∧ w.incidents.matching e.tenantId parsed.incidentKey = [r]

/-- Whatever fails and whatever races, publishers consume nothing they have not
dealt with. -/
theorem consumption_sound (d : Deployment) (clock : Instant) (labels : List (Machine.Label Op Start))
    (wired : ∀ p tenantIds limit, .spawn (.publishCycle p tenantIds limit) ∈ labels → Configured p) :
    let w := (runs (machine d).step (Machine.initial (fresh clock)) labels).state.state
    ∀ e ∈ w.outbox.events, e.consumedAt ≠ none → Sound d w e := by
  obtain ⟨valid, state⟩ := runs_valid d clock labels
  have launched : ∀ i p tenantIds limit, .spawned i (.publishCycle p tenantIds limit) ∈
      (runs (machine d).step (Machine.initial (fresh clock)) labels).log → Configured p := by
    intro i p tenantIds limit spawned
    rcases Machine.spawned_labelled spawned with none_ | label
    · cases none_
    · exact wired p tenantIds limit label
  intro w e member consumed
  have served : Served d w e := by
    have here := consumed_served valid launched e
    rw [← state] at here
    exact here member consumed
  have filed : Filed d.uuid w.incidents := by
    have here := filed_after d clock
      (runs (machine d).step (Machine.initial (fresh clock)) labels).log
    rwa [← state] at here
  refine ⟨?_, served.sent, ?_⟩
  · intro kind
    obtain ⟨request, read, a, holds, done⟩ := served.dispatched kind
    exact ⟨request, a, read, holds.found, holds.keyed, done⟩
  · intro kind
    obtain ⟨params, parsed, asked, parses, tenant, found⟩ := served.filed kind
    obtain ⟨r, hr⟩ := Option.isSome_iff_exists.mp found
    exact ⟨params, parsed, r, asked, parses, filed.matching tenant hr⟩

end

/-- A component failed and an action was requested; both events are handled in
one cycle. -/
def incidentAndDispatch : List (Machine.Label Op Start) :=
  [.outside (.enqueue
      { tenantId := acme, eventType := incidentOpenedEventType, idempotencyKey := "down",
        payload := [("incident_key", .str "api-down"), ("component_id", .str "api"),
          ("severity", .str "high"), ("title", .str "API down"), ("summary", .str "No answer")] }),
    .outside (.enqueueRequested ping),
    .outside (.prepare [.success (.finite 200) .null]),
    .spawn (.publishCycle publisher [acme] 10)] ++ turns 0 8

theorem incidentAndDispatch_sound :
    let w := (runs (machine (deployed .inMemory)).step (Machine.initial (fresh 0))
      incidentAndDispatch).state.state
    w.outbox.events.map (fun e => (e.eventType, e.consumedAt)) =
      [(incidentOpenedEventType, some 0), (externalActionOutboxEventType, some 0),
        ("external_action.dispatched.v1", none)] ∧
    ∀ e ∈ w.outbox.events, e.consumedAt ≠ none → Sound (deployed .inMemory) w e := by
  refine ⟨by decide +kernel, consumption_sound _ 0 incidentAndDispatch fun p tenantIds limit h => ?_⟩
  simp only [incidentAndDispatch, turns, List.mem_append, List.mem_cons, List.mem_replicate,
    reduceCtorEq, Machine.Label.spawn.injEq, Start.publishCycle.injEq, List.not_mem_nil, or_false,
    false_or, and_false] at h
  obtain ⟨rfl, _⟩ := h
  exact ⟨rfl, rfl, rfl, rfl⟩

end VantGrowth.Proofs.ConsumptionSoundness
