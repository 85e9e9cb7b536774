import VantGrowth.Signals.IngestionWorker

namespace VantGrowth.Proofs.SignalPipeline
open Core Db Db.InMemorySignalEventsRepository Lib Lib.Text Lib.Prog Signals
open Db.InMemoryOutboxRepository (SameKey)

/-- The record as it was ingested. -/
def ingested (r : SignalEventRecord) : SignalEventRecord :=
  { r with
    processedAt := none
    processingLeaseOwner := none
    processingLeaseExpiresAt := none
    processingAttempts := 0 }

theorem ingested_id {a b : SignalEventRecord} (same : ingested a = ingested b) : a.id = b.id := by
  have id := congrArg SignalEventRecord.id same
  exact id

theorem ingested_valid {a b : SignalEventRecord} (same : ingested a = ingested b) :
    a.valid = b.valid := by
  have valid := congrArg SignalEventRecord.valid same
  exact valid

/-- The id of the signal an event of the pipeline tells of. -/
def signalOf (e : EnqueueOutboxEvent) : Option String :=
  if e.eventType = "intel_brief.requested.v1" then
    match e.payload.lookup "trigger" with
    | some (.obj trigger) => Payload.text trigger "signal_id"
    | _ => none
  else e.payload.text "signal_id"

/-- The agent a request is for. -/
def addressee (e : EnqueueOutboxEvent) : Option String :=
  if e.eventType = "intel_brief.requested.v1" then some "intel_director"
  else e.payload.text "target_agent"

def concerns (r : SignalEventRecord) (e : EnqueueOutboxEvent) : Bool :=
  e.tenantId == r.tenantId && signalOf e == some (decimal r.id)

def isRouting (e : EnqueueOutboxEvent) : Bool := e.eventType == "signal.routed.v1"

def isRequest (e : EnqueueOutboxEvent) : Bool :=
  e.eventType == "intel_brief.requested.v1" || e.eventType == "agent.work.requested.v1"

/-- The events of a kind that tell of a signal. -/
def eventsOf (kind : EnqueueOutboxEvent → Bool) (o : InMemoryOutboxRepository)
    (r : SignalEventRecord) : List StoredOutboxEvent :=
  o.events.filter fun e => kind e.toEnqueueOutboxEvent && concerns r e.toEnqueueOutboxEvent

/-- The outbox holds of a signal what it should. -/
structure ExactlyOnce (o : InMemoryOutboxRepository) (r : SignalEventRecord) : Prop where
  routed : (eventsOf isRouting o r).length ≤ 1
  requested : (eventsOf isRequest o r).length ≤ 1
  addressed : ∀ e ∈ eventsOf isRequest o r,
    addressee e.toEnqueueOutboxEvent = some (classifySignal (incomingSignal r)).targetAgent
  processed : r.processedAt ≠ none →
    (eventsOf isRouting o r).length = 1 ∧ (eventsOf isRequest o r).length = 1

section
variable (d : Deployment)

/-- The routing event of a signal, at some time and with some grade. -/
def routingOf (r : SignalEventRecord) (now : Instant) (grade : Option SignalGrade) :
    EnqueueOutboxEvent :=
  routedEvent (routedOf now (incomingSignal r) grade)

def requestOf (r : SignalEventRecord) (now : Instant) (grade : Option SignalGrade)
    (later : Instant) : EnqueueOutboxEvent :=
  downstreamCommand d later r (routedOf now (incomingSignal r) grade)

inductive CommandOf (r : SignalEventRecord) : EnqueueOutboxEvent → Prop
  | routing (now : Instant) (grade : Option SignalGrade) : CommandOf r (routingOf r now grade)
  | request (now : Instant) (grade : Option SignalGrade) (later : Instant) :
    CommandOf r (requestOf d r now grade later)

end

/-- What the unique key of a signal's command is. -/
structure Keyed (r : SignalEventRecord) (eventType key : String) (c : EnqueueOutboxEvent) : Prop where
  tenant : c.tenantId = r.tenantId
  type : c.eventType = eventType
  key : c.idempotencyKey = key
  signal : signalOf c = some (decimal r.id)

def routingKey (r : SignalEventRecord) : String := join "signal" (decimal r.id)

def agentOf (r : SignalEventRecord) : String := (classifySignal (incomingSignal r)).targetAgent

def requestType (r : SignalEventRecord) : String :=
  if agentOf r = "intel_director" then "intel_brief.requested.v1" else "agent.work.requested.v1"

def requestKey (r : SignalEventRecord) : String :=
  if agentOf r = "intel_director" then join "intel-brief-request" (decimal r.id)
  else join "agent-work" (join (agentOf r) (decimal r.id))

section
variable {d : Deployment} {r : SignalEventRecord}

theorem routing_keyed (now : Instant) (grade : Option SignalGrade) :
    Keyed r "signal.routed.v1" (routingKey r) (routingOf r now grade) :=
  ⟨rfl, rfl, rfl, rfl⟩

theorem requestOf_intel {now later : Instant} {grade : Option SignalGrade}
    (intel : agentOf r = "intel_director") : requestOf d r now grade later =
      createIntelBriefRequestFromSignal d.sha256 r (routedOf now (incomingSignal r) grade) :=
  if_pos intel

theorem requestOf_agent {now later : Instant} {grade : Option SignalGrade}
    (other : agentOf r ≠ "intel_director") : requestOf d r now grade later =
      createAgentWorkRequestFromSignal d.sha256 later r (routedOf now (incomingSignal r) grade) :=
  if_neg other

theorem request_keyed (now : Instant) (grade : Option SignalGrade) (later : Instant) :
    Keyed r (requestType r) (requestKey r) (requestOf d r now grade later) := by
  by_cases intel : agentOf r = "intel_director"
  · rw [requestOf_intel intel, requestType, requestKey, if_pos intel, if_pos intel]
    refine ⟨rfl, rfl, rfl, ?_⟩
    have trigger : (createIntelBriefRequestFromSignal d.sha256 r
        (routedOf now (incomingSignal r) grade)).payload.lookup "trigger" = some (.obj
          [("signal_id", .str (decimal r.id)), ("signal_type", .str r.signalType.text),
            ("source", .str r.source), ("kind", .str (resolveSignalKind r)),
            ("priority", .str (classifySignal (incomingSignal r)).priority.text),
            ("payload", .obj r.payload), ("occurred_at", .str r.createdAt.toISOString)]) := by
      cases hx : resolveExperimentId r <;>
        simp [createIntelBriefRequestFromSignal, hx, List.lookup_cons, routedOf]
    unfold signalOf
    rw [trigger]
    rfl
  · rw [requestOf_agent intel, requestType, requestKey, if_neg intel, if_neg intel]
    exact ⟨rfl, rfl, rfl, rfl⟩

theorem request_addressee (now : Instant) (grade : Option SignalGrade) (later : Instant) :
    addressee (requestOf d r now grade later) = some (agentOf r) := by
  by_cases intel : agentOf r = "intel_director"
  · rw [requestOf_intel intel, intel]
    rfl
  · rw [requestOf_agent intel]
    rfl

theorem requestType_cases (r : SignalEventRecord) :
    requestType r = "intel_brief.requested.v1" ∨ requestType r = "agent.work.requested.v1" := by
  unfold requestType
  split
  · exact Or.inl rfl
  · exact Or.inr rfl

theorem agentOf_no_colon (r : SignalEventRecord) : ':' ∉ (agentOf r).toList := by
  unfold agentOf classifySignal
  split_ifs <;> decide

theorem routingKey_inj {r r' : SignalEventRecord} (h : routingKey r = routingKey r') : r.id = r'.id :=
  decimal_inj (join_right_inj h)

theorem requestKey_inj {r r' : SignalEventRecord} (h : requestKey r = requestKey r') :
    r.id = r'.id := by
  unfold requestKey at h
  split_ifs at h
  · exact decimal_inj (join_right_inj h)
  · exact absurd (join_inj (by decide) (by decide) h).1 (by decide)
  · exact absurd (join_inj (by decide) (by decide) h).1 (by decide)
  · have parts := join_inj (agentOf_no_colon r) (agentOf_no_colon r') (join_right_inj h)
    exact decimal_inj parts.2

/-- A kind of events: a signal has one key for it, and no other signal has
this key. -/
structure Kind (d : Deployment) (kind : EnqueueOutboxEvent → Bool)
    (type key : SignalEventRecord → String) : Prop where
  keyed : ∀ r c, CommandOf d r c → kind c = true → Keyed r (type r) (key r) c
  accepts : ∀ r c, c.eventType = type r → kind c = true
  distinct : ∀ r r', key r = key r' → r.id = r'.id

theorem routing_kind : Kind d isRouting (fun _ => "signal.routed.v1") routingKey := by
  refine ⟨?_, ?_, fun r r' => routingKey_inj⟩
  · intro r c command kind
    cases command with
    | routing now grade => exact routing_keyed now grade
    | request now grade later =>
      have type : requestType r = "signal.routed.v1" := by
        rw [← (request_keyed now grade later).type]
        simpa [isRouting] using kind
      rcases requestType_cases r with intel | work
      · exact absurd (intel.symm.trans type) (by decide)
      · exact absurd (work.symm.trans type) (by decide)
  · intro r c type
    simp [isRouting, type]

theorem request_kind : Kind d isRequest requestType requestKey := by
  refine ⟨?_, ?_, fun r r' => requestKey_inj⟩
  · intro r c command kind
    cases command with
    | routing now grade => cases kind
    | request now grade later => exact request_keyed now grade later
  · intro r c type
    rcases requestType_cases r with intel | work
    · simp [isRequest, type, intel]
    · simp [isRequest, type, work]

/-- What the outbox holds was made of the signals of the inbox. -/
structure Accounted (d : Deployment) (w : World) : Prop where
  ordered : w.signals.Ordered
  consistent : w.outbox.Consistent
  stems : ∀ e ∈ w.outbox.events, ∃ r ∈ w.signals.records, CommandOf d r e.toEnqueueOutboxEvent

section
variable {w : World} {kind : EnqueueOutboxEvent → Bool} {type key : SignalEventRecord → String}

/-- An event of a kind that concerns a signal has this signal's key. -/
theorem Accounted.keyed (h : Accounted d w) (k : Kind d kind type key)
    (stored : r ∈ w.signals.records) {e : StoredOutboxEvent} (member : e ∈ eventsOf kind w.outbox r) :
    e ∈ w.outbox.events ∧ CommandOf d r e.toEnqueueOutboxEvent ∧
      Keyed r (type r) (key r) e.toEnqueueOutboxEvent := by
  obtain ⟨there, told⟩ := List.mem_filter.mp member
  simp only [concerns, Bool.and_eq_true, beq_iff_eq] at told
  obtain ⟨r', stored', command⟩ := h.stems e there
  have keyed := k.keyed r' _ command told.1
  have id : r'.id = r.id := by
    have signal := keyed.signal
    rw [told.2.2] at signal
    exact (decimal_inj (Option.some.inj signal)).symm
  obtain rfl := h.ordered.same_id stored' stored id
  exact ⟨there, command, keyed⟩

theorem Accounted.single (h : Accounted d w) (k : Kind d kind type key)
    (stored : r ∈ w.signals.records) : (eventsOf kind w.outbox r).length ≤ 1 := by
  have nodup : (eventsOf kind w.outbox r).Nodup := h.consistent.events_nodup.filter _
  have same : ∀ a ∈ eventsOf kind w.outbox r, ∀ b ∈ eventsOf kind w.outbox r, a = b := by
    intro a ha b hb
    obtain ⟨thereA, _, keyedA⟩ := h.keyed k stored ha
    obtain ⟨thereB, _, keyedB⟩ := h.keyed k stored hb
    refine h.consistent.unique thereA thereB ⟨?_, ?_, ?_⟩
    · rw [keyedA.tenant, keyedB.tenant]
    · rw [keyedA.type, keyedB.type]
    · rw [keyedA.key, keyedB.key]
  cases found : eventsOf kind w.outbox r with
  | nil => exact Nat.zero_le 1
  | cons a rest =>
    cases rest with
    | nil => exact Nat.le_refl 1
    | cons b rest =>
      rw [found] at nodup same
      have one := same a (by simp) b (by simp)
      exact absurd one (by simp at nodup; tauto)

/-- Where the outbox holds the key of a signal's event, it holds the event. -/
theorem Accounted.present (h : Accounted d w) (k : Kind d kind type key)
    (stored : r ∈ w.signals.records) {c : EnqueueOutboxEvent} (keyed : Keyed r (type r) (key r) c)
    (sent : ∃ e ∈ w.outbox.events, SameKey e c) : (eventsOf kind w.outbox r).length = 1 := by
  obtain ⟨e, there, tenant, eventType, idempotencyKey⟩ := sent
  obtain ⟨r', stored', command⟩ := h.stems e there
  have accepted : kind e.toEnqueueOutboxEvent = true := k.accepts r _ (eventType.trans keyed.type)
  have keyed' := k.keyed r' _ command accepted
  have id : r'.id = r.id :=
    k.distinct r' r (keyed'.key.symm.trans (idempotencyKey.trans keyed.key))
  obtain rfl := h.ordered.same_id stored' stored id
  have member : e ∈ eventsOf kind w.outbox r' := by
    refine List.mem_filter.mpr ⟨there, ?_⟩
    simp [concerns, accepted, keyed'.tenant, keyed'.signal]
  exact Nat.le_antisymm (h.single k stored) (List.length_pos_of_mem member)

end

end

/-- An operation that marks a record processed. -/
def marks (op : Op) (r : SignalEventRecord) : Prop :=
  ∃ ids, op = .markProcessed r.tenantId ids ∧ r.id ∈ ids

/-- What an operation does to the inbox and the outbox. -/
structure Step (op : Op) (w v : World) : Prop where
  ordered : v.signals.Ordered
  consistent : v.outbox.Consistent
  origin : ∀ r ∈ v.signals.records, r.processedAt = none ∨
    ∃ old ∈ w.signals.records, ingested old = ingested r ∧ (old.processedAt = none → marks op old)
  kept : ∀ r ∈ w.signals.records, ∃ new ∈ v.signals.records, ingested new = ingested r ∧
    (r.processedAt ≠ none → new.processedAt ≠ none)
  events : ∀ e ∈ v.outbox.events,
    (∃ old ∈ w.outbox.events, old.toEnqueueOutboxEvent = e.toEnqueueOutboxEvent) ∨
      op = .enqueue e.toEnqueueOutboxEvent
  stays : ∀ e ∈ w.outbox.events,
    ∃ new ∈ v.outbox.events, new.toEnqueueOutboxEvent = e.toEnqueueOutboxEvent

/-- The two stores pass their checks. -/
structure Sound (w : World) : Prop where
  ordered : w.signals.Ordered
  consistent : w.outbox.Consistent

section
variable {op : Op} {w v : World}

/-- The records of an inbox, changed or joined by new ones, in an operation that
leaves the outbox alone. -/
theorem Step.signals (h : Sound w) (outbox : v.outbox = w.outbox) (ordered : v.signals.Ordered)
    (origin : ∀ r ∈ v.signals.records, r.processedAt = none ∨
      ∃ old ∈ w.signals.records, ingested old = ingested r ∧ (old.processedAt = none → marks op old))
    (kept : ∀ r ∈ w.signals.records, ∃ new ∈ v.signals.records, ingested new = ingested r ∧
      (r.processedAt ≠ none → new.processedAt ≠ none)) : Step op w v where
  ordered := ordered
  consistent := outbox ▸ h.consistent
  origin := origin
  kept := kept
  events e there := Or.inl ⟨e, outbox ▸ there, rfl⟩
  stays e there := ⟨e, outbox.symm ▸ there, rfl⟩

theorem unmarked (op : Op) {r : SignalEventRecord} : r.processedAt = none ∨
    ∃ old, old = r ∧ (old.processedAt = none → marks op old) := by
  cases state : r.processedAt with
  | none => exact Or.inl rfl
  | some at_ => exact Or.inr ⟨r, rfl, fun free => by rw [state] at free; cases free⟩

theorem Step.outbox (h : Sound w) (signals : v.signals = w.signals)
    (consistent : v.outbox.Consistent)
    (events : ∀ e ∈ v.outbox.events,
      (∃ old ∈ w.outbox.events, old.toEnqueueOutboxEvent = e.toEnqueueOutboxEvent) ∨
        op = .enqueue e.toEnqueueOutboxEvent)
    (stays : ∀ e ∈ w.outbox.events,
      ∃ new ∈ v.outbox.events, new.toEnqueueOutboxEvent = e.toEnqueueOutboxEvent) :
    Step op w v where
  ordered := signals ▸ h.ordered
  consistent := consistent
  origin r there := by
    rcases unmarked op (r := r) with free | ⟨old, rfl, marked⟩
    · exact Or.inl free
    · exact Or.inr ⟨old, signals ▸ there, rfl, marked⟩
  kept r there := ⟨r, signals.symm ▸ there, rfl, id⟩
  events := events
  stays := stays

theorem Step.still (h : Sound w) (signals : v.signals = w.signals) (outbox : v.outbox = w.outbox) :
    Step op w v :=
  .outbox h signals (outbox ▸ h.consistent) (fun e there => Or.inl ⟨e, outbox ▸ there, rfl⟩)
    fun e there => ⟨e, outbox.symm ▸ there, rfl⟩

/-- Every record is changed in place, and is still of its signal. -/
theorem Step.mapped (h : Sound w) (outbox : v.outbox = w.outbox)
    {f : SignalEventRecord → SignalEventRecord} (same : ∀ r, ingested (f r) = ingested r)
    (stays : ∀ r, r.processedAt ≠ none → (f r).processedAt ≠ none)
    (marked : ∀ r ∈ w.signals.records, (f r).processedAt ≠ none → r.processedAt = none → marks op r)
    (written : v.signals = { w.signals with records := w.signals.records.map f }) : Step op w v := by
  refine .signals h outbox (h.ordered.update (fun r => ingested_id (same r))
    (fun r => ingested_valid (same r)) written) ?_ ?_
  · intro r there
    rw [written] at there
    obtain ⟨old, stored, rfl⟩ := List.mem_map.mp there
    by_cases free : (f old).processedAt = none
    · exact Or.inl free
    · exact Or.inr ⟨old, stored, (same old).symm, marked old stored free⟩
  · intro r there
    rw [written]
    exact ⟨f r, List.mem_map_of_mem there, same r, stays r⟩

theorem sends_step (h : Sound w) {command : EnqueueOutboxEvent} (signals : v.signals = w.signals)
    (sent : InMemoryOutboxRepository.Sends command w.outbox v.outbox) :
    Step (.enqueue command) w v := by
  refine .outbox h signals sent.consistent ?_ ?_
  · intro e there
    rcases sent.events with ⟨same, _⟩ | ⟨new, grown, written, _, _⟩
    · exact Or.inl ⟨e, same ▸ there, rfl⟩
    · rw [grown] at there
      rcases List.mem_append.mp there with old | there
      · exact Or.inl ⟨e, old, rfl⟩
      · cases List.mem_singleton.mp there
        exact Or.inr (congrArg Op.enqueue written.symm)
  · intro e there
    rcases sent.events with ⟨same, _⟩ | ⟨new, grown, _, _, _⟩
    · exact ⟨e, same.symm ▸ there, rfl⟩
    · exact ⟨e, grown ▸ List.mem_append_left _ there, rfl⟩

theorem consumes_step (h : Sound w) {tenantId : String} {id : Nat} (signals : v.signals = w.signals)
    (consumed : InMemoryOutboxRepository.Consumes tenantId id w.outbox v.outbox) : Step op w v := by
  obtain ⟨d, at_, found, _, written⟩ := consumed.event
  refine .outbox h signals consumed.consistent ?_ ?_
  · intro e there
    obtain ⟨i, hi⟩ := (v.outbox.eventsById.mem_values e).mp there
    rw [written, InsertionMap.get_set] at hi
    split at hi
    · cases hi
      exact Or.inl ⟨d, (w.outbox.eventsById.mem_values d).mpr ⟨id, found⟩, rfl⟩
    · exact Or.inl ⟨e, (w.outbox.eventsById.mem_values e).mpr ⟨i, hi⟩, rfl⟩
  · intro e there
    obtain ⟨i, hi⟩ := (w.outbox.eventsById.mem_values e).mp there
    by_cases same : i = id
    · rw [same, found] at hi
      cases hi
      refine ⟨{ d with consumedAt := some at_ }, ?_, rfl⟩
      exact (v.outbox.eventsById.mem_values _).mpr ⟨id, by rw [written, InsertionMap.get_set_self]⟩
    · refine ⟨e, (v.outbox.eventsById.mem_values e).mpr ⟨i, ?_⟩, rfl⟩
      rw [written, InsertionMap.get_set, if_neg same, hi]

theorem ingests_step (h : Sound w) {now : Instant} {params : IngestSignalParams}
    {x : Except DbError IngestSignalResult} (outbox : v.outbox = w.outbox)
    (done : Ingests now params w.signals x v.signals) : Step op w v := by
  have ordered := done.ordered h.ordered
  cases done with
  | repeated r found answer same => exact .still h same outbox
  | stored fresh answer written valid =>
    refine .signals h outbox ordered ?_ ?_
    · intro r there
      rw [written] at there
      rcases List.mem_append.mp there with old | new
      · rcases unmarked op (r := r) with free | ⟨same, rfl, marked⟩
        · exact Or.inl free
        · exact Or.inr ⟨same, old, rfl, marked⟩
      · cases List.mem_singleton.mp new
        exact Or.inl rfl
    · intro r there
      rw [written]
      exact ⟨r, List.mem_append_left _ there, rfl, id⟩
  | refused fresh answer records drawn index =>
    refine .signals h outbox ordered ?_ ?_
    · intro r there
      rw [records] at there
      rcases unmarked op (r := r) with free | ⟨same, rfl, marked⟩
      · exact Or.inl free
      · exact Or.inr ⟨same, there, rfl, marked⟩
    · exact fun r there => ⟨r, records.symm ▸ there, rfl, id⟩

end

section
variable {d : Deployment} {s : Faulty World}

theorem signals_ends {w : World} {f : Instant → Store DbError InMemorySignalEventsRepository α}
    {R : Except DbError α → InMemorySignalEventsRepository → Prop}
    (h : (f w.clock).Ends w.signals R) :
    (onSignals f).Ends w fun x v => ∃ y, R y v.signals ∧ x = y.mapError .repository ∧
      v = { w with signals := v.signals } :=
  ⟨_, h, rfl, rfl⟩

theorem outbox_ends {w : World} {f : Instant → Store DbError InMemoryOutboxRepository α}
    {R : Except DbError α → InMemoryOutboxRepository → Prop} (h : (f w.clock).Ends w.outbox R) :
    (onOutbox f).Ends w fun x v => ∃ y, R y v.outbox ∧ x = y.mapError .repository ∧
      v = { w with outbox := v.outbox } :=
  ⟨_, h, rfl, rfl⟩

theorem mapError_ok {y : Except DbError α} {a : α}
    (h : (Except.ok a : Except WorkerError α) = y.mapError .repository) : y = .ok a := by
  cases y with
  | error e => cases h
  | ok b =>
    cases h
    rfl

/-- A call that is lost takes its effect or none. -/
theorem remote_step {op : Op} (h : Sound s.state) {m : Store WorkerError World α}
    (body : m.Ends s.state fun _ v => Step op s.state v) :
    (remote m).Ends s fun _ t => Step op s.state t.state := by
  refine Store.Ends.faulty body (fun _ _ _ effect => effect) ?_ ?_
  · exact fun _ _ => .still h rfl rfl
  · exact fun _ _ _ _ effect => effect

theorem claim_step (h : Sound s.state) (tenantId : String) (signalType : SignalTypeValue)
    (limit : Nat) (claim : SignalProcessingClaim) {op : Op} :
    (onSignals fun now => claimUnprocessed now tenantId signalType limit claim).Ends s.state
      fun _ v => Step op s.state v := by
  by_cases fits : isUuid tenantId = true ∧ claim.valid = true
  · have run := @claimUnprocessed_run _ s.state.clock h.ordered _ fits.1 signalType limit _ fits.2
    have body : (claimUnprocessed s.state.clock tenantId signalType limit claim).Ends s.state.signals
        fun _ t => ∃ ids, t = { s.state.signals with
          records := s.state.signals.records.map (leaseIn s.state.clock claim ids) } := by
      unfold Store.Ends
      rw [run]
      exact ⟨_, rfl⟩
    refine (signals_ends body).weaken ?_
    rintro x v ⟨_, ⟨ids, written⟩, _, frame⟩
    refine .mapped h (by rw [frame]) ?_ ?_ ?_ written
    · intro r
      unfold leaseIn
      split <;> rfl
    · intro r closed
      unfold leaseIn
      split <;> exact closed
    · intro r _ closed free
      unfold leaseIn at closed
      split at closed
      · exact absurd free closed
      · exact absurd free closed
  · have body : (claimUnprocessed s.state.clock tenantId signalType limit claim).Ends s.state.signals
        fun _ t => t = s.state.signals := by
      unfold Store.Ends
      rw [claimUnprocessed_refused fits]
    refine (signals_ends body).weaken ?_
    rintro x v ⟨_, same, _, frame⟩
    exact .still h same (by rw [frame])

theorem mark_step (h : Sound s.state) (tenantId : String) (ids : List Nat) :
    (onSignals fun now => markProcessed now tenantId ids).Ends s.state
      fun _ v => Step (.markProcessed tenantId ids) s.state v := by
  refine .mapped h rfl (f := fun r =>
    if r.tenantId = tenantId ∧ r.id ∈ ids ∧ r.processedAt = none then processed s.state.clock r
    else r) ?_ ?_ ?_ rfl
  · intro r
    split <;> rfl
  · intro r closed
    split
    · exact Option.some_ne_none _
    · exact closed
  · intro r _ closed free
    split at closed
    · rename_i chosen
      exact ⟨ids, by rw [chosen.1], chosen.2.1⟩
    · exact absurd free closed

theorem release_step (h : Sound s.state) (tenantId : String) (ids : List Nat) (owner : String)
    {op : Op} : (onSignals fun _ => releaseClaims tenantId ids owner).Ends s.state
      fun _ v => Step op s.state v := by
  refine .mapped h rfl (f := fun r =>
    if r.tenantId = tenantId ∧ r.id ∈ ids ∧ r.processedAt = none ∧
      r.processingLeaseOwner = some owner then released r else r) ?_ ?_ ?_ rfl
  · intro r
    split <;> rfl
  · intro r closed
    split <;> exact closed
  · intro r _ closed free
    split at closed
    · exact absurd free closed
    · exact absurd free closed

theorem enqueue_step (h : Sound s.state) (command : EnqueueOutboxEvent) :
    (onOutbox fun now => Signals.enqueue d now command).Ends s.state
      fun _ v => Step (.enqueue command) s.state v := by
  have body : (Signals.enqueue d s.state.clock command).Ends s.state.outbox fun _ p =>
      p = s.state.outbox ∨ InMemoryOutboxRepository.Sends command s.state.outbox p :=
    Store.Ends.require_bind (fun _ => Or.inl rfl) fun _ =>
      InMemoryOutboxRepository.enqueue_ends h.consistent s.state.clock command
  refine (outbox_ends body).weaken ?_
  rintro x v ⟨_, same | sent, _, frame⟩
  · exact .still h (by rw [frame]) same
  · exact sends_step h (by rw [frame]) sent

theorem consume_step (h : Sound s.state) (tenantId : String) (eventId : Nat) {op : Op} :
    (onOutbox fun now => InMemoryOutboxRepository.markConsumed tenantId eventId now).Ends s.state
      fun _ v => Step op s.state v := by
  refine (outbox_ends (InMemoryOutboxRepository.markConsumed_ends h.consistent tenantId eventId
    s.state.clock)).weaken ?_
  rintro x v ⟨_, same | consumed, _, frame⟩
  · exact .still h (by rw [frame]) same
  · exact consumes_step h (by rw [frame]) consumed

/-- What every operation does, whatever faults are in store. -/
theorem exec_step (op : Op) (h : Sound s.state) :
    (exec d op).Ends s fun _ t => Step op s.state t.state := by
  cases op with
  | now => exact .still h rfl rfl
  | claimUnprocessed tenantId signalType limit claim =>
    exact remote_step h (claim_step h tenantId signalType limit claim)
  | gradeSignal signal => exact .still h rfl rfl
  | enqueue command => exact remote_step h (enqueue_step h command)
  | markProcessed tenantId ids => exact remote_step h (mark_step h tenantId ids)
  | releaseClaims tenantId ids owner => exact remote_step h (release_step h tenantId ids owner)
  | ingest params =>
    refine remote_step h ((signals_ends (ingest_ingests s.state.clock params s.state.signals)).weaken ?_)
    rintro x v ⟨_, done, _, frame⟩
    exact ingests_step h (by rw [frame]) done
  | markConsumed tenantId eventId => exact remote_step h (consume_step h tenantId eventId)
  | tick ms => exact .still h rfl rfl
  | disturb faults => exact .still h rfl rfl
  | prepare grades => exact .still h rfl rfl

/-- What a claim returns are records of the inbox. -/
theorem claim_answer (h : Sound s.state) {tenantId : String} {signalType : SignalTypeValue}
    {limit : Nat} {claim : SignalProcessingClaim} :
    (exec d (.claimUnprocessed tenantId signalType limit claim)).Ends s fun x _ =>
      ∀ l, x = .ok l → ∀ r ∈ l, ∃ old ∈ s.state.signals.records, ingested old = ingested r := by
  have body : (claimUnprocessed s.state.clock tenantId signalType limit claim).Ends s.state.signals
      fun x _ => ∀ l, x = .ok l → ∀ r ∈ l, ∃ old ∈ s.state.signals.records, ingested old = ingested r := by
    unfold Store.Ends
    by_cases fits : isUuid tenantId = true ∧ claim.valid = true
    · rw [claimUnprocessed_run h.ordered fits.1 signalType limit fits.2]
      rintro l ⟨⟩ r member
      obtain ⟨old, taken, rfl⟩ := List.mem_map.mp member
      exact ⟨old, (List.mem_filter.mp (List.take_subset _ _ taken)).1, rfl⟩
    · rw [claimUnprocessed_refused fits]
      rintro l ⟨⟩
  refine Store.Ends.faulty (signals_ends body) ?_ (by rintro f fs l ⟨⟩) (by rintro f x t fs _ l ⟨⟩)
  rintro x v fs ⟨y, returned, same, _⟩ l answered
  exact returned l (mapError_ok (answered.symm.trans same))

/-- A command that was taken has its key in the outbox. -/
theorem enqueue_answer (h : Sound s.state) {command : EnqueueOutboxEvent} :
    (exec d (.enqueue command)).Ends s fun x t =>
      ∀ e, x = .ok (.ok e) → ∃ e ∈ t.state.outbox.events, SameKey e command := by
  have body : (Signals.enqueue d s.state.clock command).Ends s.state.outbox fun x p =>
      ∀ e, x = .ok e → ∃ e ∈ p.events, SameKey e command := by
    refine Store.Ends.require_bind (by rintro _ e ⟨⟩) fun _ => ?_
    by_cases valid : command.valid = true
    · refine (InMemoryOutboxRepository.enqueue_sends h.consistent s.state.clock valid).weaken ?_
      exact fun _ _ sent _ _ => sent.2.holds
    · exact Store.Ends.require_bind (by rintro _ e ⟨⟩) fun passed => absurd passed valid
  have call : (remote (onOutbox fun now => Signals.enqueue d now command)).Ends s fun x t =>
      ∀ e, x = .ok e → ∃ e ∈ t.state.outbox.events, SameKey e command := by
    refine Store.Ends.faulty (outbox_ends body) ?_ (by rintro f fs e ⟨⟩) (by rintro f x t fs _ e ⟨⟩)
    rintro x v fs ⟨y, sent, same, _⟩ e answered
    exact sent e (mapError_ok (answered.symm.trans same))
  exact fun e answered => call e (Except.ok.inj answered)

end

abbrev Answers := List (Did Res)

/-- A claim of the worker returned this record. -/
def Claimed (h : Answers) (r : SignalEventRecord) : Prop :=
  ∃ tenantId signalType limit claim l, ⟨.claimUnprocessed tenantId signalType limit claim, l⟩ ∈ h ∧ r ∈ l

/-- The outbox took the command. -/
def Took (h : Answers) (command : EnqueueOutboxEvent) : Prop :=
  ∃ e, (⟨.enqueue command, .ok e⟩ : Did Res) ∈ h

/-- A worker makes commands of records it claimed, and marks a record only when
the outbox took both. -/
def Asks (d : Deployment) (_ : Start) (h : Answers) : Op → Prop
  | .enqueue command => ∃ r, Claimed h r ∧ CommandOf d r command
  | .markProcessed tenantId ids => ∃ r, Claimed h r ∧ tenantId = r.tenantId ∧ ids = [r.id] ∧
      (∃ now grade, Took h (routingOf r now grade)) ∧
      ∃ now grade later, Took h (requestOf d r now grade later)
  | _ => True

theorem Claimed.grow {h h' : Answers} (grown : h <+: h') {r : SignalEventRecord}
    (claimed : Claimed h r) : Claimed h' r := by
  obtain ⟨tenantId, signalType, limit, claim, l, there, member⟩ := claimed
  exact ⟨tenantId, signalType, limit, claim, l, grown.subset there, member⟩

theorem Took.grow {h h' : Answers} (grown : h <+: h') {command : EnqueueOutboxEvent}
    (took : Took h command) : Took h' command := by
  obtain ⟨e, there⟩ := took
  exact ⟨e, grown.subset there⟩

section
variable {d : Deployment} {start : Start} {r : SignalEventRecord} {h : Answers}

theorem enqueueCommand_meets {command : EnqueueOutboxEvent} (claimed : Claimed h r)
    (made : CommandOf d r command) :
    Meets (Asks d start) (fun h' x => h <+: h' ∧ (x = .ok () → Took h' command)) h
      (enqueueCommand command).run := by
  refine meets_bind (Q := fun h' x => h <+: h' ∧ ∀ e, x = .ok e → Took h' command)
    (meets_perform ⟨r, claimed, made⟩ fun x => ⟨List.prefix_append h _, ?_⟩) ?_
  · rintro e rfl
    exact ⟨e, List.mem_append_right h (List.mem_singleton_self _)⟩
  · rintro h' x ⟨grown, took⟩
    cases x with
    | ok e => exact meets_pure ⟨grown, fun _ => took e rfl⟩
    | error e => exact meets_pure ⟨grown, by rintro ⟨⟩⟩

theorem gradeSignal_meets (input : IncomingSignal) :
    Meets (Asks d start) (fun h' _ => h <+: h') h (Signals.gradeSignal d input).run := by
  unfold Signals.gradeSignal
  split
  · exact meets_perform_bind trivial fun grade => meets_pure (List.prefix_append h _)
  · exact meets_pure List.prefix_rfl

/-- A route that returns has its event in the outbox. -/
theorem route_meets (claimed : Claimed h r) :
    Meets (Asks d start) (fun h' x => h <+: h' ∧ ∀ routed, x = .ok routed →
      ∃ now grade, routed = routedOf now (incomingSignal r) grade ∧ Took h' (routingOf r now grade)) h
      (route d (incomingSignal r)).run := by
  unfold route
  split
  · refine meets_attempt_bind (gradeSignal_meets (incomingSignal r)) ?_ ?_
    · intro h₁ grade grown
      refine meets_attempt_perform_bind trivial fun now => ?_
      have further : h <+: h₁ ++ [⟨.now, now⟩] := grown.trans (List.prefix_append h₁ _)
      dsimp only
      split
      · refine meets_attempt_bind (enqueueCommand_meets (claimed.grow further) (.routing now grade))
          ?_ ?_
        · rintro h₂ _ ⟨rest, took⟩
          refine meets_pure ⟨further.trans rest, ?_⟩
          rintro routed ⟨⟩
          exact ⟨now, grade, rfl, took rfl⟩
        · rintro h₂ e ⟨rest, _⟩
          exact ⟨further.trans rest, by rintro routed ⟨⟩⟩
      · exact meets_pure ⟨further, by rintro routed ⟨⟩⟩
    · exact fun h' e grown => ⟨grown, by rintro routed ⟨⟩⟩
  · exact meets_pure ⟨List.prefix_rfl, by rintro routed ⟨⟩⟩

theorem processSignal_meets (claimed : Claimed h r) :
    Meets (Asks d start) (fun _ _ => True) h (processSignal d r).run := by
  refine meets_attempt_bind (route_meets claimed) ?_ fun _ _ _ => trivial
  rintro h₁ routed ⟨grown, sent⟩
  obtain ⟨now, grade, rfl, took⟩ := sent routed rfl
  refine meets_attempt_perform_bind trivial fun later => ?_
  have further : h <+: h₁ ++ [⟨.now, later⟩] := grown.trans (List.prefix_append h₁ _)
  refine meets_attempt_bind
    (enqueueCommand_meets (claimed.grow further) (.request now grade later)) ?_ fun _ _ _ => trivial
  rintro h₂ _ ⟨rest, requested⟩
  refine meets_perform ⟨r, claimed.grow (further.trans rest), rfl, rfl, ?_, ?_⟩ fun _ => trivial
  · exact ⟨now, grade, took.grow ((List.prefix_append h₁ _).trans rest)⟩
  · exact ⟨now, grade, later, requested rfl⟩

theorem processClaimed_meets (w : SignalIngestionWorker) (result : SignalProcessingResult)
    (claimed : Claimed h r) :
    Meets (Asks d start) (fun _ _ => True) h (processClaimed d w result r) := by
  refine meets_bind (processSignal_meets claimed) fun h' x _ => ?_
  cases x with
  | ok _ => exact meets_pure trivial
  | error e => exact meets_perform_bind trivial fun _ => meets_pure trivial

theorem processType_meets (w : SignalIngestionWorker) (tenantId : String) (batchSize : Nat)
    (result : SignalProcessingResult) (signalType : SignalTypeValue) :
    Meets (Asks d start) (fun _ _ => True) h
      (processType d w tenantId batchSize result signalType) := by
  refine meets_perform_bind trivial fun signals => ?_
  refine meets_weaken (meets_foldlM signals
    (J := fun h' => ∀ r ∈ signals, Claimed h' r) ?_ ?_) fun _ _ _ => trivial
  · intro r member
    exact ⟨_, _, _, _, signals, List.mem_append_right h (List.mem_singleton_self _), member⟩
  · intro r member result' h' claimed
    refine meets_weaken (meets_grows (processClaimed_meets w result' (claimed r member))) ?_
    rintro h'' _ ⟨_, grown⟩ other there
    exact (claimed other there).grow grown

theorem program_meets (s : Start) :
    Meets (Asks d s) (fun _ _ => True) [] (processTenant d s.worker s.tenantId s.batchSize) := by
  refine meets_foldlM (J := fun _ => True) signalTypeValues trivial ?_
  intro signalType _ result h' _
  exact processType_meets s.worker s.tenantId s.batchSize result signalType

end

/-- The outbox holds the keys of a signal's two events. -/
structure Sent (d : Deployment) (o : InMemoryOutboxRepository) (r : SignalEventRecord) : Prop where
  routing : ∃ now grade, ∃ e ∈ o.events, SameKey e (routingOf r now grade)
  request : ∃ now grade later, ∃ e ∈ o.events, SameKey e (requestOf d r now grade later)

section
variable {d : Deployment} {op : Op} {w v : World} {a b : SignalEventRecord}

theorem routingOf_same (same : ingested a = ingested b) (now : Instant)
    (grade : Option SignalGrade) : routingOf a now grade = routingOf b now grade := by
  have equal := congrArg (routingOf · now grade) same
  exact equal

theorem requestOf_same (same : ingested a = ingested b) (now : Instant) (grade : Option SignalGrade)
    (later : Instant) : requestOf d a now grade later = requestOf d b now grade later := by
  have equal := congrArg (requestOf d · now grade later) same
  exact equal

theorem CommandOf.same (same : ingested a = ingested b) {c : EnqueueOutboxEvent}
    (h : CommandOf d a c) : CommandOf d b c := by
  cases h with
  | routing now grade => exact routingOf_same same now grade ▸ .routing now grade
  | request now grade later => exact requestOf_same same now grade later ▸ .request now grade later

theorem Sent.same {o : InMemoryOutboxRepository} (same : ingested a = ingested b)
    (h : Sent d o a) : Sent d o b := by
  obtain ⟨⟨now, grade, routed⟩, ⟨now', grade', later, requested⟩⟩ := h
  rw [routingOf_same same] at routed
  rw [requestOf_same same] at requested
  exact ⟨⟨now, grade, routed⟩, ⟨now', grade', later, requested⟩⟩

theorem Step.holds (step : Step op w v) {c : EnqueueOutboxEvent}
    (there : ∃ e ∈ w.outbox.events, SameKey e c) : ∃ e ∈ v.outbox.events, SameKey e c := by
  obtain ⟨e, member, tenant, type, key⟩ := there
  obtain ⟨new, stored, command⟩ := step.stays e member
  refine ⟨new, stored, ?_, ?_, ?_⟩
  · exact (congrArg EnqueueOutboxEvent.tenantId command).trans tenant
  · exact (congrArg EnqueueOutboxEvent.eventType command).trans type
  · exact (congrArg EnqueueOutboxEvent.idempotencyKey command).trans key

theorem Step.sent (step : Step op w v) (h : Sent d w.outbox a) : Sent d v.outbox a := by
  obtain ⟨⟨now, grade, routed⟩, ⟨now', grade', later, requested⟩⟩ := h
  exact ⟨⟨now, grade, step.holds routed⟩, ⟨now', grade', later, step.holds requested⟩⟩

/-- Commands are made of stored signals, so what the outbox holds still is. -/
theorem Accounted.step (h : Accounted d w) (step : Step op w v)
    (asked : ∀ c, op = .enqueue c → ∃ r ∈ w.signals.records, CommandOf d r c) : Accounted d v := by
  have origin : ∀ e ∈ v.outbox.events, ∃ r ∈ w.signals.records,
      CommandOf d r e.toEnqueueOutboxEvent := by
    intro e there
    rcases step.events e there with ⟨old, before, same⟩ | now
    · exact same ▸ h.stems old before
    · exact asked _ now
  refine ⟨step.ordered, step.consistent, fun e there => ?_⟩
  obtain ⟨r, stored, command⟩ := origin e there
  obtain ⟨new, present, same, _⟩ := step.kept r stored
  exact ⟨new, present, command.same same.symm⟩

theorem processed_step (step : Step op w v)
    (before : ∀ r ∈ w.signals.records, r.processedAt ≠ none → Sent d w.outbox r)
    (marked : ∀ r ∈ w.signals.records, marks op r → Sent d w.outbox r) :
    ∀ r ∈ v.signals.records, r.processedAt ≠ none → Sent d v.outbox r := by
  intro r there closed
  rcases step.origin r there with free | ⟨old, stored, same, mark⟩
  · exact absurd free closed
  · refine step.sent (Sent.same same ?_)
    by_cases free : old.processedAt = none
    · exact marked old stored (mark free)
    · exact before old stored free

end

abbrev Log := List (Machine.Entry Res WorkerError Start)

/-- Nothing came in yet. -/
def fresh (clock : Instant) : Faulty World := ⟨⟨clock, .empty, .empty, []⟩, []⟩

/-- A log the workers and the rest of the system can produce. -/
abbrev Explained (d : Deployment) (clock : Instant) (log : Log) : Prop :=
  Machine.Valid (machine d) (Asks d) (fun _ _ _ => True) (fresh clock) log

/-- The world a log leads to. -/
def after (d : Deployment) (clock : Instant) (log : Log) : World :=
  ((machine d).replay (fresh clock) log).state

/-- What a log says of the world it leads to. -/
structure Kept (d : Deployment) (log : Log) (w : World) : Prop where
  accounted : Accounted d w
  claimed : ∀ i s tenantId signalType limit claim l,
    .did (.worker i s) (.claimUnprocessed tenantId signalType limit claim) (.ok l) ∈ log →
      ∀ r ∈ l, ∃ stored ∈ w.signals.records, ingested stored = ingested r
  took : ∀ i s command e, .did (.worker i s) (.enqueue command) (.ok (.ok e)) ∈ log →
    ∃ e ∈ w.outbox.events, SameKey e command
  processed : ∀ r ∈ w.signals.records, r.processedAt ≠ none → Sent d w.outbox r

section
variable {d : Deployment} {clock : Instant} {log : Log} {w : World}

theorem Kept.of_claimed (h : Kept d log w) {i : Nat} {r : SignalEventRecord}
    (claimed : Claimed (Machine.history i log) r) :
    ∃ stored ∈ w.signals.records, ingested stored = ingested r := by
  obtain ⟨tenantId, signalType, limit, claim, l, there, member⟩ := claimed
  obtain ⟨s, entry⟩ := Machine.mem_history there
  exact h.claimed i s tenantId signalType limit claim l entry r member

theorem Kept.of_took (h : Kept d log w) {i : Nat} {command : EnqueueOutboxEvent}
    (took : Took (Machine.history i log) command) : ∃ e ∈ w.outbox.events, SameKey e command := by
  obtain ⟨e, there⟩ := took
  obtain ⟨s, entry⟩ := Machine.mem_history there
  exact h.took i s command e entry

/-- A record that a worker marks has its events in the outbox. -/
theorem Kept.marked (h : Kept d log w) {i : Nat} {s : Start} {tenantId : String} {ids : List Nat}
    (asked : Asks d s (Machine.history i log) (.markProcessed tenantId ids)) :
    ∀ r ∈ w.signals.records, marks (.markProcessed tenantId ids) r → Sent d w.outbox r := by
  obtain ⟨r, claimed, rfl, rfl, ⟨now, grade, routed⟩, ⟨now', grade', later, requested⟩⟩ := asked
  rintro old stored ⟨ids, same, member⟩
  obtain ⟨_, rfl⟩ := Op.markProcessed.inj same
  obtain ⟨r', stored', ingestedSame⟩ := h.of_claimed claimed
  have id : r'.id = old.id := (ingested_id ingestedSame).trans (List.mem_singleton.mp member).symm
  obtain rfl := h.accounted.ordered.same_id stored' stored id
  have sent : Sent d w.outbox r :=
    ⟨⟨now, grade, h.of_took routed⟩, ⟨now', grade', later, h.of_took requested⟩⟩
  exact sent.same ingestedSame.symm

theorem after_spawned (a : Log) (i : Nat) (s : Start) :
    after d clock (a ++ [.spawned i s]) = after d clock a := by
  unfold after
  rw [Machine.replay_snoc]
  rfl

/-- One more operation: the answer it got and the world it left. -/
theorem kept_did {actor : Machine.Actor Start} {op : Op} {x : Except WorkerError (Res op)}
    (explained : Explained d clock (log ++ [.did actor op x])) (h : Kept d log (after d clock log)) :
    Kept d (log ++ [.did actor op x]) (after d clock (log ++ [.did actor op x])) := by
  have sound : Sound (after d clock log) := ⟨h.accounted.ordered, h.accounted.consistent⟩
  have answered := explained.answered log [] actor op x rfl
  have world : after d clock (log ++ [.did actor op x]) =
      ((exec d op).run ((machine d).replay (fresh clock) log)).2.state := by
    unfold after
    rw [Machine.replay_snoc]
    rfl
  have step : Step op (after d clock log) (after d clock (log ++ [.did actor op x])) := by
    rw [world]
    exact exec_step op sound
  have asked : (∀ c, op = .enqueue c → ∃ r ∈ (after d clock log).signals.records, CommandOf d r c) ∧
      ∀ r ∈ (after d clock log).signals.records, marks op r → Sent d (after d clock log).outbox r := by
    cases actor with
    | worker i s =>
      obtain ⟨_, asks⟩ := explained.worked log [] i s op x rfl
      constructor
      · rintro c rfl
        obtain ⟨r, claimed, command⟩ := asks
        obtain ⟨stored, there, same⟩ := h.of_claimed claimed
        exact ⟨stored, there, command.same same.symm⟩
      · intro r there marked
        obtain ⟨ids, rfl, _⟩ := id marked
        exact h.marked asks r there marked
    | settled i s => exact absurd (explained.settled log [] i s op x rfl).2.1 (by rintro ⟨⟩)
    | outside =>
      have open_ := explained.outside log [] op x rfl
      constructor
      · rintro c rfl
        cases open_
      · rintro r there ⟨ids, rfl, _⟩
        cases open_
  refine ⟨h.accounted.step step asked.1, ?_, ?_, processed_step step h.processed asked.2⟩
  · intro i s tenantId signalType limit claim l member r taken
    obtain ⟨stored, there, same⟩ : ∃ stored ∈ (after d clock log).signals.records,
        ingested stored = ingested r := by
      rcases List.mem_append.mp member with before | now
      · exact h.claimed i s tenantId signalType limit claim l before r taken
      · cases List.mem_singleton.mp now
        exact claim_answer (d := d) sound l answered.symm r taken
    obtain ⟨new, present, kept, _⟩ := step.kept stored there
    exact ⟨new, present, kept.trans same⟩
  · intro i s command e member
    rcases List.mem_append.mp member with before | now
    · exact step.holds (h.took i s command e before)
    · cases List.mem_singleton.mp now
      rw [world]
      exact enqueue_answer (d := d) sound e answered.symm

theorem kept_log (explained : Explained d clock log) : Kept d log (after d clock log) := by
  refine Machine.Valid.rec_ (J := fun log => Kept d log (after d clock log)) ?_ ?_ explained
  · refine ⟨⟨empty_ordered, InMemoryOutboxRepository.empty_consistent, ?_⟩, ?_, ?_, ?_⟩
    · rintro e ⟨⟩
    · rintro i s tenantId signalType limit claim l ⟨⟩
    · rintro i s command e ⟨⟩
    · rintro r ⟨⟩
  · intro a e explained h
    cases e with
    | spawned i s =>
      rw [after_spawned]
      refine ⟨h.accounted, ?_, ?_, h.processed⟩
      · intro j t tenantId signalType limit claim l member
        exact h.claimed j t tenantId signalType limit claim l (by simpa using member)
      · intro j t command e member
        exact h.took j t command e (by simpa using member)
    | did actor op x => exact kept_did explained h

end

theorem Accounted.exactly_once {d : Deployment} {w : World} (h : Accounted d w)
    {r : SignalEventRecord} (stored : r ∈ w.signals.records)
    (sent : r.processedAt ≠ none → Sent d w.outbox r) : ExactlyOnce w.outbox r := by
  refine ⟨h.single routing_kind stored, h.single request_kind stored, ?_, ?_⟩
  · intro e member
    obtain ⟨_, command, keyed⟩ := h.keyed request_kind stored member
    have kind := (List.mem_filter.mp member).2
    generalize e.toEnqueueOutboxEvent = c at command kind ⊢
    cases command with
    | routing now grade => cases kind
    | request now grade later => exact request_addressee now grade later
  · intro closed
    obtain ⟨⟨now, grade, routed⟩, ⟨now', grade', later, requested⟩⟩ := sent closed
    exact ⟨h.present routing_kind stored (routing_keyed now grade) routed,
      h.present request_kind stored (request_keyed now' grade' later) requested⟩

/-- Whatever the schedule, the faults and the grades, a signal has at most one
event of either kind, and exactly one of both once it is processed. -/
theorem pipeline_exactly_once (d : Deployment) (clock : Instant)
    (labels : List (Machine.Label Op Start)) :
    ∀ r ∈ (runs (machine d).step (Machine.initial (fresh clock)) labels).state.state.signals.records,
      ExactlyOnce (runs (machine d).step (Machine.initial (fresh clock)) labels).state.state.outbox r := by
  have specified : ∀ w s p, (machine d).program w s = some p →
      Meets (Asks d s) (fun _ _ => True) [] p := by
    rintro w s p ⟨⟩
    exact program_meets s
  obtain ⟨explained, led⟩ : Explained d clock _ ∧ _ = (machine d).replay (fresh clock) _ :=
    Machine.runs_valid specified labels
  have kept := kept_log explained
  intro r stored
  rw [led] at stored ⊢
  exact kept.accounted.exactly_once stored (kept.processed r stored)

/-- A market signal comes in and one worker takes it through. -/
def watched : List (Machine.Label Op Start) :=
  .outside (.ingest ⟨"00000000-0000-4000-8000-000000000001", .market, "market.watch", none,
    [("kind", .str "market.update")]⟩) ::
  .spawn ⟨⟨"signal-router:1", 60000⟩, "00000000-0000-4000-8000-000000000001", 3⟩ ::
    List.replicate 20 (.run 0)

def ungraded : Deployment where
  sha256 _ := "0f".pushn 'a' 62

theorem watched_once :
    ∃ r ∈ (runs (machine ungraded).step (Machine.initial (fresh 0)) watched).state.state.signals.records,
      r.processedAt ≠ none ∧
        ExactlyOnce (runs (machine ungraded).step (Machine.initial (fresh 0)) watched).state.state.outbox
          r := by
  have closed : (runs (machine ungraded).step (Machine.initial (fresh 0))
      watched).state.state.signals.records.any (·.processedAt.isSome) = true := by
    decide +kernel
  obtain ⟨r, stored, processed⟩ := List.any_eq_true.mp closed
  refine ⟨r, stored, ?_, pipeline_exactly_once ungraded 0 watched r stored⟩
  exact Option.isSome_iff_ne_none.mp processed

end VantGrowth.Proofs.SignalPipeline
