import VantGrowth.Db.ExternalActionsRepository

namespace VantGrowth.Proofs.ActionEffects
open Db Db.InMemoryExternalActionsRepository Lib Lib.Text

/-- The outbox event type that reports a terminal state. -/
def outcomeEventType : ExternalActionState → Option String
  | .completed => some "external_action.completed.v1"
  | .failed => some "external_action.failed.v1"
  | _ => none

def isOutcomeType (eventType : String) : Bool :=
  eventType == "external_action.completed.v1" || eventType == "external_action.failed.v1"

def outcomes (r : InMemoryExternalActionsRepository) : List StoredOutboxEvent :=
  r.outboxRepository.events.filter fun e => isOutcomeType e.eventType

/-- The event was emitted for the action with this id, under a key that names
the action too. -/
def RefersTo (id : String) (c : EnqueueOutboxEvent) : Prop :=
  c.payload.text "external_action_id" = some id ∧
    ∃ rest, c.idempotencyKey = join "external-action" (join id rest)

def startedKey (attempt : Nat) : String := join "dispatch_started" (decimal attempt)

/-- Events that neither request nor start a dispatch, nor hold the key of one
that does. -/
def Passing (e : ExternalActionEventRecord) : Prop :=
  e.eventType ≠ "requested" ∧ e.eventType ≠ "dispatch_started" ∧
    ∀ x, e.eventKey ≠ join "dispatch_started" x

structure Shape (a : ExternalActionRecord) : Prop where
  owner : a.dispatchLeaseOwner.isSome = true ↔ a.state = .dispatching
  expiry : a.dispatchLeaseExpiresAt.isSome = true ↔ a.state = .dispatching
  retry : a.nextRetryAt.isSome = true ↔ a.state = .retry_scheduled

/-- Ledger, counters and lookup tables outside the outbox are as they were. -/
structure Frame (r t : InMemoryExternalActionsRepository) : Prop where
  actions : t.actionsById = r.actionsById
  ledgers : ∀ i, t.ledger i = r.ledger i
  sequence : r.sequence ≤ t.sequence

theorem Frame.refl (r : InMemoryExternalActionsRepository) : Frame r r :=
  ⟨rfl, fun _ => rfl, Nat.le_refl _⟩

/-- A stored action is rewritten and its ledger extended. -/
structure Rewrites (a a' : ExternalActionRecord) (added : List ExternalActionEventRecord)
    (r t : InMemoryExternalActionsRepository) : Prop where
  actions : t.actionsById = r.actionsById.set a.id a'
  ledgers : ∀ i, t.ledger i = if i = a.id then r.ledger i ++ added else r.ledger i
  sequence : r.sequence ≤ t.sequence

/-- What one transition may append to the ledger of `a` as it becomes `a'`. -/
def Appends (a a' : ExternalActionRecord) (added : List ExternalActionEventRecord) : Prop :=
  (a'.dispatchAttempts = a.dispatchAttempts ∧ ∀ e ∈ added, Passing e) ∨
    (a'.dispatchAttempts = a.dispatchAttempts + 1 ∧ ∃ e, added = [e] ∧
      e.eventType = "dispatch_started" ∧ e.eventKey = startedKey a'.dispatchAttempts)

/-- The outcome event a transition into `a'` emits, if it is one that settles
the action. -/
def Emits (a' : ExternalActionRecord) (emitted : List StoredOutboxEvent) : Prop :=
  match outcomeEventType a'.state with
  | none => emitted = []
  | some eventType => ∃ e, emitted = [e] ∧ e.eventType = eventType ∧
      RefersTo a'.id e.toEnqueueOutboxEvent

/-- Everything a call can do to the store. -/
inductive Effect (r t : InMemoryExternalActionsRepository) : Prop where
  | kept (frame : Frame r t) (outbox : t.outboxRepository.Consistent)
      (quiet : outcomes t = outcomes r)
  | requested (a : ExternalActionRecord) (e : ExternalActionEventRecord)
      (id : a.id = idText (r.sequence + 1)) (later : r.sequence < t.sequence)
      (tenant : isUuid a.tenantId = true) (state : a.state = .requested) (shape : Shape a)
      (attempts : a.dispatchAttempts = 0) (rewrites : Rewrites a a [e] r t)
      (eventType : e.eventType = "requested") (eventKey : ∃ x, e.eventKey = join "requested" x)
      (outbox : t.outboxRepository.Consistent) (quiet : outcomes t = outcomes r)
  | moved (a a' : ExternalActionRecord) (added : List ExternalActionEventRecord)
      (emitted : List StoredOutboxEvent) (stored : r.actionsById.get a.id = some a)
      (running : outcomeEventType a.state = none) (id : a'.id = a.id)
      (tenant : a'.tenantId = a.tenantId) (shape : Shape a')
      (rewrites : Rewrites a a' added r t) (appends : Appends a a' added)
      (outbox : t.outboxRepository.Consistent) (emits : Emits a' emitted)
      (loud : outcomes t = outcomes r ++ emitted)

/-- The append-only step of one ledger: either an event of that key was there
or one is added at the end. -/
structure Logged (id eventKey eventType : String) (added : List ExternalActionEventRecord)
    (r t : InMemoryExternalActionsRepository) : Prop where
  actions : t.actionsById = r.actionsById
  ledgers : ∀ i, t.ledger i = if i = id then r.ledger i ++ added else r.ledger i
  sequence : r.sequence ≤ t.sequence
  outbox : t.outboxRepository = r.outboxRepository
  event : (added = [] ∧ ∃ e ∈ r.ledger id, e.eventKey = eventKey) ∨
    ∃ e, added = [e] ∧ e.eventKey = eventKey ∧ e.eventType = eventType

theorem ledger_set (r : InMemoryExternalActionsRepository) (id : String)
    (es : List ExternalActionEventRecord) (i : String) :
    ({ r with eventsByActionId := r.eventsByActionId.set id es } :
      InMemoryExternalActionsRepository).ledger i = if i = id then es else r.ledger i := by
  simp only [ledger, InsertionMap.get_set]
  split <;> rfl

theorem newId_bind {r : InMemoryExternalActionsRepository} {g : String → ActionStore α}
    {Q : Except DbError α → InMemoryExternalActionsRepository → Prop}
    (h : (g (idText (r.sequence + 1))).Ends { r with sequence := r.sequence + 1 } Q) :
    (newId >>= g).Ends r Q := by
  refine Store.Ends.bind (R := fun x t => x = .ok (idText (r.sequence + 1)) ∧
    t = { r with sequence := r.sequence + 1 }) ⟨rfl, rfl⟩ ?_ ?_
  · rintro e t ⟨he, _⟩
    cases he
  · rintro id t ⟨hid, rfl⟩
    cases hid
    exact h

theorem append_ends {r : InMemoryExternalActionsRepository} {a : ExternalActionRecord}
    {eventKey eventType : String} (now : Instant) (payload : Payload)
    (tenant : isUuid a.tenantId = true) (hk : eventKey ≠ "") (ht : eventType ≠ "") :
    (appendEvent now a eventKey eventType payload).Ends r fun x t =>
      x = .ok () ∧ ∃ added, Logged a.id eventKey eventType added r t := by
  refine Store.Ends.read_bind (Store.Ends.ite ?_ ?_)
  · intro hm
    obtain ⟨e, he, hek⟩ := List.any_eq_true.mp hm
    refine Store.Ends.pure ⟨rfl, [], rfl, ?_, Nat.le_refl _, rfl, Or.inl ⟨rfl, e, he, ?_⟩⟩
    · simp
    · simpa using hek
  · intro _
    refine newId_bind (Store.Ends.require_bind ?_ ?_)
    · intro refused
      exact absurd (by simp [eventRecord, externalActionEventRecordSchema, tenant, hk, ht]) refused
    · intro _
      let event := eventRecord (idText (r.sequence + 1)) now a eventKey eventType payload
      refine ⟨rfl, [event], rfl, ?_, Nat.le_succ _, rfl, Or.inr ⟨event, rfl, rfl, rfl⟩⟩
      intro i
      refine (ledger_set _ a.id _ i).trans ?_
      by_cases hi : i = a.id
      · simp only [hi, ↓reduceIte, event]
      · simp only [hi, ↓reduceIte, ledger]

theorem find_ends {r : InMemoryExternalActionsRepository} (identity : DispatchIdentity) :
    (find identity).Ends r fun x t => t = r ∧
      ∀ a, x = .ok a → ∃ i, r.actionsById.get i = some a := by
  refine Store.Ends.read_bind ?_
  cases hl : r.lookup identity.tenantId identity.actionId with
  | none => exact Store.Ends.throw ⟨rfl, by simp⟩
  | some a =>
    obtain ⟨i, _, hi⟩ := Option.bind_eq_some_iff.mp hl
    refine Store.Ends.require_bind (fun _ => ⟨rfl, by simp⟩) (fun _ => ?_)
    refine Store.Ends.pure ⟨rfl, ?_⟩
    intro b hb
    cases hb
    exact ⟨i, hi⟩

/-- Only the outbox changed, by this command. -/
structure Sent (command : EnqueueOutboxEvent) (r t : InMemoryExternalActionsRepository) :
    Prop where
  frame : Frame r t
  sends : InMemoryOutboxRepository.Sends command r.outboxRepository t.outboxRepository

theorem Sent.outbox {r t : InMemoryExternalActionsRepository} (sent : Sent command r t) :
    t.outboxRepository.Consistent := sent.sends.consistent

theorem enqueue_ends {r : InMemoryExternalActionsRepository} (now : Instant)
    {command : EnqueueOutboxEvent} (h : r.outboxRepository.Consistent)
    (valid : command.valid = true) :
    (enqueue now command).Ends r fun x t => (∃ e, x = .ok e) ∧ Sent command r t := by
  refine Store.Ends.zoom (InMemoryOutboxRepository.enqueue_sends h now valid) ?_
  rintro x o ⟨answered, sends⟩
  exact ⟨answered, ⟨rfl, fun _ => rfl, Nat.le_refl _⟩, sends⟩

/-- Exactly one request event, and the started events of attempts one to the
current count in order. No other event holds the key of a start. -/
structure LedgerSound (es : List ExternalActionEventRecord) (attempts : Nat) : Prop where
  requested : (es.filter (·.eventType == "requested")).length = 1
  started : (es.filter (·.eventType == "dispatch_started")).map (·.eventKey) =
    (List.range attempts).map fun n => startedKey (n + 1)
  tagged : ∀ e ∈ es, ∀ x, e.eventKey = join "dispatch_started" x →
    e.eventType = "dispatch_started"

/-- What every sequence of calls preserves. -/
structure Sound (r : InMemoryExternalActionsRepository) : Prop where
  outbox : r.outboxRepository.Consistent
  identity : ∀ i a, r.actionsById.get i = some a →
    a.id = i ∧ isUuid a.tenantId = true ∧ ∃ n ≤ r.sequence, i = idText n
  vacant : ∀ i, r.actionsById.get i = none → r.ledger i = []
  shapes : ∀ i a, r.actionsById.get i = some a → Shape a
  ledgers : ∀ i a, r.actionsById.get i = some a → LedgerSound (r.ledger i) a.dispatchAttempts
  owned : ∀ e ∈ outcomes r, ∃ a, r.actionsById.get a.id = some a ∧
    outcomeEventType a.state = some e.eventType ∧ RefersTo a.id e.toEnqueueOutboxEvent
  reported : ∀ i a eventType, r.actionsById.get i = some a →
    outcomeEventType a.state = some eventType →
    ∃ e, (outcomes r).filter (fun d => d.payload.text "external_action_id" == some i) = [e]

theorem idPrefix_no_colon : ':' ∉ idPrefix.toList := by decide

theorem idText_no_colon (n : Nat) : ':' ∉ (idText n).toList := by
  intro h
  rw [idText, String.toList_append] at h
  rcases List.mem_append.mp h with hp | hd
  · exact idPrefix_no_colon hp
  · exact absurd (padStart_digits hd) (by decide)

theorem idText_inj {m n : Nat} (h : idText m = idText n) : m = n := by
  have hl := congrArg String.toList h
  rw [idText, idText, String.toList_append, String.toList_append] at hl
  exact padStart_inj (String.toList_inj.mp (List.append_cancel_left hl))

theorem Sound.fresh {r : InMemoryExternalActionsRepository} (h : Sound r) :
    r.actionsById.get (idText (r.sequence + 1)) = none := by
  cases hg : r.actionsById.get (idText (r.sequence + 1)) with
  | none => rfl
  | some a =>
    obtain ⟨_, _, n, hn, hid⟩ := h.identity _ a hg
    have := idText_inj hid
    omega

/-- No outcome of a running action has been sent under any key that names it. -/
theorem Sound.unsent {r : InMemoryExternalActionsRepository} (h : Sound r)
    {a : ExternalActionRecord} (stored : r.actionsById.get a.id = some a)
    (running : outcomeEventType a.state = none) {command : EnqueueOutboxEvent}
    (outcome : isOutcomeType command.eventType = true)
    (key : ∃ rest, command.idempotencyKey = join "external-action" (join a.id rest)) :
    ∀ e ∈ r.outboxRepository.events, ¬ InMemoryOutboxRepository.SameKey e command := by
  intro e he same
  have hout : e ∈ outcomes r := by
    refine List.mem_filter.mpr ⟨he, ?_⟩
    simpa only [same.2.1] using outcome
  obtain ⟨b, hb, hstate, _, rest', hkey'⟩ := h.owned e hout
  obtain ⟨rest, hkey⟩ := key
  obtain ⟨_, _, n, _, hn⟩ := h.identity a.id a stored
  obtain ⟨_, _, m, _, hm⟩ := h.identity b.id b hb
  have hjoin : join a.id rest = join b.id rest' :=
    join_right_inj (hkey.symm.trans (same.2.2.symm.trans hkey'))
  have hid : a.id = b.id :=
    (join_inj (hn ▸ idText_no_colon n) (hm ▸ idText_no_colon m) hjoin).1
  rw [← hid, stored] at hb
  cases hb
  rw [running] at hstate
  cases hstate

/-- While an action runs, every outcome event belongs to another one. -/
theorem Sound.unclaimed {r : InMemoryExternalActionsRepository} (h : Sound r)
    {a : ExternalActionRecord} (stored : r.actionsById.get a.id = some a)
    (running : outcomeEventType a.state = none) : ∀ e ∈ outcomes r, ∃ b,
      b.id ≠ a.id ∧ r.actionsById.get b.id = some b ∧
      outcomeEventType b.state = some e.eventType ∧ RefersTo b.id e.toEnqueueOutboxEvent := by
  intro e he
  obtain ⟨b, hb, hstate, hrefers⟩ := h.owned e he
  refine ⟨b, ?_, hb, hstate, hrefers⟩
  intro hid
  rw [hid, stored] at hb
  cases hb
  rw [running] at hstate
  cases hstate

theorem Sent.quiet {r t : InMemoryExternalActionsRepository} {command : EnqueueOutboxEvent}
    (sent : Sent command r t) (other : isOutcomeType command.eventType = false) :
    outcomes t = outcomes r := by
  rcases sent.sends.events with ⟨same, _⟩ | ⟨e, grown, he, _⟩
  · unfold outcomes
    rw [same]
  · unfold outcomes
    rw [grown, List.filter_append, List.filter_singleton]
    have hq : isOutcomeType e.eventType = false := by rw [← other, ← he]
    simp [hq]

theorem Sent.loud {r t : InMemoryExternalActionsRepository} {command : EnqueueOutboxEvent}
    (sent : Sent command r t) (outcome : isOutcomeType command.eventType = true)
    (unsent : ∀ e ∈ r.outboxRepository.events, ¬ InMemoryOutboxRepository.SameKey e command) :
    ∃ e, outcomes t = outcomes r ++ [e] ∧ e.toEnqueueOutboxEvent = command := by
  rcases sent.sends.events with ⟨_, e, he, same⟩ | ⟨e, grown, he, _⟩
  · exact absurd same (unsent e he)
  · refine ⟨e, ?_, he⟩
    unfold outcomes
    rw [grown, List.filter_append, List.filter_singleton]
    have hl : isOutcomeType e.eventType = true := by rw [← outcome, ← he]
    simp [hl]

theorem save_bind {r : InMemoryExternalActionsRepository} {a : ExternalActionRecord}
    {g : ExternalActionRecord → ActionStore α}
    {Q : Except DbError α → InMemoryExternalActionsRepository → Prop}
    (h : (g a).Ends { r with actionsById := r.actionsById.set a.id a } Q) :
    (save a >>= g).Ends r Q := h

theorem append_bind {r : InMemoryExternalActionsRepository} {a : ExternalActionRecord}
    {eventKey eventType : String} {now : Instant} {payload : Payload} {g : Unit → ActionStore α}
    {Q : Except DbError α → InMemoryExternalActionsRepository → Prop}
    (tenant : isUuid a.tenantId = true) (hk : eventKey ≠ "") (ht : eventType ≠ "")
    (next : ∀ added t, Logged a.id eventKey eventType added r t → (g ()).Ends t Q) :
    (appendEvent now a eventKey eventType payload >>= g).Ends r Q := by
  refine Store.Ends.bind (append_ends now payload tenant hk ht) ?_ ?_
  · rintro e t ⟨he, _⟩
    cases he
  · rintro ⟨⟩ t ⟨_, added, logged⟩
    exact next added t logged

theorem enqueue_bind {r : InMemoryExternalActionsRepository} {now : Instant}
    {command : EnqueueOutboxEvent} {g : StoredOutboxEvent → ActionStore α}
    {Q : Except DbError α → InMemoryExternalActionsRepository → Prop}
    (h : r.outboxRepository.Consistent) (valid : command.valid = true)
    (next : ∀ e t, Sent command r t → (g e).Ends t Q) :
    (enqueue now command >>= g).Ends r Q := by
  refine Store.Ends.bind (enqueue_ends now h valid) ?_ ?_
  · rintro e t ⟨⟨d, he⟩, _⟩
    cases he
  · rintro e t ⟨_, sent⟩
    exact next e t sent

theorem Frame.trans {r s t : InMemoryExternalActionsRepository} (h : Frame r s) (k : Frame s t) :
    Frame r t :=
  ⟨k.actions.trans h.actions, fun i => (k.ledgers i).trans (h.ledgers i),
    Nat.le_trans h.sequence k.sequence⟩

theorem Rewrites.frame {r s t : InMemoryExternalActionsRepository} (h : Rewrites a a' added r s)
    (k : Frame s t) : Rewrites a a' added r t :=
  ⟨k.actions.trans h.actions, fun i => (k.ledgers i).trans (h.ledgers i),
    Nat.le_trans h.sequence k.sequence⟩

theorem Logged.rewrites {r t : InMemoryExternalActionsRepository} (a : ExternalActionRecord)
    (logged : Logged a'.id eventKey eventType added
      { r with actionsById := r.actionsById.set a'.id a' } t) (id : a'.id = a.id) : Rewrites a a' added r t := by
  refine ⟨id ▸ logged.actions, ?_, logged.sequence⟩
  intro i
  rw [← id]
  exact logged.ledgers i

theorem Logged.passing {r t : InMemoryExternalActionsRepository} {id tag rest : String}
    (logged : Logged id (join tag rest) eventType added r t) (tagged : ':' ∉ tag.toList)
    (other : tag ≠ "dispatch_started") (hr : eventType ≠ "requested")
    (hs : eventType ≠ "dispatch_started") : ∀ e ∈ added, Passing e := by
  rcases logged.event with ⟨rfl, _⟩ | ⟨e, rfl, hkey, htype⟩
  · simp
  · intro d hd
    rw [List.mem_singleton.mp hd]
    refine ⟨htype ▸ hr, htype ▸ hs, ?_⟩
    intro x hx
    exact other (join_inj tagged (by decide) (hkey.symm.trans hx)).1

theorem startedKey_inj {m n : Nat} (h : startedKey m = startedKey n) : m = n :=
  decimal_inj (join_right_inj h)

/-- The next attempt has no started event yet. -/
theorem LedgerSound.unstarted {es : List ExternalActionEventRecord} {attempts : Nat}
    (h : LedgerSound es attempts) : ∀ e ∈ es, e.eventKey ≠ startedKey (attempts + 1) := by
  intro e he hkey
  have htype := h.tagged e he _ hkey
  have hm : startedKey (attempts + 1) ∈
      (es.filter (·.eventType == "dispatch_started")).map (·.eventKey) :=
    List.mem_map.mpr ⟨e, List.mem_filter.mpr ⟨he, by simp [htype]⟩, hkey⟩
  rw [h.started] at hm
  obtain ⟨n, hn, hk⟩ := List.mem_map.mp hm
  have := startedKey_inj hk
  have := List.mem_range.mp hn
  omega

end VantGrowth.Proofs.ActionEffects
