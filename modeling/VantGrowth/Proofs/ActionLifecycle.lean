import VantGrowth.Proofs.ActionOperations

namespace VantGrowth.Proofs.ActionLifecycle
open Db Db.InMemoryExternalActionsRepository Lib Lib.Text ActionEffects ActionOperations

theorem dispatch_valid {request : ExternalActionRequest}
    (h : externalActionRequestSchema request = true) : (dispatchCommand request).valid = true := by
  simp only [externalActionRequestSchema, idempotencyKeySchema, Bool.and_eq_true,
    decide_eq_true_eq] at h
  obtain ⟨⟨⟨⟨tenant, _⟩, _⟩, _⟩, filled, _⟩ := h
  have type : isOutboxEventType externalActionOutboxEventType = true := by decide
  have hne : request.idempotencyKey ≠ "" := by
    intro he
    rw [he] at filled
    exact absurd filled (by decide)
  simp [EnqueueOutboxEvent.valid, dispatchCommand, tenant, type, hne]

theorem dispatch_quiet {r t : InMemoryExternalActionsRepository} {request : ExternalActionRequest}
    (sent : Sent (dispatchCommand request) r t) : outcomes t = outcomes r :=
  sent.quiet (by simp [dispatchCommand, externalActionOutboxEventType, isOutcomeType])

theorem request_effect {r : InMemoryExternalActionsRepository} (h : Sound r)
    (digest : ExternalActionRequest → String) (clock : Clock) (request : ExternalActionRequest) :
    (enqueueRequested digest clock request).Ends r fun _ t => Effect r t := by
  refine Store.Ends.require_bind (fun _ => kept h) fun valid => ?_
  refine Store.Ends.read_bind (Store.Ends.read_bind ?_)
  split
  · rename_i existingId _
    refine Store.Ends.read_bind ?_
    split
    · exact Store.Ends.throw (kept h)
    · refine Store.Ends.require_bind (fun _ => kept h) fun _ => ?_
      refine enqueue_bind h.outbox (dispatch_valid valid) fun _ t sent => ?_
      exact Store.Ends.pure (.kept sent.frame sent.outbox (dispatch_quiet sent))
  · have counted : Effect r { r with sequence := r.sequence + 1 } :=
      .kept ⟨rfl, fun _ => rfl, Nat.le_succ _⟩ h.outbox rfl
    refine newId_bind (Store.Ends.require_bind (fun _ => counted) fun _ => ?_)
    generalize ha : requestedAction request (idText (r.sequence + 1)) (digest request) (clock 0) = a
    have tenant : isUuid a.tenantId = true := by
      rw [← ha]
      simp only [externalActionRequestSchema, Bool.and_eq_true] at valid
      exact valid.1.1.1.1
    have id : a.id = idText (r.sequence + 1) := by rw [← ha]; rfl
    have state : a.state = .requested := by rw [← ha]; rfl
    have attempts : a.dispatchAttempts = 0 := by rw [← ha]; rfl
    have shape : Shape a := by
      rw [← ha]
      exact ⟨by simp [requestedAction], by simp [requestedAction], by simp [requestedAction]⟩
    refine save_bind (Store.Ends.modify_bind ?_)
    refine append_bind tenant (join_ne_empty _ _) (by decide) fun added s logged => ?_
    have consistent : s.outboxRepository.Consistent := logged.outbox ▸ h.outbox
    refine enqueue_bind consistent (dispatch_valid valid) fun _ t sent => ?_
    have empty : r.ledger a.id = [] := h.vacant _ (id ▸ h.fresh)
    rcases logged.event with ⟨_, e, he, _⟩ | ⟨e, rfl, hkey, htype⟩
    · have hm : e ∈ r.ledger a.id := he
      rw [empty] at hm
      cases hm
    · have rewrites : Rewrites a a [e] r s :=
        ⟨logged.actions, logged.ledgers, Nat.le_of_succ_le logged.sequence⟩
      refine Store.Ends.pure (.requested a e id ?_ tenant state shape attempts
        (rewrites.frame sent.frame) htype ⟨_, hkey⟩ sent.outbox ?_)
      · exact Nat.lt_of_lt_of_le logged.sequence sent.frame.sequence
      · rw [dispatch_quiet sent]
        unfold outcomes
        rw [logged.outbox]

/-- The mutating calls, each with the clock it reads. -/
inductive Operation where
  | enqueueRequested (clock : Clock) (request : ExternalActionRequest)
  | claimDispatch (clock : Clock) (input : ClaimExternalActionDispatch)
  | recordDispatchAccepted (clock : Clock) (input : RecordDispatchAcceptedInput)
  | scheduleDispatchRetry (clock : Clock) (input : ScheduleDispatchRetryInput)
  | failDispatch (clock : Clock) (input : FailExternalActionDispatchInput)
  | recordOutcome (clock : Clock) (input : RecordExternalActionOutcome)

/-- The store a call leaves, whether it returned or threw. -/
def perform (digest : ExternalActionRequest → String) (r : InMemoryExternalActionsRepository) :
    Operation → InMemoryExternalActionsRepository
  | .enqueueRequested clock request => ((enqueueRequested digest clock request).run r).2
  | .claimDispatch clock input => ((claimDispatch clock input).run r).2
  | .recordDispatchAccepted clock input => ((recordDispatchAccepted clock input).run r).2
  | .scheduleDispatchRetry clock input => ((scheduleDispatchRetry clock input).run r).2
  | .failDispatch clock input => ((failDispatch clock input).run r).2
  | .recordOutcome clock input => ((recordOutcome clock input).run r).2

theorem perform_effect (digest : ExternalActionRequest → String)
    {r : InMemoryExternalActionsRepository} (h : Sound r) (op : Operation) :
    Effect r (perform digest r op) := by
  cases op with
  | enqueueRequested clock request => exact request_effect h digest clock request
  | claimDispatch clock input => exact claim_effect h clock input
  | recordDispatchAccepted clock input => exact accept_effect h clock input
  | scheduleDispatchRetry clock input => exact retry_effect h clock input
  | failDispatch clock input => exact fail_effect h clock input
  | recordOutcome clock input => exact outcome_effect h clock input

theorem ledger_appends {a b : ExternalActionRecord} {es added : List ExternalActionEventRecord}
    (h : LedgerSound es a.dispatchAttempts) (appends : Appends a b added) :
    LedgerSound (es ++ added) b.dispatchAttempts := by
  rcases appends with ⟨same, passing⟩ | ⟨next, e, rfl, htype, hkey⟩
  · have noRequest : added.filter (·.eventType == "requested") = [] :=
      List.filter_eq_nil_iff.mpr fun e he => by simpa using (passing e he).1
    have noStart : added.filter (·.eventType == "dispatch_started") = [] :=
      List.filter_eq_nil_iff.mpr fun e he => by simpa using (passing e he).2.1
    refine ⟨?_, ?_, ?_⟩
    · rw [List.filter_append, noRequest, List.append_nil]
      exact h.requested
    · rw [List.filter_append, noStart, List.append_nil, same]
      exact h.started
    · intro e he x hx
      rcases List.mem_append.mp he with he | he
      · exact h.tagged e he x hx
      · exact absurd hx ((passing e he).2.2 x)
  · refine ⟨?_, ?_, ?_⟩
    · rw [List.filter_append]
      simpa [htype] using h.requested
    · rw [List.filter_append, List.map_append, h.started, next, List.range_succ, List.map_append]
      simp [htype, hkey, next]
    · intro d hd x hx
      rcases List.mem_append.mp hd with hd | hd
      · exact h.tagged d hd x hx
      · rw [List.mem_singleton.mp hd]
        exact htype

theorem request_ledger {e : ExternalActionEventRecord} (htype : e.eventType = "requested")
    (hkey : ∃ x, e.eventKey = join "requested" x) : LedgerSound [e] 0 := by
  obtain ⟨rest, hrest⟩ := hkey
  refine ⟨by simp [htype], by simp [htype], ?_⟩
  intro d hd x hx
  rw [List.mem_singleton.mp hd, hrest] at hx
  exact absurd (join_inj (by decide) (by decide) hx).1 (by decide)

theorem kept_sound {r t : InMemoryExternalActionsRepository} (h : Sound r) (frame : Frame r t)
    (outbox : t.outboxRepository.Consistent) (quiet : outcomes t = outcomes r) : Sound t := by
  obtain ⟨actions, ledgers, sequence⟩ := frame
  refine ⟨outbox, ?_, ?_, ?_, ?_, ?_, ?_⟩
  · intro i a ha
    rw [actions] at ha
    obtain ⟨hid, tenant, n, hn, hi⟩ := h.identity i a ha
    exact ⟨hid, tenant, n, Nat.le_trans hn sequence, hi⟩
  · intro i hi
    rw [actions] at hi
    rw [ledgers, h.vacant i hi]
  · intro i a ha
    rw [actions] at ha
    exact h.shapes i a ha
  · intro i a ha
    rw [actions] at ha
    rw [ledgers]
    exact h.ledgers i a ha
  · rw [quiet, actions]
    exact h.owned
  · rw [quiet, actions]
    exact h.reported

theorem requested_sound {r t : InMemoryExternalActionsRepository} {a : ExternalActionRecord}
    {e : ExternalActionEventRecord} (h : Sound r) (id : a.id = idText (r.sequence + 1))
    (later : r.sequence < t.sequence) (tenant : isUuid a.tenantId = true)
    (state : a.state = .requested) (shape : Shape a) (attempts : a.dispatchAttempts = 0)
    (rewrites : Rewrites a a [e] r t) (htype : e.eventType = "requested")
    (hkey : ∃ x, e.eventKey = join "requested" x) (outbox : t.outboxRepository.Consistent)
    (quiet : outcomes t = outcomes r) : Sound t := by
  have fresh : r.actionsById.get a.id = none := id ▸ h.fresh
  have get : ∀ i, t.actionsById.get i = if i = a.id then some a else r.actionsById.get i := by
    intro i
    rw [rewrites.actions, InsertionMap.get_set]
  refine ⟨outbox, ?_, ?_, ?_, ?_, ?_, ?_⟩
  · intro i b hb
    rw [get] at hb
    split at hb
    · rename_i hi
      cases hb
      exact ⟨hi.symm, tenant, r.sequence + 1, later, hi.trans id⟩
    · obtain ⟨hid, ht, n, hn, hi⟩ := h.identity i b hb
      exact ⟨hid, ht, n, by omega, hi⟩
  · intro i hi
    rw [get] at hi
    rw [rewrites.ledgers]
    split at hi
    · cases hi
    · rw [if_neg ‹_›, h.vacant i hi]
  · intro i b hb
    rw [get] at hb
    split at hb
    · cases hb
      exact shape
    · exact h.shapes i b hb
  · intro i b hb
    rw [get] at hb
    rw [rewrites.ledgers]
    split at hb
    · rename_i hi
      cases hb
      rw [if_pos hi, hi, h.vacant _ fresh, attempts]
      exact request_ledger htype hkey
    · rw [if_neg ‹_›]
      exact h.ledgers i b hb
  · intro d hd
    rw [quiet] at hd
    obtain ⟨b, hb, rest⟩ := h.owned d hd
    have hne : b.id ≠ a.id := by
      intro he
      rw [he, fresh] at hb
      cases hb
    exact ⟨b, by rw [get, if_neg hne, hb], rest⟩
  · intro i b eventType hb hstate
    rw [get] at hb
    rw [quiet]
    split at hb
    · cases hb
      rw [state] at hstate
      cases hstate
    · exact h.reported i b eventType hb hstate

theorem moved_sound {r t : InMemoryExternalActionsRepository} {a b : ExternalActionRecord}
    {added : List ExternalActionEventRecord} {emitted : List StoredOutboxEvent} (h : Sound r)
    (stored : r.actionsById.get a.id = some a) (running : outcomeEventType a.state = none)
    (id : b.id = a.id) (tenant : b.tenantId = a.tenantId) (shape : Shape b)
    (rewrites : Rewrites a b added r t) (appends : Appends a b added)
    (outbox : t.outboxRepository.Consistent) (emits : Emits b emitted)
    (loud : outcomes t = outcomes r ++ emitted) : Sound t := by
  have get : ∀ i, t.actionsById.get i = if i = a.id then some b else r.actionsById.get i := by
    intro i
    rw [rewrites.actions, InsertionMap.get_set]
  have refers : ∀ e ∈ emitted, outcomeEventType b.state = some e.eventType ∧
      RefersTo a.id e.toEnqueueOutboxEvent := by
    intro e he
    unfold Emits at emits
    split at emits
    · rw [emits] at he
      cases he
    · rename_i eventType hs
      obtain ⟨d, rfl, htype, hd⟩ := emits
      rw [List.mem_singleton.mp he, hs, htype, ← id]
      exact ⟨rfl, hd⟩
  refine ⟨outbox, ?_, ?_, ?_, ?_, ?_, ?_⟩
  · intro i c hc
    rw [get] at hc
    split at hc
    · rename_i hi
      cases hc
      obtain ⟨_, ht, n, hn, hid⟩ := h.identity _ a stored
      exact ⟨id.trans hi.symm, tenant ▸ ht, n, Nat.le_trans hn rewrites.sequence, hi.trans hid⟩
    · obtain ⟨hid, ht, n, hn, hi⟩ := h.identity i c hc
      exact ⟨hid, ht, n, Nat.le_trans hn rewrites.sequence, hi⟩
  · intro i hi
    rw [get] at hi
    rw [rewrites.ledgers]
    split at hi
    · cases hi
    · rw [if_neg ‹_›, h.vacant i hi]
  · intro i c hc
    rw [get] at hc
    split at hc
    · cases hc
      exact shape
    · exact h.shapes i c hc
  · intro i c hc
    rw [get] at hc
    rw [rewrites.ledgers]
    split at hc
    · rename_i hi
      cases hc
      rw [if_pos hi, hi]
      exact ledger_appends (h.ledgers _ a stored) appends
    · rw [if_neg ‹_›]
      exact h.ledgers i c hc
  · intro e he
    rw [loud] at he
    rcases List.mem_append.mp he with he | he
    · obtain ⟨c, hne, hc, rest⟩ := h.unclaimed stored running e he
      exact ⟨c, by rw [get, if_neg hne, hc], rest⟩
    · obtain ⟨hstate, hrefers⟩ := refers e he
      exact ⟨b, by rw [get, if_pos id], hstate, id ▸ hrefers⟩
  · intro i c eventType hc hstate
    rw [get] at hc
    rw [loud, List.filter_append]
    split at hc
    · rename_i hi
      cases hc
      have before : (outcomes r).filter
          (fun d => d.payload.text "external_action_id" == some i) = [] := by
        refine List.filter_eq_nil_iff.mpr fun e he => ?_
        obtain ⟨d, hne, _, _, htext, _⟩ := h.unclaimed stored running e he
        simpa [htext, hi] using hne
      unfold Emits at emits
      rw [hstate] at emits
      obtain ⟨e, rfl, _, htext, _⟩ := emits
      refine ⟨e, ?_⟩
      rw [before, List.nil_append, List.filter_singleton, htext, id, hi]
      simp
    · have after : emitted.filter
          (fun d => d.payload.text "external_action_id" == some i) = [] := by
        refine List.filter_eq_nil_iff.mpr fun e he => ?_
        obtain ⟨_, htext, _⟩ := refers e he
        simpa [htext] using Ne.symm ‹_›
      rw [after, List.append_nil]
      exact h.reported i c eventType hc hstate

theorem effect_sound {r t : InMemoryExternalActionsRepository} (h : Sound r)
    (effect : Effect r t) : Sound t := by
  cases effect with
  | kept frame outbox quiet => exact kept_sound h frame outbox quiet
  | requested a e id later tenant state shape attempts rewrites htype hkey outbox quiet =>
    exact requested_sound h id later tenant state shape attempts rewrites htype hkey outbox quiet
  | moved a b added emitted stored running id tenant shape rewrites appends outbox emits loud =>
    exact moved_sound h stored running id tenant shape rewrites appends outbox emits loud

theorem empty_sound : Sound empty := by
  refine ⟨InMemoryOutboxRepository.empty_consistent, ?_, ?_, ?_, ?_, ?_, ?_⟩
  · simp [empty]
  · intro i _
    rfl
  · simp [empty]
  · simp [empty]
  · intro e he
    cases he
  · simp [empty]

/-- A settled action and its ledger are the same in `t` as in `r`. -/
def Frozen (r t : InMemoryExternalActionsRepository) : Prop :=
  ∀ i a, r.actionsById.get i = some a → (a.state = .completed ∨ a.state = .failed) →
    t.actionsById.get i = some a ∧ t.ledger i = r.ledger i

theorem effect_frozen {r t : InMemoryExternalActionsRepository} (h : Sound r)
    (effect : Effect r t) : Frozen r t := by
  intro i a ha terminal
  have reports : outcomeEventType a.state ≠ none := by
    rcases terminal with hs | hs
    · simp [hs, outcomeEventType]
    · simp [hs, outcomeEventType]
  cases effect with
  | kept frame _ _ => exact ⟨by rw [frame.actions, ha], frame.ledgers i⟩
  | requested b e id _ _ _ _ _ rewrites =>
    have hne : i ≠ b.id := by
      intro hi
      rw [hi, id, h.fresh] at ha
      cases ha
    exact ⟨by rw [rewrites.actions, InsertionMap.get_set, if_neg hne, ha],
      by rw [rewrites.ledgers, if_neg hne]⟩
  | moved b c added emitted stored running id _ _ rewrites =>
    have hne : i ≠ b.id := by
      intro hi
      rw [hi, stored] at ha
      cases ha
      exact reports running
    exact ⟨by rw [rewrites.actions, InsertionMap.get_set, if_neg hne, ha],
      by rw [rewrites.ledgers, if_neg hne]⟩

theorem frozen_trans {r s t : InMemoryExternalActionsRepository} (h : Frozen r s)
    (k : Frozen s t) : Frozen r t := by
  intro i a ha terminal
  obtain ⟨hs, hl⟩ := h i a ha terminal
  obtain ⟨ht, hk⟩ := k i a hs terminal
  exact ⟨ht, hk.trans hl⟩

/-- The outbox events of this type that were emitted for the action. -/
def outcomeEvents (r : InMemoryExternalActionsRepository) (eventType id : String) :
    List StoredOutboxEvent :=
  r.outboxRepository.events.filter fun e =>
    e.eventType == eventType && e.payload.text "external_action_id" == some id

/-- The started events of one attempt in a ledger. -/
def startedEvents (es : List ExternalActionEventRecord) (attempt : Nat) :
    List ExternalActionEventRecord :=
  es.filter fun e => e.eventType == "dispatch_started" && e.eventKey == startedKey attempt

structure LifecycleSound (r : InMemoryExternalActionsRepository) (a : ExternalActionRecord) :
    Prop where
  lease : (a.dispatchLeaseOwner ≠ none ↔ a.state = .dispatching) ∧
    (a.dispatchLeaseExpiresAt ≠ none ↔ a.state = .dispatching)
  retry : a.nextRetryAt ≠ none ↔ a.state = .retry_scheduled
  requested : ((r.ledger a.id).filter (·.eventType == "requested")).length = 1
  started : ∀ n, 1 ≤ n → n ≤ a.dispatchAttempts → (startedEvents (r.ledger a.id) n).length = 1
  noOthers : ((r.ledger a.id).filter (·.eventType == "dispatch_started")).length =
    a.dispatchAttempts
  completed : (outcomeEvents r "external_action.completed.v1" a.id).length =
    if a.state = .completed then 1 else 0
  failed : (outcomeEvents r "external_action.failed.v1" a.id).length =
    if a.state = .failed then 1 else 0

theorem started_once {es : List ExternalActionEventRecord} {attempts n : Nat}
    (h : LedgerSound es attempts) (first : 1 ≤ n) (last : n ≤ attempts) :
    (startedEvents es n).length = 1 := by
  have split : startedEvents es n =
      (es.filter (·.eventType == "dispatch_started")).filter (·.eventKey == startedKey n) := by
    rw [List.filter_filter]
    refine List.filter_congr fun e _ => ?_
    rw [Bool.and_comm]
  have keys : ((es.filter (·.eventType == "dispatch_started")).map (·.eventKey)).filter
      (· == startedKey n) = [startedKey n] := by
    rw [h.started, List.filter_map]
    have only : (List.range attempts).filter ((· == startedKey n) ∘ fun n => startedKey (n + 1)) =
        (List.range attempts).filter (· == n - 1) := by
      refine List.filter_congr fun m _ => ?_
      rw [Bool.eq_iff_iff]
      simp only [Function.comp_apply, beq_iff_eq]
      constructor
      · intro hm
        have := startedKey_inj hm
        omega
      · rintro rfl
        rw [Nat.sub_add_cancel first]
    rw [only, List.filter_beq, List.count_eq_one_of_mem List.nodup_range
      (List.mem_range.mpr (by omega))]
    simp [Nat.sub_add_cancel first]
  have mapped : (startedEvents es n).map (·.eventKey) = [startedKey n] := by
    rw [split, ← keys, List.filter_map]
    rfl
  simpa using congrArg List.length mapped

theorem started_total {es : List ExternalActionEventRecord} {attempts : Nat}
    (h : LedgerSound es attempts) :
    (es.filter (·.eventType == "dispatch_started")).length = attempts := by
  simpa using congrArg List.length h.started

/-- An event of one outcome type names an action in the state of that name, so
the count is one in that state and zero in every other. -/
theorem outcome_count {r : InMemoryExternalActionsRepository} (h : Sound r)
    {a : ExternalActionRecord} (stored : r.actionsById.get a.id = some a) {eventType : String}
    (outcome : isOutcomeType eventType = true) :
    (outcomeEvents r eventType a.id).length =
      if outcomeEventType a.state = some eventType then 1 else 0 := by
  have narrow : outcomeEvents r eventType a.id =
      ((outcomes r).filter fun d => d.payload.text "external_action_id" == some a.id).filter
        fun d => d.eventType == eventType := by
    unfold outcomeEvents outcomes
    rw [List.filter_filter, List.filter_filter]
    refine List.filter_congr fun e _ => ?_
    by_cases ht : e.eventType = eventType
    · simp [ht, outcome]
    · simp [ht]
  have agree : ∀ e ∈ outcomes r, e.payload.text "external_action_id" = some a.id →
      outcomeEventType a.state = some e.eventType := by
    intro e he htext
    obtain ⟨b, hb, hstate, hrefers, _⟩ := h.owned e he
    have hid : b.id = a.id := Option.some.inj (hrefers.symm.trans htext)
    rw [hid, stored] at hb
    cases hb
    exact hstate
  rw [narrow]
  split
  · rename_i hs
    obtain ⟨e, he⟩ := h.reported _ a eventType stored hs
    have hm : e ∈ (outcomes r).filter
        fun d => d.payload.text "external_action_id" == some a.id := by simp [he]
    obtain ⟨hout, htext⟩ := List.mem_filter.mp hm
    have htype := agree e hout (by simpa using htext)
    rw [hs] at htype
    cases htype
    simp [he]
  · rename_i hs
    refine List.length_eq_zero_iff.mpr (List.filter_eq_nil_iff.mpr fun e he htype => hs ?_)
    obtain ⟨hout, htext⟩ := List.mem_filter.mp he
    rw [agree e hout (by simpa using htext)]
    exact congrArg some (by simpa using htype)

theorem sound_lifecycle {r : InMemoryExternalActionsRepository} (h : Sound r)
    {a : ExternalActionRecord} (stored : r.actionsById.get a.id = some a) :
    LifecycleSound r a := by
  have shape := h.shapes _ a stored
  have ledger := h.ledgers _ a stored
  refine ⟨⟨?_, ?_⟩, ?_, ledger.requested, fun n => started_once ledger, started_total ledger,
    ?_, ?_⟩
  · rw [← Option.isSome_iff_ne_none]
    exact shape.owner
  · rw [← Option.isSome_iff_ne_none]
    exact shape.expiry
  · rw [← Option.isSome_iff_ne_none]
    exact shape.retry
  · rw [outcome_count h stored (by decide)]
    cases a.state <;> simp [outcomeEventType]
  · rw [outcome_count h stored (by decide)]
    cases a.state <;> simp [outcomeEventType]

theorem run_sound (digest : ExternalActionRequest → String) (ops : List Operation) :
    Sound (runs (perform digest) empty ops) :=
  runs_invariant (fun _ op h => effect_sound h (perform_effect digest h op)) empty_sound ops

theorem run_frozen (digest : ExternalActionRequest → String)
    {r : InMemoryExternalActionsRepository} (h : Sound r) (ops : List Operation) :
    Frozen r (runs (perform digest) r ops) := by
  refine runs_related (R := Frozen) ?_ (fun _ _ _ => frozen_trans)
    (fun _ op h => effect_sound h (perform_effect digest h op))
    (fun _ op h => effect_frozen h (perform_effect digest h op)) h ops
  intro r i a ha _
  exact ⟨ha, rfl⟩

/-- After every sequence of calls each stored action is sound, and what later
calls find of a settled one is what these calls left. -/
theorem actions_stay_sound (digest : ExternalActionRequest → String)
    (before after : List Operation) :
    ∀ i a, (runs (perform digest) empty before).actionsById.get i = some a →
      a.id = i ∧ LifecycleSound (runs (perform digest) empty before) a ∧
      ((a.state = .completed ∨ a.state = .failed) →
        (runs (perform digest) empty (before ++ after)).actionsById.get i = some a ∧
        (runs (perform digest) empty (before ++ after)).ledger i =
          (runs (perform digest) empty before).ledger i) := by
  intro i a ha
  have h := run_sound digest before
  obtain ⟨rfl, _⟩ := h.identity i a ha
  refine ⟨rfl, sound_lifecycle h ha, ?_⟩
  rw [runs_append]
  exact run_frozen digest h after _ a ha

/-- A request, a claim that outlives its lease, a second claim and the callback. -/
def redispatched : List Operation :=
  let tenantId := "11111111-1111-4111-8111-111111111111"
  let clock : Clock := fun n => 1784462400000 + n
  let claim : ClaimExternalActionDispatch :=
    { tenantId, actionId := "email-1", idempotencyKey := "email-1:send", leaseOwner := "worker-a",
      leaseDurationMs := .finite 30000 }
  [.enqueueRequested clock
      { tenantId, actionId := "email-1", actionType := "email.send", approvedBy := "founder",
        idempotencyKey := "email-1:send", requestPayload := [("to", .str "lead@example.com")] },
    .claimDispatch clock claim,
    .claimDispatch (fun n => clock n + 60000) { claim with leaseOwner := "worker-b" },
    .recordOutcome (fun n => clock n + 61000)
      { tenantId, actionId := "email-1", idempotencyKey := "email-1:send", callbackId := "cb-1",
        status := .completed }]

theorem redispatched_stays_sound : ∃ a,
    (runs (perform fun _ => "".pushn 'a' 64) empty redispatched).actionsById.get (idText 1) =
      some a ∧ a.state = .completed ∧ a.dispatchAttempts = 2 ∧
    LifecycleSound (runs (perform fun _ => "".pushn 'a' 64) empty redispatched) a ∧
    (runs (perform fun _ => "".pushn 'a' 64) empty
      (redispatched ++ redispatched)).actionsById.get (idText 1) = some a := by
  have settled : ((runs (perform fun _ => "".pushn 'a' 64) empty redispatched).actionsById.get
      (idText 1)).map (fun a => (a.state, a.dispatchAttempts)) = some (.completed, 2) := by
    decide +kernel
  obtain ⟨a, ha, hs⟩ := Option.map_eq_some_iff.mp settled
  obtain ⟨state, attempts⟩ := Prod.mk.injEq .. ▸ hs
  obtain ⟨_, sound, frozen⟩ := actions_stay_sound (fun _ => "".pushn 'a' 64) redispatched
    redispatched (idText 1) a ha
  exact ⟨a, ha, state, attempts, sound, (frozen (Or.inl state)).1⟩

end VantGrowth.Proofs.ActionLifecycle
