import VantGrowth.Proofs.ConsumptionSoundness
import VantGrowth.Proofs.DispatchAwaits
import VantGrowth.Proofs.DispatchEvents

namespace VantGrowth.Proofs.ApprovedDispatches
open Db Db.Zod Db.InMemoryExternalActionsRepository Lib N8n Publisher ActionFiling ConsumptionSoundness
open DispatchAwaits DispatchEvents PublisherAwaits PublisherLogs

/-- A log in which every call of n8n is one a publisher was entitled to. -/
abbrev Rightful (d : Deployment) (clock : Instant) (log : Log) : Prop :=
  Machine.Valid (machine d) (Sends d) (fun _ _ _ => True) (fresh clock) log

section
variable {d : Deployment} {clock : Instant}

variable (d clock) in
theorem runs_rightful (labels : List (Machine.Label Op Start)) :
    Rightful d clock (runs (machine d).step (Machine.initial (fresh clock)) labels).log := by
  have specified : ∀ w s p, (machine d).program w s = some p →
      Prog.Meets (Sends d s) (fun _ _ => True) [] p := by
    intro w s p launched
    simp only [machine] at launched
    split at launched
    · cases launched
      exact handler_sends s
    · cases launched
  exact (Machine.runs_valid specified labels).1

/-- Dispatch requests reach the outbox only with the action they are for. -/
def Unforged (log : Log) : Prop :=
  ∀ actor command r, .did actor (.enqueue command) r ∈ log →
    command.eventType ≠ externalActionOutboxEventType

theorem steady_backed : Steady (Backed d.requestDigest) where
  named _ h := h.filed.named
  outbox _ h := h.filed.outbox
  rests _ _ h kept mute := h.kept kept mute

variable (d clock) in
theorem backed_after (log : Log) (unforged : Unforged log) :
    Backed d.requestDigest (after d clock log).actions := by
  induction log using List.reverseRecOn with
  | nil => exact empty_backed
  | append_singleton a e ih =>
    have earlier := ih fun actor command r member => unforged actor command r (List.mem_append_left _ member)
    cases e with
    | spawned i s => rwa [after_spawned]
    | did actor op r =>
      have state : after d clock (a ++ [.did actor op r]) =
          ((exec d op).run ((machine d).replay (fresh clock) a)).2.state :=
        congrArg Faulty.state (Machine.replay_snoc _ _ _ _)
      rw [state]
      refine exec_keeps d steady_backed (fun clock q r h => request_backed h clock q) op ?_ _ earlier
      rintro command rfl now r h
      have other := unforged actor command _ (List.mem_append_right _ (List.mem_singleton_self _))
      exact h.kept (enqueue_calm now command r h.filed.named) (enqueue_mute now other r)

/-- Handlers write no event to the outbox themselves. -/
theorem unforged_of_labels {labels : List (Machine.Label Op Start)}
    (own : ∀ command, .outside (.enqueue command) ∈ labels →
      command.eventType ≠ externalActionOutboxEventType) :
    Unforged (runs (machine d).step (Machine.initial (fresh clock)) labels).log := by
  intro actor command r member
  have valid := runs_rightful d clock labels
  obtain ⟨a, b, split⟩ := List.append_of_mem member
  cases actor with
  | worker i s => exact (valid.worked a b i s _ r split).2.elim
  | settled i s => cases (valid.settled a b i s _ r split).2.1
  | outside => exact own command ((Machine.outside_labelled member).resolve_left List.not_mem_nil)

theorem required_text {field value : String} {p : Payload} {schema : Schema String} {out : String}
    (given : p.lookup field = some (.str value)) (read : required p field schema = some out) :
    schema (.str value) = some out := by
  rwa [required, given, Option.bind_some] at read

theorem name_same {value out : String} {high : Nat} (read : N8n.name high (.str value) = some out) :
    out = value := by
  simp only [N8n.name] at read
  split at read
  · exact (Option.some.inj read).symm
  · cases read

theorem uuid_same {value out : String} (read : uuid (.str value) = some out) : out = value := by
  simp only [uuid] at read
  split at read
  · exact (Option.some.inj read).symm
  · cases read

/-- A dispatch request is read under the names it was written with. -/
theorem read_names {q : ExternalActionRequest} {request : N8nDispatchRequest}
    (read : n8nTypedDispatchRequestSchema d.formats (dispatchCommand q).payload = some request) :
    request.tenantId = q.tenantId ∧ request.actionId = q.actionId ∧ request.actionType = q.actionType ∧
      request.approvedBy = q.approvedBy ∧ request.idempotencyKey = q.idempotencyKey := by
  simp only [n8nTypedDispatchRequestSchema, Option.bind_eq_bind, Option.bind_eq_some_iff,
    Option.pure_def, Option.some.injEq] at read
  obtain ⟨tenantId, tenant, actionId, action, actionType, type, approvedBy, approver, key, keyed, _, _,
    _, _, _, _, _, _, rfl⟩ := read
  exact ⟨uuid_same (required_text rfl tenant), name_same (required_text rfl action),
    name_same (required_text rfl type), name_same (required_text rfl approver),
    name_same (required_text rfl keyed)⟩

/-- What n8n is sent is the stored request of a stored action, read by the schema
of its type. -/
structure Approved (d : Deployment) (w : World) (p : OutboxPublisher) (sent : N8nDispatchRequest)
    (a : ExternalActionRecord) : Prop where
  found : w.actions.lookup sent.tenantId sent.actionId = some a
  keyed : a.idempotencyKey = sent.idempotencyKey
  approver : a.approvedBy = sent.approvedBy
  valid : externalActionRequestSchema (requestOf a) = true
  digest : a.requestDigest = d.requestDigest (requestOf a)
  read : ∃ request, n8nTypedDispatchRequestSchema d.formats (dispatchCommand (requestOf a)).payload =
    some request ∧ sent = outgoing p request

theorem entitled_approved {a b : Log} {i : Nat} {s : Start} {sent : N8nDispatchRequest}
    (valid : Explained d clock (a ++ b)) (unforged : Unforged a)
    (entitled : Entitled d s (Machine.history i a) sent) :
    ∃ p tenantIds limit action, s = .publishCycle p tenantIds limit ∧
      Approved d (after d clock a) p sent action := by
  obtain ⟨p, tenantIds, limit, event, request, start, listed, type, read, rfl⟩ := entitled.read
  obtain ⟨tenant, batch, pending, told, member⟩ := listed
  obtain ⟨w, v, tells, stored, first, _, later⟩ := told_after valid told
  have tells : pending = w.outbox.listUnconsumed tenant batch := tells
  rw [tells] at member
  have backed := backed_after d clock a unforged
  have there := (InMemoryOutboxRepository.mem_listUnconsumed member).1
  obtain ⟨at_, now⟩ := (first.trans later).events _ _ (stored.outbox.event there)
  have carried : event.toEnqueueOutboxEvent ∈ dispatchesOf (after d clock a).outbox :=
    mem_dispatches.mpr ⟨_, (InsertionMap.mem_values _ _).mpr ⟨_, now⟩, type, rfl⟩
  obtain ⟨id, action, found, same⟩ := backed.carried _ carried
  rw [show event.payload = (dispatchCommand (requestOf action)).payload from
    congrArg EnqueueOutboxEvent.payload same] at read
  obtain ⟨tenants, actions, _, approvers, keys⟩ := read_names read
  refine ⟨p, tenantIds, limit, action, start, ?_, keys.symm, approvers.symm, backed.filed.asked _ _ found,
    backed.filed.digests _ _ found, request, read, rfl⟩
  have indexed := (backed.filed.byAction (key action.tenantId action.actionId) id).mpr ⟨action, found, rfl⟩
  show lookup _ request.tenantId request.actionId = some action
  rw [tenants, actions]
  unfold lookup
  rw [show key (requestOf action).tenantId (requestOf action).actionId =
    key action.tenantId action.actionId from rfl, indexed]
  exact found

/-- Whatever fails and whatever races, n8n is only asked for what was approved. -/
theorem dispatches_approved (d : Deployment) (clock : Instant) (labels : List (Machine.Label Op Start))
    (own : ∀ command, .outside (.enqueue command) ∈ labels →
      command.eventType ≠ externalActionOutboxEventType) :
    ∀ before rest actor sent r, (runs (machine d).step (Machine.initial (fresh clock)) labels).log =
        before ++ .did actor (.dispatch sent) r :: rest →
      ∃ i p tenantIds limit action, actor = .worker i (.publishCycle p tenantIds limit) ∧
        Approved d (after d clock before) p sent action := by
  intro before rest actor sent r split
  have rightful := runs_rightful d clock labels
  have explained := (runs_valid d clock labels).1
  have unforged : Unforged (runs (machine d).step (Machine.initial (fresh clock)) labels).log :=
    unforged_of_labels own
  rw [split] at rightful explained unforged
  cases actor with
  | outside => cases rightful.outside before rest _ r rfl
  | settled i s => cases (rightful.settled before rest i s _ r rfl).2.1
  | worker i s =>
    obtain ⟨_, entitled⟩ := rightful.worked before rest i s _ r rfl
    obtain ⟨p, tenantIds, limit, action, rfl, approved⟩ := entitled_approved explained
      (fun actor command r member => unforged actor command r (List.mem_append_left _ member)) entitled
    exact ⟨i, p, tenantIds, limit, action, rfl, approved⟩

end

/-- An approved action is dispatched next to an event of another kind. -/
def pinged : List (Machine.Label Op Start) :=
  [.outside (.enqueueRequested ping),
    .outside (.enqueue
      { tenantId := acme, eventType := "signal.recorded.v1", idempotencyKey := "s-1", payload := [] }),
    .outside (.prepare [.failure (some 503) (.ofString "busy") true]),
    .spawn (.publishCycle publisher [acme] 10)] ++ turns 0 8

theorem pinged_approved :
    let log := (runs (machine (deployed .postgres)).step (Machine.initial (fresh 0)) pinged).log
    Machine.attempts (asksFor ⟨acme, "act-1", "act-1"⟩) log = 1 ∧
    ∀ before rest actor sent r, log = before ++ .did actor (.dispatch sent) r :: rest →
      ∃ i p tenantIds limit action, actor = .worker i (.publishCycle p tenantIds limit) ∧
        Approved (deployed .postgres) (after (deployed .postgres) 0 before) p sent action := by
  refine ⟨by decide +kernel, dispatches_approved _ 0 pinged fun command label => ?_⟩
  simp only [pinged, turns, List.mem_append, List.mem_cons, List.mem_replicate, reduceCtorEq,
    Machine.Label.outside.injEq, Op.enqueue.injEq, List.not_mem_nil, or_false, false_or,
    and_false] at label
  rw [label]
  decide

end VantGrowth.Proofs.ApprovedDispatches

namespace VantGrowth.Proofs.DispatchAttempts
open Db Db.InMemoryExternalActionsRepository Lib N8n Publisher ActionSteps ActionCalls PublisherSteps
open ApprovedDispatches DispatchAwaits PublisherAwaits PublisherLogs

/-- How often the named action has been claimed, nought where there is none. -/
def claims (r : InMemoryExternalActionsRepository) (identity : DispatchIdentity) : Nat :=
  ((r.lookup identity.tenantId identity.actionId).filter
    (·.idempotencyKey == identity.idempotencyKey)).elim 0 (·.dispatchAttempts)

section
variable {r t : InMemoryExternalActionsRepository} {identity : DispatchIdentity}
  {a b : ExternalActionRecord}

theorem claims_of_holds (holds : Holds r identity a) : claims r identity = a.dispatchAttempts := by
  simp [claims, holds.found, Option.filter_some, holds.keyed]

theorem claims_cases (r : InMemoryExternalActionsRepository) (identity : DispatchIdentity) :
    claims r identity = 0 ∨ ∃ a, Holds r identity a := by
  unfold claims
  cases found : (r.lookup identity.tenantId identity.actionId).filter
      (·.idempotencyKey == identity.idempotencyKey) with
  | none => exact Or.inl rfl
  | some a =>
    obtain ⟨here, keyed⟩ := Option.filter_eq_some_iff.mp found
    exact Or.inr ⟨a, here, by simpa using keyed⟩

/-- No call takes an attempt back. -/
theorem moved_attempts {call : Call} (move : Moved a call b) : a.dispatchAttempts ≤ b.dispatchAttempts := by
  cases move with
  | claimed now input free => exact Nat.le_succ _
  | settled input at_ open_ => exact Nat.le_refl _
  | reported owner b held lease report => cases report <;> exact Nat.le_refl _

theorem step_claims {call : Call} (step : Step call r t) (h : Stored r) (identity : DispatchIdentity) :
    claims r identity ≤ claims t identity := by
  rcases claims_cases r identity with none_ | ⟨a, holds⟩
  · omega
  · obtain ⟨b, holds', rfl | move⟩ := step.holds h holds
    · rw [claims_of_holds holds, claims_of_holds holds']
    · rw [claims_of_holds holds, claims_of_holds holds']
      exact moved_attempts move

/-- A claim that is granted is one of the action it names. -/
def Names (identity : DispatchIdentity) (r : InMemoryExternalActionsRepository)
    (b : ExternalActionRecord) : Prop :=
  ∃ a, Holds r identity a ∧ b.id = a.id

theorem claim_names (clock : Clock) (input : ClaimExternalActionDispatch) :
    (claimDispatch clock input).Ends r fun x _ =>
      ∀ b, x = .ok (.claimed b) → Names input.toDispatchIdentity r b := by
  refine Store.Ends.require_bind (fun _ => by rintro b ⟨⟩) fun _ => ?_
  refine Store.Ends.require_bind (fun _ => by rintro b ⟨⟩) fun _ => ?_
  refine find_holds_bind (fun _ => by rintro b ⟨⟩) fun a holds => ?_
  refine Store.Ends.ite (fun _ => Store.Ends.pure (by rintro b ⟨⟩)) fun _ => ?_
  refine Store.Ends.ite (fun _ => Store.Ends.pure (by rintro b ⟨⟩)) fun _ => ?_
  refine Store.Ends.ite (fun _ => Store.Ends.pure (by rintro b ⟨⟩)) fun _ => ?_
  refine ActionEffects.save_bind ?_
  refine ((appendEvent_quiet _ _ _ _ _).tail (fun _ => .pure _) _).weaken fun x t ended => ?_
  intro b claimed
  cases ended.2 _ claimed
  exact ⟨a, holds, rfl⟩

theorem claimRow_names (h : Stored r) (clock : Instant) (now : JsDate) (input : ClaimExternalActionDispatch) :
    (PostgresExternalActionsRepository.claimRow clock now input).Ends r fun x t =>
      Step (.claim now input) r t ∧ RowAnswer (Names input.toDispatchIdentity r) x := by
  refine transaction_step (Q := fun _ => Names input.toDispatchIdentity r)
    (Store.Ends.require_bind (fun _ => ⟨.refl r, trivial⟩) fun _ => ?_)
  refine (settleRow_step _ h (fun b => appendEvent_quiet _ _ _ _ _) fun a holds fits =>
    .claimed now input (claimable_free h holds fits)).weaken fun x t done => ⟨done.1, ?_⟩
  refine Updated.answer done.2 ?_
  rintro b ⟨⟨a, holds, _, rfl⟩, _⟩
  exact ⟨a, holds, rfl⟩

/-- A granted claim counts. -/
theorem granted_claims {call : Call} {now : JsDate} {input : ClaimExternalActionDispatch} (h : Stored r)
    (step : Step call r t) (granted : Granted now input r t b) (names : Names identity r b) :
    claims r identity < claims t identity := by
  obtain ⟨a, holds, same⟩ := names
  obtain ⟨a', stored, _, rfl⟩ := granted.before
  have found := (holds.stored h).2
  rw [← same, show (claimedAction input now a').id = a'.id from rfl, stored] at found
  obtain rfl := Option.some.inj found
  obtain ⟨b, holds', moved⟩ := step.holds h holds
  have id : b.id = a'.id := by
    rcases moved with rfl | move
    · rfl
    · exact move.same.id
  have after := (holds'.stored (step.stored h)).2
  rw [id, show a'.id = (claimedAction input now a').id from rfl, granted.after] at after
  obtain rfl := Option.some.inj after
  rw [claims_of_holds holds, claims_of_holds holds']
  exact Nat.lt_succ_self _

end

section
variable {d : Deployment} {clock : Instant}

theorem next_claims {op : Op} {w v : World} (next : Next d op w v) (h : Stored w.actions)
    (identity : DispatchIdentity) : claims w.actions identity ≤ claims v.actions identity :=
  step_claims next.step h identity

/-- What an answer that grants a claim tells. -/
theorem exec_names {identity : DispatchIdentity} {op : Op} {r : Res op} {w : Faulty World}
    (stored : Stored w.state.actions) (grant : grants identity ⟨op, r⟩ = true)
    (answered : ((exec d op).run w).1 = .ok r) :
    claims w.state.actions identity < claims ((exec d op).run w).2.state.actions identity := by
  obtain ⟨next, tells⟩ := exec_ends (d := d) op stored
  rw [answered] at tells
  cases op with
  | claimDispatch input =>
    cases r with
    | claimed b =>
      obtain rfl : input.toDispatchIdentity = identity := by simpa [grants] using grant
      have told : (exec d (.claimDispatch input)).Ends w fun x _ =>
          ∀ b, x = .ok (.claimed b) → Names input.toDispatchIdentity w.state.actions b := by
        refine Store.Ends.faulty (onActions_run _ (claim_names _ input)) ?_ ?_ ?_
        · rintro x v fs ⟨y, r, names, rfl, rfl⟩ b claimed
          cases y with
          | error e => cases claimed
          | ok claim => exact names b (by cases claimed; rfl)
        · rintro f fs b ⟨⟩
        · rintro f x v fs _ b ⟨⟩
      have counted := granted_claims (r := w.state.actions) (t := { ((exec d (.claimDispatch input)).run w).2.state.actions with
        outboxRepository := w.state.actions.outboxRepository }) stored next.step ⟨tells.before, tells.after⟩
        (told b answered)
      exact counted
    | _ => simp [grants] at grant
  | claimRow now input =>
    cases r with
    | none => simp [grants] at grant
    | some b =>
      obtain rfl : input.toDispatchIdentity = identity := by simpa [grants] using grant
      have told : (exec d (.claimRow now input)).Ends w fun x _ =>
          ∀ b, x = .ok (some b) → Names input.toDispatchIdentity w.state.actions b := by
        refine Store.Ends.faulty (onActions_run _ (claimRow_names stored _ now input)) ?_ ?_ ?_
        · rintro x v fs ⟨y, r, ⟨_, names⟩, rfl, rfl⟩ b claimed
          cases y with
          | error e => cases claimed
          | ok row =>
            cases claimed
            exact names
        · rintro f fs b ⟨⟩
        · rintro f x v fs _ b ⟨⟩
      have counted := granted_claims (r := w.state.actions) (t := { ((exec d (.claimRow now input)).run w).2.state.actions with
        outboxRepository := w.state.actions.outboxRepository }) stored next.step ⟨tells.before, tells.after⟩
        (told b answered)
      exact counted
  | _ => simp [grants] at grant

variable (d clock) in
/-- Every granted claim of an action is one of its attempts. -/
theorem granted_counted {log : Log} (valid : Rightful d clock log) (identity : DispatchIdentity) :
    Machine.answers (grants identity) log ≤ claims (after d clock log).actions identity := by
  induction log using List.reverseRecOn with
  | nil => exact Nat.zero_le _
  | append_singleton a e ih =>
    have earlier := ih valid.init_
    rw [Machine.answers_snoc]
    cases e with
    | spawned i s =>
      rw [after_spawned]
      exact earlier
    | did actor op r =>
      have stored : Stored ((machine d).replay (fresh clock) a).state.actions := stored_after a
      have state : after d clock (a ++ [.did actor op r]) =
          ((exec d op).run ((machine d).replay (fresh clock) a)).2.state :=
        congrArg Faulty.state (Machine.replay_snoc _ _ _ _)
      have grown := next_claims (exec_ends (d := d) op stored).1 stored identity
      rw [state]
      cases r with
      | error x => exact Nat.le_trans earlier grown
      | ok r =>
        have one : (Machine.Entry.did actor op (.ok r) : Entry).answer.any (grants identity) =
            grants identity ⟨op, r⟩ := rfl
        rw [one]
        by_cases grant : grants identity ⟨op, r⟩ = true
        · have answered := (valid.answered a [] actor op (.ok r) rfl).symm
          have more := exec_names stored grant answered
          rw [if_pos grant]
          exact Nat.lt_of_le_of_lt earlier more
        · rw [if_neg grant]
          exact Nat.le_trans earlier grown

/-- However publishers race, crash and lose answers, n8n is called for an action
no more often than it was claimed, and never for one that is not stored. -/
theorem dispatches_counted (d : Deployment) (clock : Instant) (labels : List (Machine.Label Op Start))
    (identity : DispatchIdentity) :
    let run := runs (machine d).step (Machine.initial (fresh clock)) labels
    Machine.attempts (asksFor identity) run.log ≤ claims run.state.state.actions identity := by
  intro run
  have rightful := runs_rightful d clock labels
  have fewer : Machine.attempts (asksFor identity) run.log ≤ Machine.answers (grants identity) run.log := by
    apply rightful.attempts_le (Machine.errors_last _ labels)
    · intro op asks
      cases op with
      | dispatch sent => exact ⟨rfl, nofun⟩
      | _ => cases asks
    · intro s h op sends asks
      cases op with
      | dispatch sent =>
        obtain rfl : identityOf sent = identity := by simpa [asksFor] using asks
        exact sends.claimed
      | _ => cases asks
  rw [(runs_valid d clock labels).2]
  exact Nat.le_trans fewer (granted_counted d clock rightful identity)

end

end VantGrowth.Proofs.DispatchAttempts
