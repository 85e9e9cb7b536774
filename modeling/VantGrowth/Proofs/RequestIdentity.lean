import Mathlib.Data.Rat.Encodable
import VantGrowth.Proofs.ActionFiling
import VantGrowth.Proofs.RequestDigests

namespace VantGrowth.Proofs.RequestIdentity
open Db Db.InMemoryExternalActionsRepository Lib Lib.Text ActionFiling RequestDigests
open ActionLifecycle (Operation)
open PostgresExternalActionsRepository (sameAction sameKey)

inductive Backend where
  | memory | postgres

/-- The tenant a backend files a request under. -/
def Backend.tenant : Backend → String → String
  | .memory, tenantId => tenantId
  | .postgres, tenantId => uuidColumn tenantId

section
variable (digest : ExternalActionRequest → String)

def Backend.enqueueRequested : Backend → Clock → ExternalActionRequest →
    ActionStore EnqueueExternalActionResult
  | .memory => InMemoryExternalActionsRepository.enqueueRequested digest
  | .postgres => PostgresExternalActionsRepository.enqueueRequested digest

/-- The tables a call leaves, whether it returned or threw. -/
def Backend.perform (r : InMemoryExternalActionsRepository) :
    Backend → Operation → InMemoryExternalActionsRepository
  | .memory, op => ActionLifecycle.perform digest r op
  | .postgres, .enqueueRequested clock request =>
    ((PostgresExternalActionsRepository.enqueueRequested digest clock request).run r).2
  | .postgres, .claimDispatch clock input =>
    ((PostgresExternalActionsRepository.claimDispatch clock input).run r).2
  | .postgres, .recordDispatchAccepted clock input =>
    ((PostgresExternalActionsRepository.recordDispatchAccepted clock input).run r).2
  | .postgres, .scheduleDispatchRetry clock input =>
    ((PostgresExternalActionsRepository.scheduleDispatchRetry clock input).run r).2
  | .postgres, .failDispatch clock input =>
    ((PostgresExternalActionsRepository.failDispatch clock input).run r).2
  | .postgres, .recordOutcome clock input =>
    ((PostgresExternalActionsRepository.recordOutcome clock input).run r).2

end

/-- The request of a call. -/
def asked : Operation → Option ExternalActionRequest
  | .enqueueRequested _ request => some request
  | _ => none

section
variable {digest : ExternalActionRequest → String} {P : ExternalActionRequest → Prop}
  {r t : InMemoryExternalActionsRepository}

theorem Filed.calm (h : Filed digest P r) {m : ActionStore α} (calm : AlwaysCalm m) :
    Filed digest P (m.run r).2 := h.refiled (calm r h.named)

/-- A request that is no request changes nothing. -/
theorem refused_run (clock : Clock) {q : ExternalActionRequest}
    (invalid : ¬ externalActionRequestSchema q = true) (backend : Backend) :
    (backend.enqueueRequested digest clock q).run r = (.error .zod, r) := by
  cases backend with
  | memory =>
    unfold Backend.enqueueRequested InMemoryExternalActionsRepository.enqueueRequested
    rw [Store.run_bind, Store.run_require, if_neg invalid]
  | postgres =>
    unfold Backend.enqueueRequested PostgresExternalActionsRepository.enqueueRequested
    rw [Store.run_bind, Store.run_require, if_neg invalid]

theorem backend_answers (h : Filed digest P r)
    (blind : ∀ q tenantId, digest { q with tenantId } = digest q) (backend : Backend) (clock : Clock)
    {q : ExternalActionRequest} (valid : externalActionRequestSchema q = true) (asks : P q)
    (columns : P (columns q)) :
    (backend.enqueueRequested digest clock q).Ends r fun x t =>
      Answered digest q r (met r (backend.tenant q.tenantId) q) x t ∧ Filed digest P t := by
  cases backend with
  | memory => exact request_answers h clock valid asks
  | postgres => exact postgres_answers h blind clock valid columns

theorem requested_filed (h : Filed digest P r)
    (blind : ∀ q tenantId, digest { q with tenantId } = digest q) (backend : Backend) (clock : Clock)
    {q : ExternalActionRequest} (asks : P q) (columns : P (columns q)) :
    Filed digest P ((backend.enqueueRequested digest clock q).run r).2 := by
  by_cases valid : externalActionRequestSchema q = true
  · exact (backend_answers h blind backend clock valid asks columns).2
  · rw [refused_run clock valid]
    exact h

theorem perform_filed (h : Filed digest P r)
    (blind : ∀ q tenantId, digest { q with tenantId } = digest q) (backend : Backend) {op : Operation}
    (asks : ∀ q, asked op = some q → P q ∧ P (columns q)) :
    Filed digest P (backend.perform digest r op) := by
  cases op with
  | enqueueRequested clock q =>
    obtain ⟨given, stored⟩ := asks q rfl
    have filed := requested_filed h blind backend clock given stored
    cases backend <;> exact filed
  | claimDispatch clock input =>
    cases backend with
    | memory => exact Filed.calm h (claim_calm clock input)
    | postgres => exact Filed.calm h (postgres_claim_calm clock input)
  | recordDispatchAccepted clock input =>
    cases backend with
    | memory => exact Filed.calm h (accept_calm clock input)
    | postgres => exact Filed.calm h (postgres_accept_calm clock input)
  | scheduleDispatchRetry clock input =>
    cases backend with
    | memory => exact Filed.calm h (retry_calm clock input)
    | postgres => exact Filed.calm h (postgres_retry_calm clock input)
  | failDispatch clock input =>
    cases backend with
    | memory => exact Filed.calm h (fail_calm clock input)
    | postgres => exact Filed.calm h (postgres_fail_calm clock input)
  | recordOutcome clock input =>
    cases backend with
    | memory => exact Filed.calm h (outcome_calm clock input)
    | postgres => exact Filed.calm h (postgres_outcome_calm clock input)

theorem runs_filed (blind : ∀ q tenantId, digest { q with tenantId } = digest q) (backend : Backend)
    {log : List Operation} (asks : ∀ op ∈ log, ∀ q, asked op = some q → P q ∧ P (columns q)) :
    Filed digest P (runs (fun r op => backend.perform digest r op) empty log) := by
  induction log using List.reverseRecOn with
  | nil => exact empty_filed
  | append_singleton log op ih =>
    rw [runs_append]
    apply perform_filed (ih fun op earlier => asks op (List.mem_append_left _ earlier)) blind
    exact asks op (by simp)

/-- Two actions of one tenant with one action id are one. -/
theorem sole (h : Filed digest P r) {a b : ExternalActionRecord} (stored : a ∈ r.actionsById.values)
    (stored' : b ∈ r.actionsById.values) (tenant : a.tenantId = b.tenantId)
    (action : a.actionId = b.actionId) : a = b := by
  obtain ⟨i, here⟩ := (InsertionMap.mem_values _ a).mp stored
  obtain ⟨j, there⟩ := (InsertionMap.mem_values _ b).mp stored'
  have indexed := (h.byAction (key a.tenantId a.actionId) i).mpr ⟨a, here, rfl⟩
  have indexed' := (h.byAction (key a.tenantId a.actionId) j).mpr ⟨b, there, by rw [tenant, action]⟩
  rw [indexed] at indexed'
  cases indexed'
  exact Option.some.inj (here.symm.trans there)

theorem met_of_action (h : Filed digest P r) {a : ExternalActionRecord} {q : ExternalActionRequest}
    (stored : a ∈ r.actionsById.values) (action : a.actionId = q.actionId) : met r a.tenantId q = some a := by
  have found : r.actionsById.values.find? (sameAction a.tenantId q.actionId) = some a := by
    cases first : r.actionsById.values.find? (sameAction a.tenantId q.actionId) with
    | none =>
      have missed := List.find?_eq_none.mp first a stored
      simp [sameAction, action] at missed
    | some b =>
      have fits := List.find?_some first
      simp only [sameAction, Bool.and_eq_true, beq_iff_eq] at fits
      rw [sole h (List.mem_of_find?_eq_some first) stored fits.1 (fits.2.trans action.symm)]
  unfold met
  rw [found, Option.some_or]

/-- A stored action of the tenant that a request shares a name with. -/
def Shares (tenantId : String) (q : ExternalActionRequest) (a : ExternalActionRecord) : Prop :=
  a.tenantId = tenantId ∧ (a.actionId = q.actionId ∨ a.idempotencyKey = q.idempotencyKey)

theorem met_some {tenantId : String} {q : ExternalActionRequest} {a : ExternalActionRecord}
    (found : met r tenantId q = some a) : a ∈ r.actionsById.values ∧ Shares tenantId q a := by
  rcases Option.or_eq_some_iff.mp found with first | ⟨_, second⟩
  · have fits := List.find?_some first
    simp only [sameAction, Bool.and_eq_true, beq_iff_eq] at fits
    exact ⟨List.mem_of_find?_eq_some first, fits.1, Or.inl fits.2⟩
  · have fits := List.find?_some second
    simp only [sameKey, Bool.and_eq_true, beq_iff_eq] at fits
    exact ⟨List.mem_of_find?_eq_some second, fits.1, Or.inr fits.2⟩

theorem met_none {tenantId : String} {q : ExternalActionRequest} (unmet : met r tenantId q = none)
    {a : ExternalActionRecord} (stored : a ∈ r.actionsById.values) : ¬ Shares tenantId q a := by
  obtain ⟨action, idempotency⟩ := Option.or_eq_none_iff.mp unmet
  have other := List.find?_eq_none.mp action a stored
  have other' := List.find?_eq_none.mp idempotency a stored
  rintro ⟨tenant, shared | shared⟩
  · simp [sameAction, tenant, shared] at other
  · simp [sameKey, tenant, shared] at other'

end

section
variable (numbers : NumberTexts) (sha256 : String → String)

/-- The digests of the two do not collide. -/
def Apart (a b : ExternalActionRequest) : Prop :=
  sha256 (stableJson numbers (digestContent a)) = sha256 (stableJson numbers (digestContent b)) →
    stableJson numbers (digestContent a) = stableJson numbers (digestContent b)

/-- What is asked of the requests before `q`. -/
def Digestible (q p : ExternalActionRequest) : Prop :=
  IsJson (.obj p.requestPayload) ∧ Apart numbers sha256 p q

/-- A stored action of the tenant whose request is the same. -/
def Replay (tenantId : String) (q : ExternalActionRequest) (a : ExternalActionRecord) : Prop :=
  a.tenantId = tenantId ∧ SameRequest (requestOf a) q

theorem replays_iff {r : InMemoryExternalActionsRepository} {q : ExternalActionRequest}
    (h : Filed (externalActionRequestDigest numbers sha256) (Digestible numbers sha256 q) r)
    (json : IsJson (.obj q.requestPayload)) {a : ExternalActionRecord} (stored : a ∈ r.actionsById.values) :
    Replays (externalActionRequestDigest numbers sha256) q a ↔ SameRequest (requestOf a) q := by
  obtain ⟨i, here⟩ := (InsertionMap.mem_values _ a).mp stored
  obtain ⟨payload, apart⟩ := h.asked i a here
  have digests := digest_eq_iff numbers payload json apart
  rw [← h.digests i a here] at digests
  constructor
  · rintro ⟨_, _, digested⟩
    exact digests.mp digested
  · intro same
    exact ⟨same.actionId, same.idempotencyKey, digests.mpr same⟩

theorem replay_met {r : InMemoryExternalActionsRepository} {q : ExternalActionRequest} {tenantId : String}
    (h : Filed (externalActionRequestDigest numbers sha256) (Digestible numbers sha256 q) r)
    {a : ExternalActionRecord} (stored : a ∈ r.actionsById.values) (replay : Replay tenantId q a) :
    met r tenantId q = some a := by
  obtain ⟨rfl, same⟩ := replay
  exact met_of_action h stored same.actionId

/-- What a call does with a request, by what is stored. -/
structure Decided (r : InMemoryExternalActionsRepository) (tenantId : String) (q : ExternalActionRequest)
    (x : Except DbError EnqueueExternalActionResult × InMemoryExternalActionsRepository) : Prop where
  duplicate : ∀ a, (∃ event, x.1 = .ok ⟨a, event, true⟩) ↔ a ∈ r.actionsById.values ∧ Replay tenantId q a
  conflict : (∃ message, x.1 = .error (.conflict message)) ↔
    (∃ a ∈ r.actionsById.values, Shares tenantId q a) ∧ ¬ ∃ a ∈ r.actionsById.values, Replay tenantId q a
  unchanged : (∃ message, x.1 = .error (.conflict message)) → x.2 = r

theorem replay_shares {tenantId : String} {q : ExternalActionRequest} {a : ExternalActionRecord}
    (replay : Replay tenantId q a) : Shares tenantId q a := ⟨replay.1, Or.inl replay.2.actionId⟩

theorem answered_decided {digest : ExternalActionRequest → String} {r : InMemoryExternalActionsRepository}
    {tenantId : String} {q : ExternalActionRequest}
    {x : Except DbError EnqueueExternalActionResult × InMemoryExternalActionsRepository}
    (answered : Answered digest q r (met r tenantId q) x.1 x.2)
    (same : ∀ a ∈ r.actionsById.values, Replays digest q a ↔ SameRequest (requestOf a) q)
    (known : ∀ a ∈ r.actionsById.values, Replay tenantId q a → met r tenantId q = some a) :
    Decided r tenantId q x := by
  obtain ⟨result, t⟩ := x
  cases found : met r tenantId q with
  | none =>
    have unshared : ¬ ∃ a ∈ r.actionsById.values, Shares tenantId q a :=
      fun ⟨a, stored, shared⟩ => met_none found stored shared
    rw [found] at answered
    cases answered with
    | added fresh quiet =>
      constructor
      · intro a
        constructor
        · rintro ⟨event, returned⟩
          exact absurd returned (fresh a event)
        · rintro ⟨stored, replay⟩
          exact absurd ⟨a, stored, replay_shares replay⟩ unshared
      · constructor
        · rintro ⟨message, thrown⟩
          exact absurd thrown (quiet message)
        · rintro ⟨shared, _⟩
          exact absurd shared unshared
      · rintro ⟨message, thrown⟩
        exact absurd thrown (quiet message)
  | some a =>
    obtain ⟨stored, shared⟩ := met_some found
    have only : ∀ b ∈ r.actionsById.values, Replay tenantId q b → b = a := fun b member replay =>
      Option.some.inj ((known b member replay).symm.trans found)
    rw [found] at answered
    cases answered with
    | duplicate event replays kept =>
      have replay : Replay tenantId q a := ⟨shared.1, (same a stored).mp replays⟩
      constructor
      · intro b
        constructor
        · rintro ⟨_, returned⟩
          cases returned
          exact ⟨stored, replay⟩
        · rintro ⟨member, again⟩
          rw [only b member again]
          exact ⟨event, rfl⟩
      · constructor
        · rintro ⟨_, thrown⟩
          cases thrown
        · rintro ⟨_, none⟩
          exact absurd ⟨a, stored, replay⟩ none
      · rintro ⟨_, thrown⟩
        cases thrown
    | conflict message differs =>
      have none : ¬ ∃ b ∈ t.actionsById.values, Replay tenantId q b := by
        rintro ⟨b, member, replay⟩
        obtain rfl := only b member replay
        exact differs ((same b stored).mpr replay.2)
      constructor
      · intro b
        constructor
        · rintro ⟨_, returned⟩
          cases returned
        · rintro ⟨member, replay⟩
          exact absurd ⟨b, member, replay⟩ none
      · exact ⟨fun _ => ⟨⟨a, stored, shared⟩, none⟩, fun _ => ⟨message, rfl⟩⟩
      · exact fun _ => rfl

/-- Requests have one digest exactly when they ask for the same. After any calls
a request returns the stored action that asked for the same in its tenant, and
is a conflict, which changes nothing, when there is none but one of its names
is taken. -/
theorem requests_identified (backend : Backend) (log : List Operation) (clock : Clock)
    {q : ExternalActionRequest} (valid : externalActionRequestSchema q = true)
    (json : IsJson (.obj q.requestPayload))
    (before : ∀ op ∈ log, ∀ p, asked op = some p → Digestible numbers sha256 q p) :
    (∀ a b : ExternalActionRequest, IsJson (.obj a.requestPayload) → IsJson (.obj b.requestPayload) →
      Apart numbers sha256 a b →
        (externalActionRequestDigest numbers sha256 a = externalActionRequestDigest numbers sha256 b ↔
          SameRequest a b)) ∧
      let digest := externalActionRequestDigest numbers sha256
      let r := runs (fun r op => backend.perform digest r op) empty log
      let x := (backend.enqueueRequested digest clock q).run r
      let tenantId := backend.tenant q.tenantId
      Decided r tenantId q x := by
  refine ⟨fun a b json json' apart => digest_eq_iff numbers json json' apart, ?_⟩
  intro digest r x tenantId
  have filed : Filed digest (Digestible numbers sha256 q) r := by
    apply runs_filed (fun _ _ => rfl) backend
    intro op member p given
    exact ⟨before op member p given, before op member p given⟩
  have own : Digestible numbers sha256 q q := ⟨json, fun _ => rfl⟩
  have answered : Answered digest q r (met r tenantId q) x.1 x.2 :=
    (backend_answers filed (fun _ _ => rfl) backend clock valid own own).1
  have known : ∀ a ∈ r.actionsById.values, Replay tenantId q a → met r tenantId q = some a :=
    fun a stored replay => replay_met numbers sha256 filed stored replay
  have same : ∀ a ∈ r.actionsById.values, Replays digest q a ↔ SameRequest (requestOf a) q :=
    fun a stored => replays_iff numbers sha256 filed json stored
  exact answered_decided answered same known

end

/-- The first request is stored. -/
theorem first_stored {digest : ExternalActionRequest → String} (clock : Clock) {q : ExternalActionRequest}
    (valid : externalActionRequestSchema q = true)
    (record : externalActionRecordSchema (requestedAction q (idText 1) (digest q) (clock 0)) = true) :
    (enqueueRequested digest clock q).Ends empty fun _ t =>
      t.actionsById = InsertionMap.empty.set (idText 1) (requestedAction q (idText 1) (digest q) (clock 0)) := by
  apply Store.Ends.require_bind
  · intro refused
    exact absurd valid refused
  intro _
  apply Store.Ends.read_bind
  apply Store.Ends.read_bind
  apply ActionEffects.newId_bind
  apply Store.Ends.require_bind
  · intro refused
    exact absurd record refused
  intro _
  apply ActionEffects.save_bind
  apply Store.Ends.modify_bind
  have tenant : isUuid (requestedAction q (idText 1) (digest q) (clock 0)).tenantId = true := valid_tenant valid
  apply ActionEffects.append_bind tenant (join_ne_empty _ _) (by decide)
  intro added s logged
  have consistent : s.outboxRepository.Consistent :=
    logged.outbox ▸ InMemoryOutboxRepository.empty_consistent
  apply ActionEffects.enqueue_bind consistent (ActionLifecycle.dispatch_valid valid)
  intro _ t sent
  apply Store.Ends.pure
  rw [sent.frame.actions, logged.actions]
  rfl

/-- Numbers written as their places in a list of all. -/
def ranks : NumberTexts where
  text value := (decimal (Encodable.encode value)).toList
  distinct _ _ same := Encodable.encode_injective (decimal_inj (String.toList_inj.mp same))
  filled value := decimal_ne_nil _
  plain value c member := by simp [isNumberChar, decimal_digits member]

def acme : String := "11111111-1111-4111-8111-111111111111"

/-- A request to post a text. -/
def posting (payload : Payload) : ExternalActionRequest :=
  { tenantId := acme, actionId := "a", actionType := "post", approvedBy := "ops",
    idempotencyKey := "k", requestPayload := payload }

def posted : ExternalActionRequest := posting [("text", .str "hi"), ("to", .str "all")]

def reposted : ExternalActionRequest := posting [("to", .str "all"), ("text", .str "hi")]

/-- The text both have, which has no numbers. -/
def postingText : String :=
  "\x7b\"actionId\":\"a\",\"actionType\":\"post\",\"approvedBy\":\"ops\",\"idempotencyKey\":\"k\"," ++
    "\"payload\":\x7b\"text\":\"hi\",\"to\":\"all\"\x7d\x7d"

/-- SHA-256 at that text. -/
def sha256 (text : String) : String :=
  if text = postingText then "e98fb7b55c09b698153f1a224410e0c5ceb747240f76c1171bbfa0e286d24f75" else text

def requestDigest : ExternalActionRequest → String := externalActionRequestDigest ranks sha256

theorem posting_same : SameRequest posted reposted := by
  constructor
  · rfl
  · rfl
  · rfl
  · rfl
  · refine ⟨rfl, (sameFields_iff _ _).mpr ?_⟩
    intro field member
    simp only [posted, posting, List.mem_cons, List.not_mem_nil, or_false] at member
    rcases member with rfl | rfl
    · exact ⟨.str "hi", rfl, rfl⟩
    · exact ⟨.str "all", rfl, rfl⟩

theorem posting_json (payload : Payload) (fields : payload = posted.requestPayload ∨
    payload = reposted.requestPayload) : IsJson (.obj payload) := by
  rw [isJson_obj]
  rcases fields with rfl | rfl <;> simp [posted, reposted, posting, IsJson]

theorem posting_text : stableJson ranks (digestContent posted) = postingText := by decide

theorem reposting_text : stableJson ranks (digestContent reposted) = postingText := by decide

theorem posted_digest : requestDigest posted =
    "e98fb7b55c09b698153f1a224410e0c5ceb747240f76c1171bbfa0e286d24f75" := by
  unfold requestDigest externalActionRequestDigest sha256
  rw [posting_text, if_pos rfl]

def postedAction : ExternalActionRecord := requestedAction posted (idText 1) (requestDigest posted) 0

/-- The tables after the first request. -/
def afterPosting : InMemoryExternalActionsRepository :=
  runs (fun r op => Backend.memory.perform requestDigest r op) empty [.enqueueRequested (fun _ => 0) posted]

theorem posted_stored : postedAction ∈ afterPosting.actionsById.values := by
  have valid : externalActionRequestSchema posted = true := by decide
  have record : externalActionRecordSchema postedAction = true := by
    unfold postedAction
    rw [posted_digest]
    decide
  have stored := first_stored (fun _ => 0) valid record
  have after : afterPosting = ((enqueueRequested requestDigest (fun _ => 0) posted).run empty).2 := by
    simp only [afterPosting, runs_cons, runs_nil, Backend.perform, ActionLifecycle.perform]
  rw [after, stored, InsertionMap.values_set_fresh rfl]
  exact List.mem_append_right _ (List.mem_singleton.mpr rfl)

/-- The same request with its payload the other way round is a replay. -/
theorem reposted_identified :
    ∃ event, ((Backend.memory.enqueueRequested requestDigest (fun _ => 0) reposted).run afterPosting).1 =
      .ok ⟨postedAction, event, true⟩ := by
  have valid : externalActionRequestSchema reposted = true := by decide
  have json : IsJson (.obj reposted.requestPayload) := posting_json _ (Or.inr rfl)
  have before : ∀ op ∈ [Operation.enqueueRequested (fun _ => 0) posted], ∀ p, asked op = some p →
      Digestible ranks sha256 reposted p := by
    intro op member p given
    rw [List.mem_singleton.mp member] at given
    cases given
    exact ⟨posting_json _ (Or.inl rfl), fun _ => posting_text.trans reposting_text.symm⟩
  have identified := (requests_identified ranks sha256 .memory [.enqueueRequested (fun _ => 0) posted]
    (fun _ => 0) valid json before).2
  dsimp only at identified
  unfold afterPosting requestDigest
  apply (identified.duplicate postedAction).mpr
  exact ⟨posted_stored, rfl, posting_same⟩

end VantGrowth.Proofs.RequestIdentity
