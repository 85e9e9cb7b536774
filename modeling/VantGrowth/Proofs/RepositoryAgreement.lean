import VantGrowth.Lib.Runs
import VantGrowth.Proofs.ActionTwins
import VantGrowth.Proofs.RequestIdentity

namespace VantGrowth.Proofs.RepositoryAgreement
open Db hiding Backend
open Db.InMemoryExternalActionsRepository Lib Lib.Text Lib.Logs
open ActionEffects ActionFiling ActionTwins
open ActionLifecycle (Operation)
open ActionSteps (Holds)
open RequestIdentity (Backend)
open PostgresExternalActionsRepository (claimable)

/-- What a call tells its caller besides the action. -/
inductive Verdict where
  | claimed | deferred | in_flight | settled
  | duplicate (isDuplicate : Bool)
  | recorded

structure Reply where
  verdict : Verdict
  action : ExternalActionRecord

/-- The reply with the row of its action. -/
def Reply.row (reply : Reply) : Reply := { reply with action := rowOf reply.action }

def requestReply (result : EnqueueExternalActionResult) : Reply :=
  ⟨.duplicate result.isDuplicate, result.action⟩

def claimReply : ExternalActionDispatchClaim → Reply
  | .claimed action => ⟨.claimed, action⟩
  | .deferred action => ⟨.deferred, action⟩
  | .in_flight action => ⟨.in_flight, action⟩
  | .settled action => ⟨.settled, action⟩

def settlementReply (action : ExternalActionRecord) : Reply := ⟨.recorded, action⟩

def outcomeReply (result : RecordExternalActionOutcomeResult) : Reply :=
  ⟨.duplicate result.isDuplicate, result.action⟩

/-- What the caller sees: the reply, or the class of what was thrown. -/
def seen (reply : α → Reply) : Except DbError α → Except ErrorClass Reply
  | .ok x => .ok (reply x)
  | .error e => .error (errorClass e)

section
variable (digest : ExternalActionRequest → String)

def answer (r : InMemoryExternalActionsRepository) : Backend → Operation → Except ErrorClass Reply
  | .memory, .enqueueRequested clock request =>
    seen requestReply ((InMemoryExternalActionsRepository.enqueueRequested digest clock request).run r).1
  | .memory, .claimDispatch clock input =>
    seen claimReply ((InMemoryExternalActionsRepository.claimDispatch clock input).run r).1
  | .memory, .recordDispatchAccepted clock input =>
    seen settlementReply ((InMemoryExternalActionsRepository.recordDispatchAccepted clock input).run r).1
  | .memory, .scheduleDispatchRetry clock input =>
    seen settlementReply ((InMemoryExternalActionsRepository.scheduleDispatchRetry clock input).run r).1
  | .memory, .failDispatch clock input =>
    seen settlementReply ((InMemoryExternalActionsRepository.failDispatch clock input).run r).1
  | .memory, .recordOutcome clock input =>
    seen outcomeReply ((InMemoryExternalActionsRepository.recordOutcome clock input).run r).1
  | .postgres, .enqueueRequested clock request =>
    seen requestReply ((PostgresExternalActionsRepository.enqueueRequested digest clock request).run r).1
  | .postgres, .claimDispatch clock input =>
    seen claimReply ((PostgresExternalActionsRepository.claimDispatch clock input).run r).1
  | .postgres, .recordDispatchAccepted clock input =>
    seen settlementReply ((PostgresExternalActionsRepository.recordDispatchAccepted clock input).run r).1
  | .postgres, .scheduleDispatchRetry clock input =>
    seen settlementReply ((PostgresExternalActionsRepository.scheduleDispatchRetry clock input).run r).1
  | .postgres, .failDispatch clock input =>
    seen settlementReply ((PostgresExternalActionsRepository.failDispatch clock input).run r).1
  | .postgres, .recordOutcome clock input =>
    seen outcomeReply ((PostgresExternalActionsRepository.recordOutcome clock input).run r).1

/-- The tables after a sequence of calls. -/
def after (backend : Backend) (calls : List Operation) : InMemoryExternalActionsRepository :=
  runs (fun r op => backend.perform digest r op) empty calls

end

/-- The tables hold the rows of the actions in memory, and the same event keys
for each. -/
structure SameHoldings (r t : InMemoryExternalActionsRepository) : Prop where
  actions : ∀ id, t.actionsById.get id = (r.actionsById.get id).map rowOf
  eventKeys : ∀ id, (t.ledger id).map (·.eventKey) = (r.ledger id).map (·.eventKey)

/-- What a call must meet for the repositories to agree on it. The stored actions
it may touch are the tenant's under the spelling it uses, and the dates it has
Postgres write are dates. -/
def Fits (r : InMemoryExternalActionsRepository) : Operation → Prop
  | .enqueueRequested _ request => Spelled r request.tenantId (SharesName request)
  | .claimDispatch clock input =>
    let now := input.now.getD (.valid (clock 0))
    Spelled r input.tenantId (Names input.toDispatchIdentity) ∧
      ∀ a, Holds r input.toDispatchIdentity a → ValidIdentity input.toDispatchIdentity →
        input.leaseOwner ≠ "" ∧ input.leaseDurationMs.atMostZero = false → claimable now a = true →
          now.plus input.leaseDurationMs ≠ .invalid
  | .recordDispatchAccepted _ input =>
    Spelled r input.tenantId (Names input.toDispatchIdentity) ∧
      (ValidIdentity input.toDispatchIdentity → input.now ≠ some .invalid) ∧ NonEmpty input.receipt
  | .scheduleDispatchRetry clock input =>
    Spelled r input.tenantId (Names input.toDispatchIdentity) ∧
      (ValidIdentity input.toDispatchIdentity → input.retryAfterMs.atMostZero = false →
        (input.now.getD (.valid (clock 0))).plus input.retryAfterMs ≠ .invalid)
  | .failDispatch _ input =>
    Spelled r input.tenantId (Names input.toDispatchIdentity) ∧
      (ValidIdentity input.toDispatchIdentity → input.now ≠ some .invalid)
  | .recordOutcome _ input => Spelled r input.tenantId (Names (calledBack input))

section
variable {digest : ExternalActionRequest → String} {P : ExternalActionRequest → Prop}
  {r t : InMemoryExternalActionsRepository}

/-- Twins are seen alike. -/
theorem seen_twin {V : α → β → Prop} {m : ActionStore α} {n : ActionStore β} {reply : α → Reply}
    {reply' : β → Reply} (twin : Twin Mirrors SameClass V m n r t)
    (same : ∀ x y, V x y → reply' y = (reply x).row) :
    (seen reply (m.run r).1).map Reply.row = seen reply' (n.run t).1 := by
  have outcomes := twin.outcomes
  generalize (m.run r).1 = x at outcomes ⊢
  generalize (n.run t).1 = y at outcomes ⊢
  cases outcomes with
  | ok related => exact congrArg Except.ok (same _ _ related).symm
  | error related => exact congrArg Except.error related

theorem call_twin (h : Mirrors r t) (memory : Filed digest P r) (postgres : Filed digest P t)
    (sound : Sound r) (hex : ∀ q, jsLength (digest q) = 64) {op : Operation} (fits : Fits r op) :
    (answer digest r .memory op).map Reply.row = answer digest t .postgres op ∧
      Mirrors (Backend.memory.perform digest r op) (Backend.postgres.perform digest t op) := by
  cases op with
  | enqueueRequested clock request =>
    have twin := request_twin h memory postgres hex clock request fits
    refine ⟨seen_twin twin ?_, twin.stores⟩
    intro x y same
    unfold requestReply Reply.row
    rw [same.1, same.2]
  | claimDispatch clock input =>
    have twin := claim_twin h memory postgres sound clock input fits.1 fits.2
    refine ⟨seen_twin twin ?_, twin.stores⟩
    intro x y same
    rw [same]
    cases x <;> rfl
  | recordDispatchAccepted clock input =>
    have twin := accept_twin h memory postgres clock input fits.1 fits.2.1 fits.2.2
    exact ⟨seen_twin twin fun x y same => congrArg settlementReply same, twin.stores⟩
  | scheduleDispatchRetry clock input =>
    have twin := retry_twin h memory postgres clock input fits.1 fits.2
    exact ⟨seen_twin twin fun x y same => congrArg settlementReply same, twin.stores⟩
  | failDispatch clock input =>
    have twin := fail_twin h memory postgres clock input fits.1 fits.2
    exact ⟨seen_twin twin fun x y same => congrArg settlementReply same, twin.stores⟩
  | recordOutcome clock input =>
    have twin := outcome_twin h memory postgres clock input fits
    exact ⟨seen_twin twin fun x y same => congrArg outcomeReply same, twin.stores⟩

/-- What holds between the two after every sequence of calls. -/
structure Paired (digest : ExternalActionRequest → String) (r t : InMemoryExternalActionsRepository) :
    Prop where
  mirrors : Mirrors r t
  memory : Filed digest (fun _ => True) r
  postgres : Filed digest (fun _ => True) t
  sound : Sound r

theorem empty_paired : Paired digest empty empty where
  mirrors := empty_mirrors
  memory := empty_filed
  postgres := empty_filed
  sound := ActionLifecycle.empty_sound

theorem Paired.perform (h : Paired digest r t) (blind : ∀ q tenantId, digest { q with tenantId } = digest q)
    (hex : ∀ q, jsLength (digest q) = 64) {op : Operation} (fits : Fits r op) :
    Paired digest (Backend.memory.perform digest r op) (Backend.postgres.perform digest t op) where
  mirrors := (call_twin h.mirrors h.memory h.postgres h.sound hex fits).2
  memory := RequestIdentity.perform_filed h.memory blind .memory fun _ _ => ⟨trivial, trivial⟩
  postgres := RequestIdentity.perform_filed h.postgres blind .postgres fun _ _ => ⟨trivial, trivial⟩
  sound := ActionLifecycle.effect_sound h.sound (ActionLifecycle.perform_effect digest h.sound op)

theorem after_paired (blind : ∀ q tenantId, digest { q with tenantId } = digest q)
    (hex : ∀ q, jsLength (digest q) = 64) {log : List Operation}
    (fits : Each (fun before op => Fits (after digest .memory before) op) log) :
    Paired digest (after digest .memory log) (after digest .postgres log) := by
  induction log using List.reverseRecOn with
  | nil => exact empty_paired
  | append_singleton log op ih =>
    unfold after
    rw [runs_append, runs_append]
    exact (ih fits.init).perform blind hex fits.at

end

/-- In memory and in Postgres every call of a sequence whose calls all fit is
answered alike, and the two hold the same afterwards. -/
theorem actions_repositories_agree (numbers : NumberTexts) (sha256 : String → String)
    (hex : ∀ text, jsLength (sha256 text) = 64) {log : List Operation}
    (fits : Each (fun before op =>
      Fits (after (externalActionRequestDigest numbers sha256) .memory before) op) log) :
    let digest := externalActionRequestDigest numbers sha256
    (∀ before op later, log = before ++ op :: later →
      (answer digest (after digest .memory before) .memory op).map Reply.row =
        answer digest (after digest .postgres before) .postgres op) ∧
      SameHoldings (after digest .memory log) (after digest .postgres log) := by
  intro digest
  constructor
  · intro before op later split
    rw [split] at fits
    have paired := after_paired (fun _ _ => rfl) (fun _ => hex _) fits.init
    exact (call_twin paired.mirrors paired.memory paired.postgres paired.sound (fun _ => hex _) fits.at).1
  · have paired := after_paired (fun _ _ => rfl) (fun _ => hex _) fits
    exact ⟨paired.mirrors.actions, paired.mirrors.events⟩

/-- SHA-256 at the text of the request below. -/
def sha256 (text : String) : String :=
  if text = RequestIdentity.postingText then "e98fb7b55c09b698153f1a224410e0c5ceb747240f76c1171bbfa0e286d24f75"
  else "0000000000000000000000000000000000000000000000000000000000000000"

theorem sha256_length (text : String) : jsLength (sha256 text) = 64 := by
  unfold sha256
  split <;> decide

def requestDigest : ExternalActionRequest → String := externalActionRequestDigest RequestIdentity.ranks sha256

/-- Noon of 19 July 2026. -/
def noon : Clock := fun _ => 1784462400000

def named : DispatchIdentity := ⟨RequestIdentity.acme, "a", "k"⟩

def requesting : Operation := .enqueueRequested noon RequestIdentity.posted

def claiming : Operation :=
  .claimDispatch noon { named with leaseOwner := "w", leaseDurationMs := .finite 60000 }

theorem requested_stored {i : String} {a : ExternalActionRecord}
    (stored : (after requestDigest .memory [requesting]).actionsById.get i = some a) :
    a.tenantId = RequestIdentity.acme := by
  have valid : externalActionRequestSchema RequestIdentity.posted = true := by decide
  have hex : jsLength (requestDigest RequestIdentity.posted) = 64 := sha256_length _
  have made := RequestIdentity.first_stored noon valid (record_valid valid hex (idText 1) (noon 0))
  have table : (after requestDigest .memory [requesting]).actionsById = _ := made
  rw [table, InsertionMap.get_set] at stored
  split at stored
  · cases stored
    rfl
  · cases stored

/-- The request and its claim fit, and both repositories grant the claim alike. -/
theorem claiming_agrees :
    (answer requestDigest (after requestDigest .memory [requesting]) .memory claiming).map Reply.row =
      answer requestDigest (after requestDigest .postgres [requesting]) .postgres claiming := by
  have first : Fits empty requesting := by
    intro i a stored
    cases stored
  have second : Fits (after requestDigest .memory [requesting]) claiming := by
    constructor
    · intro i a stored _ _
      exact requested_stored stored
    · intro a _ _ _ _
      have due : (JsDate.valid 1784462400000).plus (.finite 60000) ≠ .invalid := by decide +kernel
      exact due
  have fits : Each (fun before op => Fits (after requestDigest .memory before) op) [requesting, claiming] :=
    ⟨first, second, trivial⟩
  have agreed := actions_repositories_agree RequestIdentity.ranks sha256 sha256_length fits
  exact agreed.1 [requesting] claiming [] rfl

/-- A retry in a hundred million days. -/
def overdue : Operation :=
  .scheduleDispatchRetry noon
    { named with leaseOwner := "w", retryAfterMs := .finite 8640000000000000, errorMessage := .ofString "late" }

/-- Memory has scheduled the retry by the time it throws; Postgres has not. -/
theorem overdue_diverges :
    ((after requestDigest .memory [requesting, claiming, overdue]).actionsById.get (idText 1)).map (·.state) =
        some .retry_scheduled ∧
      ((after requestDigest .postgres [requesting, claiming, overdue]).actionsById.get (idText 1)).map (·.state) =
        some .dispatching := by
  decide +kernel

end VantGrowth.Proofs.RepositoryAgreement
