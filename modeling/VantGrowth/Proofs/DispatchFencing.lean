import VantGrowth.Proofs.DispatchExclusion

namespace VantGrowth.Proofs.DispatchFencing
open Db Db.InMemoryExternalActionsRepository Lib Lib.Logs Publisher
open ActionSteps ActionCalls PublisherSteps PublisherAwaits PublisherLogs DispatchExclusion

/-- The action and the owner a settlement call gives. -/
def reportOf : Op → Option (DispatchIdentity × String)
  | .recordDispatchAccepted input | .acceptRow _ input =>
    some (input.toDispatchIdentity, input.leaseOwner)
  | .scheduleDispatchRetry input | .retryRow _ input =>
    some (input.toDispatchIdentity, input.leaseOwner)
  | .failDispatch input | .failRow _ input => some (input.toDispatchIdentity, input.leaseOwner)
  | _ => none

/-- The attempt was granted to the owner, for the action. -/
def grantedTo (identity : DispatchIdentity) (owner : String) (g : ExternalActionRecord) : Bool :=
  g.tenantId == identity.tenantId && g.actionId == identity.actionId &&
    g.idempotencyKey == identity.idempotencyKey && g.dispatchLeaseOwner == some owner

/-- The attempt an entry grants to worker `i`. -/
def grantedBy (i : Nat) : Entry → Option ExternalActionRecord
  | .did (.worker j s) op r => if j = i then granted (.did (.worker j s) op r) else none
  | _ => none

/-- The attempts a worker can be reporting on: a cycle its own last one, a
direct call any that was granted to its owner. -/
def reported (log : Log) (i : Nat) (s : Start) (identity : DispatchIdentity) (owner : String) :
    List ExternalActionRecord :=
  match s with
  | .publishCycle _ _ _ =>
    ((log.filterMap (grantedBy i)).filter (grantedTo identity owner)).getLast?.toList
  | _ => (log.filterMap granted).filter (grantedTo identity owner)

/-- A settlement call reports on an attempt after a later one was granted. -/
def late (log : Log) : Entry → Bool
  | .did (.worker i s) op _ =>
    match reportOf op with
    | none => false
    | some (identity, owner) => (reported log i s identity owner).any fun g =>
        (log.filterMap granted).any fun g' =>
          g'.id == g.id && decide (g.dispatchAttempts < g'.dispatchAttempts)
  | _ => false

/-- The action is out for a dispatch under the name the call gives. -/
def heldUnder (w : World) (identity : DispatchIdentity) (owner : String) : Bool :=
  (w.actions.lookup identity.tenantId identity.actionId).any fun a =>
    a.idempotencyKey == identity.idempotencyKey && PostgresExternalActionsRepository.leased owner a

section
variable (d : Deployment) (clock : Instant)

/-- A late report does not meet an attempt under its own owner's name. -/
def Fenced (log : Log) (e : Entry) : Bool :=
  match e with
  | .did _ op _ =>
    !late log e || !(reportOf op).any fun report => heldUnder (after d clock log) report.1 report.2
  | _ => true

/-- A late report leaves the actions, their ledgers and the outbox alone. -/
def Ineffective (log : Log) (e : Entry) : Prop :=
  late log e = true → (after d clock (log ++ [e])).actions = (after d clock log).actions

end

section
variable {d : Deployment} {identity : DispatchIdentity} {owner : String}
  {r : InMemoryExternalActionsRepository}

/-- No stored action is dispatching under the owner. -/
def Apart (identity : DispatchIdentity) (owner : String) (r : InMemoryExternalActionsRepository) :
    Prop :=
  ∀ a, Holds r identity a → PostgresExternalActionsRepository.leased owner a = false

theorem apart_of_unheld {w : World} (unheld : heldUnder w identity owner = false) :
    Apart identity owner w.actions := by
  rintro a ⟨found, keyed⟩
  simpa [heldUnder, found, keyed] using unheld

theorem settlement_apart {verb : String} {rest : ExternalActionRecord → Unit →
    ActionStore ExternalActionRecord} (apart : Apart identity owner r) :
    (InMemoryExternalActionsRepository.find identity >>= fun action =>
      if isSettled action.state = true then pure action
      else requireLease action owner verb >>= rest action).Ends r fun _ t => t = r := by
  refine find_holds_bind (fun _ => rfl) fun a holds => Store.Ends.ite (fun _ => rfl) fun _ => ?_
  refine Store.Ends.require_bind (fun _ => rfl) fun held => ?_
  have leased := apart a holds
  simp [PostgresExternalActionsRepository.leased, held] at leased

theorem row_apart {set : ExternalActionRecord → ExternalActionRecord}
    {log : ExternalActionRecord → ActionStore Unit} (apart : Apart identity owner r) :
    (PostgresExternalActionsRepository.settleRow identity
      (PostgresExternalActionsRepository.leased owner) set log).Ends r fun x t =>
        t = r ∧ ∀ b, x ≠ .ok (some b) := by
  unfold PostgresExternalActionsRepository.settleRow PostgresExternalActionsRepository.updateRow
  cases found : r.lookup identity.tenantId identity.actionId with
  | none => simp [Store.Ends, Store.run_bind, found]
  | some a =>
    have refused : ¬ (a.idempotencyKey = identity.idempotencyKey ∧
        PostgresExternalActionsRepository.leased owner a = true) := by
      rintro ⟨keyed, leased⟩
      rw [apart a ⟨found, keyed⟩] at leased
      cases leased
    simp [Store.Ends, Store.run_bind, found, refused]

/-- The transaction of an update that finds no row. -/
theorem transaction_apart {m : ActionStore (Option ExternalActionRecord)}
    (body : m.Ends r fun x t => t = r ∧ ∀ b, x ≠ .ok (some b)) :
    (Store.transaction m).Ends r fun x t => t = r ∧ ∀ b, x ≠ .ok (some b) :=
  Store.Ends.transaction body (fun _ _ done => done) fun _ _ _ => ⟨rfl, by rintro b ⟨⟩⟩

theorem sent_apart {at_ : JsDate} {set : ExternalActionRecord → ExternalActionRecord}
    {log : ExternalActionRecord → ActionStore Unit} (apart : Apart identity owner r) :
    (PostgresExternalActionsRepository.sendable at_ >>= fun _ =>
      PostgresExternalActionsRepository.settleRow identity
        (PostgresExternalActionsRepository.leased owner) set log).Ends r fun x t =>
          t = r ∧ ∀ b, x ≠ .ok (some b) :=
  Store.Ends.require_bind (fun _ => ⟨rfl, by rintro b ⟨⟩⟩) fun _ => row_apart apart

theorem retryRow_apart {now : Instant} {at_ : JsDate} {input : ScheduleDispatchRetryInput}
    (apart : Apart input.toDispatchIdentity input.leaseOwner r) :
    (PostgresExternalActionsRepository.retryRow now at_ input).Ends r fun x t =>
      t = r ∧ ∀ b, x ≠ .ok (some b) := by
  refine transaction_apart ?_
  refine Store.Ends.bind (R := fun _ t => t = r) ?_ ?_ ?_
  · cases at_.plus input.retryAfterMs <;> rfl
  · rintro e t rfl
    exact ⟨rfl, by rintro b ⟨⟩⟩
  · rintro retryAt t rfl
    exact row_apart apart

/-- The operation leaves the external actions alone. -/
def Spares (m : Store PublisherError World α) (w : World) : Prop :=
  m.Ends w fun _ v => v.actions = w.actions

theorem onActions_spares {call : Instant → ActionStore α} {w : World}
    (spared : ∀ now, (call now).Ends w.actions fun _ t => t = w.actions) :
    Spares (onActions call) w := by
  refine (onActions_run call (spared w.clock)).weaken ?_
  rintro x v ⟨y, t, rfl, rfl, rfl⟩
  rfl

/-- Without a row there is no incident to open. -/
theorem withIncident_spares {phase : FailurePhase} {w : World}
    {call : Instant → ActionStore (Option ExternalActionRecord)}
    (spared : ∀ now, (call now).Ends w.actions fun x t => t = w.actions ∧ ∀ b, x ≠ .ok (some b)) :
    Spares (withIncident d.uuid phase (onActions call)) w := by
  refine Store.Ends.bind (onActions_run call (spared w.clock)) ?_ ?_
  · rintro e v ⟨y, t, ⟨rfl, _⟩, _, rfl⟩
    rfl
  · rintro o v ⟨y, t, ⟨rfl, none_⟩, answer, rfl⟩
    cases o with
    | none => rfl
    | some b =>
      cases y with
      | error e => cases answer
      | ok o =>
        cases answer
        exact absurd rfl (none_ b)

theorem remote_spares {m : Store PublisherError World α} {w : Faulty World}
    (spared : Spares m w.state) :
    (remote m).Ends w fun _ v => v.state.actions = w.state.actions :=
  Store.Ends.faulty spared (fun _ _ _ same => same) (fun _ _ => rfl) fun _ _ _ _ same => same

theorem report_spares {op : Op} {w : Faulty World} (report : reportOf op = some (identity, owner))
    (apart : Apart identity owner w.state.actions) :
    (exec d op).Ends w fun _ v => v.state.actions = w.state.actions := by
  cases op with
  | recordDispatchAccepted input =>
    cases report
    refine remote_spares (onActions_spares fun now => ?_)
    exact Store.Ends.require_bind (fun _ => rfl) fun _ => settlement_apart apart
  | scheduleDispatchRetry input =>
    cases report
    refine remote_spares (onActions_spares fun now => ?_)
    refine Store.Ends.require_bind (fun _ => rfl) fun _ => ?_
    exact Store.Ends.require_bind (fun _ => rfl) fun _ => settlement_apart apart
  | failDispatch input =>
    cases report
    refine remote_spares (onActions_spares fun now => ?_)
    exact Store.Ends.require_bind (fun _ => rfl) fun _ => settlement_apart apart
  | acceptRow at_ input =>
    cases report
    refine remote_spares (onActions_spares fun now => ?_)
    exact (transaction_apart (sent_apart apart)).weaken fun _ _ spared => spared.1
  | retryRow at_ input =>
    cases report
    refine remote_spares (onActions_spares fun now => ?_)
    exact (retryRow_apart apart).weaken fun _ _ spared => spared.1
  | failRow at_ input =>
    cases report
    exact remote_spares (withIncident_spares fun now => transaction_apart (sent_apart apart))
  | _ => cases report

end

/-- Where no late report meets an attempt under its own owner's name, none has
an effect, however the publishers and callers interleave. -/
theorem late_reports_ineffective (d : Deployment) (clock : Instant)
    (labels : List (Machine.Label Op Start))
    (fenced : Each (fun log e => Fenced d clock log e = true)
      (runs (machine d).step (Machine.initial (fresh clock)) labels).log) :
    Each (Ineffective d clock) (runs (machine d).step (Machine.initial (fresh clock)) labels).log := by
  refine Each.of_splits fun a e b split overdue => ?_
  rw [split] at fenced
  have fenced := fenced.at
  cases e with
  | spawned i s => cases overdue
  | did actor op r =>
    cases report : reportOf op with
    | none => cases actor <;> simp [late, report] at overdue
    | some pair =>
      have unheld : heldUnder (after d clock a) pair.1 pair.2 = false := by
        simpa [Fenced, overdue, report] using fenced
      have ends := report_spares (d := d) (w := (machine d).replay (fresh clock) a) report
        (apart_of_unheld unheld)
      unfold after
      rw [Machine.replay_snoc]
      exact ends

/-- While the first publisher waits for n8n its lease expires and another one
claims the action; then n8n refuses the first attempt. -/
def abandoned (second : OutboxPublisher) : List (Machine.Label Op Start) :=
  [.outside (.enqueueRequested ping),
    .outside (.prepare [.failure (some 400) (.ofString "refused") false]),
    .spawn (.publishCycle publisher [acme] 10)] ++ turns 0 3 ++
  [.outside (.tick 200000), .spawn (.publishCycle second [acme] 10)] ++ turns 1 2 ++ turns 0 1

/-- The states of all actions. -/
def states (w : World) : List ExternalActionState := w.actions.actionsById.values.map (·.state)

theorem shared_name_fails_retry :
    ¬ Each (Ineffective (deployed .inMemory) 0)
      (runs (machine (deployed .inMemory)).step (Machine.initial (fresh 0))
        (abandoned publisher)).log := by
  intro ineffective
  have unmoved : Each (fun a e => (!late a e ||
      states (after (deployed .inMemory) 0 (a ++ [e])) == states (after (deployed .inMemory) 0 a)) =
        true)
      (runs (machine (deployed .inMemory)).step (Machine.initial (fresh 0))
        (abandoned publisher)).log := by
    refine Each.of_splits fun a e b split => ?_
    rw [split] at ineffective
    cases overdue : late a e with
    | false => rfl
    | true => simp [states, ineffective.at overdue]
  revert unmoved
  decide +kernel

theorem other_name_ineffective :
    let log := (runs (machine (deployed .inMemory)).step (Machine.initial (fresh 0))
      (abandoned { publisher with n8nDispatchWorkerId := "publisher-2" })).log
    ¬ Each (fun a e => late a e = false) log ∧ Each (Ineffective (deployed .inMemory) 0) log :=
  ⟨by decide +kernel, late_reports_ineffective (deployed .inMemory) 0
    (abandoned { publisher with n8nDispatchWorkerId := "publisher-2" }) (by decide +kernel)⟩

end VantGrowth.Proofs.DispatchFencing
