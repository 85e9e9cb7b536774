import VantGrowth.Proofs.ProposalLifecycle
import VantGrowth.Proofs.PublisherAwaits
import VantGrowth.Proofs.PublisherSteps

namespace VantGrowth.Proofs.PublisherLogs
open Db Lib Publisher ActionSteps ActionCalls IncidentFiling PublisherSteps PublisherAwaits

abbrev Entry := Machine.Entry Res PublisherError Start

abbrev Log := List Entry

/-- Nothing was requested yet and no call is lost before `disturb` says so. -/
def fresh (clock : Instant) : Faulty World := ⟨.empty clock, []⟩

/-- A log publishers and callers can produce. -/
abbrev Explained (d : Deployment) (clock : Instant) (log : Log) : Prop :=
  Machine.Valid (machine d) (Asks d) (fun _ _ _ => True) (fresh clock) log

/-- The world a log leads to. -/
def after (d : Deployment) (clock : Instant) (log : Log) : World :=
  ((machine d).replay (fresh clock) log).state

section
variable {d : Deployment} {clock : Instant}

theorem empty_stored : Stored .empty := by
  refine ⟨InMemoryOutboxRepository.empty_consistent, ?_, ?_⟩
  · rintro i a ⟨⟩
  · rintro i a ⟨⟩

theorem exec_stored (op : Op) {w : Faulty World} (h : Stored w.state.actions) :
    Stored ((exec d op).run w).2.state.actions :=
  (exec_ends (d := d) op h).1.stored h

theorem stored_after (log : Log) : Stored (after d clock log).actions :=
  Machine.replay_invariant (I := fun w : Faulty World => Stored w.state.actions)
    (fun _ op h => exec_stored op h) empty_stored log

theorem after_spawned (a : Log) (i : Nat) (s : Start) :
    after d clock (a ++ [.spawned i s]) = after d clock a :=
  congrArg Faulty.state (Machine.replay_snoc _ _ _ _)

/-- What the last entry of a log did, and what its answer told. -/
theorem did_ends {a b : Log} {actor : Machine.Actor Start} {op : Op}
    {r : Except PublisherError (Res op)} (valid : Explained d clock (a ++ .did actor op r :: b)) :
    Next d op (after d clock a) (after d clock (a ++ [.did actor op r])) ∧
      Tells op (after d clock a) (after d clock (a ++ [.did actor op r])) r := by
  have ends := exec_ends (d := d) op (w := (machine d).replay (fresh clock) a) (stored_after a)
  have answered : r = ((exec d op).run ((machine d).replay (fresh clock) a)).1 :=
    valid.answered a b actor op r rfl
  have state : after d clock (a ++ [.did actor op r]) =
      ((exec d op).run ((machine d).replay (fresh clock) a)).2.state :=
    congrArg Faulty.state (Machine.replay_snoc _ _ _ _)
  rw [state, answered]
  exact ends

variable (d clock) in
/-- Every schedule leaves such a log, and the log accounts for the state. -/
theorem runs_valid (labels : List (Machine.Label Op Start)) :
    Explained d clock (runs (machine d).step (Machine.initial (fresh clock)) labels).log ∧
    (runs (machine d).step (Machine.initial (fresh clock)) labels).state.state =
      after d clock (runs (machine d).step (Machine.initial (fresh clock)) labels).log := by
  have specified : ∀ w s p, (machine d).program w s = some p →
      Prog.Meets (Asks d s) (fun _ _ => True) [] p := by
    intro w s p launched
    simp only [machine] at launched
    split at launched
    · cases launched
      exact handler_meets s
    · cases launched
  obtain ⟨valid, state⟩ : Explained d clock _ ∧ _ := Machine.runs_valid specified labels
  exact ⟨valid, congrArg Faulty.state state⟩

variable (d clock) in
/-- What relates the world before every operation to the world after it
relates the ends of every log. -/
theorem related_after {R : World → World → Prop} (refl : ∀ w, R w w)
    (trans : ∀ u v w, R u v → R v w → R u w)
    (step : ∀ op w v, Stored w.actions → Next d op w v → R w v) (a b : Log) :
    R (after d clock a) (after d clock (a ++ b)) := by
  unfold after
  rw [Machine.replay_append]
  exact Machine.replay_related (m := machine d) (I := fun w : Faulty World => Stored w.state.actions)
    (R := fun u v => R u.state v.state) (fun _ => refl _) (fun _ _ _ => trans _ _ _)
    (fun _ op h => exec_stored op h) (fun _ op h => step op _ _ h (exec_ends op h).1)
    (stored_after a) b

theorem clock_after (a b : Log) : (after d clock a).clock ≤ (after d clock (a ++ b)).clock :=
  related_after d clock (R := fun w v => w.clock ≤ v.clock) (fun _ => le_refl _) (fun _ _ _ => le_trans)
    (fun _ _ _ _ next => next.clock) a b

/-- A reading of the clock is not ahead of it. -/
theorem reading_past {a b : Log} {i : Nat} {s : Start} {op : Op}
    {r : Except PublisherError (Res op)}
    (valid : Explained d clock (a ++ .did (.worker i s) op r :: b)) {now : JsDate}
    (reading : Reading s (Machine.history i a) now) :
    ∃ at_, now = .valid at_ ∧ at_ ≤ (after d clock a).clock := by
  rcases reading with ⟨at_, rfl, told⟩ | ⟨input, rfl, given⟩
  · obtain ⟨t, member⟩ := Machine.mem_history told
    obtain ⟨x, y, rfl⟩ := List.append_of_mem member
    have read := (did_ends (a := x) (b := y) valid.init_).2
    refine ⟨at_, rfl, ?_⟩
    rw [show at_ = (after d clock x).clock from read]
    exact clock_after x _
  · obtain ⟨spawned, _⟩ := valid.worked a b i _ op r rfl
    obtain ⟨x, y, rfl⟩ := List.append_of_mem spawned
    have admitted := valid.init_.spawned x y i _ rfl
    have timely : (Start.claimDispatch input).timely (after d clock x).clock = true := by
      by_contra early
      exact admitted (if_neg early)
    rw [Start.timely, given] at timely
    cases now with
    | invalid => cases timely
    | valid at_ =>
      refine ⟨at_, rfl, le_trans ?_ (clock_after x _)⟩
      simpa [JsDate.after] using timely

/-- A claim is made at a time the clock has shown. -/
theorem claim_past {a b : Log} {actor : Machine.Actor Start} {op : Op}
    {r : Except PublisherError (Res op)} (valid : Explained d clock (a ++ .did actor op r :: b))
    {now : JsDate} {input : ClaimExternalActionDispatch}
    (call : callOf (after d clock a).clock op = .claim now input) :
    ∃ at_, now = .valid at_ ∧ at_ ≤ (after d clock a).clock := by
  have claiming : (∃ input, op = .claimDispatch input) ∨ ∃ now input, op = .claimRow now input := by
    cases op with
    | claimDispatch input => exact Or.inl ⟨input, rfl⟩
    | claimRow now input => exact Or.inr ⟨now, input, rfl⟩
    | _ => cases call
  cases actor with
  | outside =>
    have allowed := valid.outside a b op r rfl
    rcases claiming with ⟨input, rfl⟩ | ⟨now, input, rfl⟩ <;> cases allowed
  | settled i s =>
    obtain ⟨_, none_, _⟩ := valid.settled a b i s op r rfl
    cases none_
  | worker i s =>
    obtain ⟨_, asks⟩ := valid.worked a b i s op r rfl
    rcases claiming with ⟨input, rfl⟩ | ⟨at_, input, rfl⟩
    · cases given : input.now with
      | none =>
        simp only [callOf, given, Option.getD_none, Call.claim.injEq] at call
        exact ⟨_, call.1.symm, le_refl _⟩
      | some at_ =>
        simp only [callOf, given, Option.getD_some, Call.claim.injEq] at call
        exact reading_past valid (call.1 ▸ asks at_ given)
    · cases call
      exact reading_past valid asks

end

def acme : String := "11111111-1111-4111-8111-111111111111"

def ping : ExternalActionRequest :=
  ⟨acme, "act-1", "custom.execute", "founder", "act-1",
    [("channel", .str "custom"), ("operation", .str "ping")]⟩

/-- A deployment for runs with `ping`, whose digest it knows. -/
def deployed (backend : Backend) : Deployment where
  backend := backend
  uuid := ProposalLifecycle.countedUuids
  formats := ⟨fun _ => false, fun _ => false⟩
  requestDigest _ := "9f77e51cc7aae4d47bca8637c314fca7460f468416e7aedc1254f7930b56be0d"
  payloadDigest _ := none

def publisher : OutboxPublisher := { n8nDispatchWorkerId := "publisher-1" }

def turns (i n : Nat) : List (Machine.Label Op Start) := List.replicate n (.run i)

end VantGrowth.Proofs.PublisherLogs
