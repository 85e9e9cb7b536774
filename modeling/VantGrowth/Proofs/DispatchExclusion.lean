import VantGrowth.Lib.Runs
import VantGrowth.Proofs.PublisherLogs

namespace VantGrowth.Proofs.DispatchExclusion
open Db Db.InMemoryExternalActionsRepository Lib Lib.Logs Publisher ActionSteps ActionCalls PublisherSteps PublisherAwaits PublisherLogs

/-- The claim an entry grants, as the action it leaves behind. -/
def granted : Entry → Option ExternalActionRecord
  | .did _ (.claimDispatch _) (.ok (.claimed b)) => some b
  | .did _ (.claimRow _ _) (.ok (some b)) => some b
  | _ => none

/-- A settlement call of the owner, or a callback. -/
def settles (owner : Option String) : Op → Bool
  | .recordDispatchAccepted input | .acceptRow _ input => owner == some input.leaseOwner
  | .scheduleDispatchRetry input | .retryRow _ input => owner == some input.leaseOwner
  | .failDispatch input | .failRow _ input => owner == some input.leaseOwner
  | .recordOutcome _ | .outcomeRow _ _ => true
  | _ => false

/-- The action is out for a dispatch. -/
def Dispatching (w : World) (id : String) : Prop :=
  ∃ a, w.actions.actionsById.get id = some a ∧ a.state = .dispatching

/-- The lease of a claim lasts beyond `now`. -/
def Live (g : ExternalActionRecord) (now : Instant) : Prop :=
  g.dispatchLeaseExpiresAt.any (·.after (.valid now)) = true

section
variable (d : Deployment) (clock : Instant)

/-- An entry after `before` settles the claim `g`: under its owner, or by a
callback, the action leaves `dispatching`. -/
def Settles (g : ExternalActionRecord) (before : Log) (e : Entry) : Prop :=
  ∃ actor op r, e = .did actor op r ∧ settles g.dispatchLeaseOwner op = true ∧
    Dispatching (after d clock before) g.id ∧ ¬ Dispatching (after d clock (before ++ [e])) g.id

/-- The claim granted after `a` is unexpired and unsettled at the end of the
log. -/
structure Outstanding (log a : Log) (e : Entry) (b : Log) (g : ExternalActionRecord) : Prop where
  split : log = a ++ e :: b
  granted : granted e = some g
  live : Live g (after d clock log).clock
  unsettled : ∀ x f y, b = x ++ f :: y → ¬ Settles d clock g (a ++ e :: x) f

variable {d clock}

/-- The stored action is as the claim left it. -/
def Untouched (w : World) (g : ExternalActionRecord) : Prop :=
  ∃ a, w.actions.actionsById.get g.id = some a ∧ a.state = .dispatching ∧
    a.dispatchLeaseOwner = g.dispatchLeaseOwner ∧
    a.dispatchLeaseExpiresAt = g.dispatchLeaseExpiresAt

theorem Live.earlier {g : ExternalActionRecord} {s t : Instant} (live : Live g t) (le : s ≤ t) :
    Live g s := by
  unfold Live at *
  cases hx : g.dispatchLeaseExpiresAt with
  | none => simp [hx] at live
  | some x =>
    cases x with
    | invalid => simp [hx, JsDate.after] at live
    | valid at_ =>
      simp only [hx, Option.any_some, JsDate.after, decide_eq_true_eq] at live ⊢
      exact lt_of_le_of_lt le live

/-- What is not after a time of the past is not after now. -/
theorem past_due {o : Option JsDate} {at_ now : Instant} (le : at_ ≤ now)
    (due : o.any (·.after (.valid at_)) = false) : o.any (·.after (.valid now)) = false := by
  cases o with
  | none => rfl
  | some x =>
    cases x with
    | invalid => rfl
    | valid t =>
      simp only [Option.any_some, JsDate.after, decide_eq_false_iff_not, not_lt] at due ⊢
      exact le_trans due le

/-- What the grant of a claim says about the action before it and after it. -/
theorem grant_facts {a b : Log} {e : Entry} {g : ExternalActionRecord}
    (valid : Explained d clock (a ++ e :: b)) (grant : granted e = some g) :
    ∃ at_ r, at_ ≤ (after d clock a).clock ∧
      (after d clock a).actions.actionsById.get g.id = some r ∧ Claimable (.valid at_) r ∧
      Untouched (after d clock (a ++ [e])) g := by
  have told : ∃ now input, Granted now input (after d clock a).actions
      (after d clock (a ++ [e])).actions g ∧
      ∃ at_, now = .valid at_ ∧ at_ ≤ (after d clock a).clock := by
    unfold granted at grant
    split at grant
    · cases grant
      exact ⟨_, _, (did_ends valid).2, claim_past valid rfl⟩
    · cases grant
      exact ⟨_, _, (did_ends valid).2, claim_past valid rfl⟩
    · cases grant
  obtain ⟨now, input, ⟨⟨r, stored, free, rfl⟩, later⟩, at_, rfl, past⟩ := told
  exact ⟨at_, r, past, stored, free, _, later, rfl, rfl, rfl⟩

/-- Where nothing settles a claim, its action stays untouched until the lease
has expired. -/
theorem untouched_or_lapsed {a b : Log} {e : Entry} {g : ExternalActionRecord}
    (valid : Explained d clock (a ++ e :: b)) (grant : granted e = some g)
    (unsettled : ∀ x f y, b = x ++ f :: y → ¬ Settles d clock g (a ++ e :: x) f) :
    Untouched (after d clock (a ++ e :: b)) g ∨ ¬ Live g (after d clock (a ++ e :: b)).clock := by
  induction b using List.reverseRecOn with
  | nil =>
    obtain ⟨_, _, _, _, _, untouched⟩ := grant_facts valid grant
    exact Or.inl untouched
  | append_singleton b f ih =>
    have shape : a ++ e :: (b ++ [f]) = (a ++ e :: b) ++ [f] := by simp
    rw [shape] at valid ⊢
    have before := ih valid.init_ fun x f' y split =>
      unsettled x f' (y ++ [f]) (by rw [split]; simp)
    have kept : ¬ Settles d clock g (a ++ e :: b) f := unsettled b f [] rfl
    cases f with
    | spawned i s =>
      rw [after_spawned]
      exact before
    | did actor op r =>
      obtain ⟨next, _⟩ := did_ends valid
      rcases before with ⟨x, stored, held, owner, expires⟩ | lapsed
      · obtain ⟨y, stored', same | move⟩ := next.row (stored_after _) stored
        · subst same
          exact Or.inl ⟨y, stored', held, owner, expires⟩
        · generalize call : callOf (after d clock (a ++ e :: b)).clock op = called at move
          have left : settles g.dispatchLeaseOwner op = true → y.state = .dispatching := by
            intro settling
            by_contra out
            refine kept ⟨actor, op, r, rfl, settling, ⟨x, stored, held⟩, ?_⟩
            rintro ⟨z, found, still⟩
            rw [stored'] at found
            cases found
            exact out still
          cases move with
          | claimed now input free =>
            refine Or.inr fun live => ?_
            obtain ⟨at_, rfl, past⟩ := claim_past valid call
            have lapsed := past_due past (free.lapsed held)
            have live := live.earlier next.clock
            rw [Live, ← expires, lapsed] at live
            cases live
          | reported leaseOwner y held lease report =>
            have out := left (by cases op <;> cases call <;> simp [settles, ← owner, lease])
            cases report <;> cases out
          | settled input at_ open_ =>
            have out := left (by cases op <;> cases call <;> rfl)
            cases hs : input.status <;>
              simp [settledAction, hs, ExternalActionOutcomeStatus.state] at out
      · exact Or.inr fun live => lapsed (live.earlier next.clock)

/-- Of two outstanding claims on an action none was granted before the other. -/
theorem outstanding_first {log a b a' b' : Log} {e e' : Entry} {g g' : ExternalActionRecord}
    (valid : Explained d clock log) (first : Outstanding d clock log a e b g)
    (second : Outstanding d clock log a' e' b' g') (same : g.id = g'.id) (m : Log)
    (between : a' = a ++ e :: m) (rest : b = m ++ e' :: b') : False := by
  subst between rest
  have split := second.split
  have here : Explained d clock (a ++ e :: m) := by
    rw [split] at valid
    exact valid.init_
  have live : Live g (after d clock (a ++ e :: m)).clock := by
    have now := first.live
    rw [split] at now
    exact now.earlier (clock_after _ _)
  have unsettled : ∀ x f y, m = x ++ f :: y → ¬ Settles d clock g (a ++ e :: x) f :=
    fun x f y cut => first.unsettled x f (y ++ e' :: b') (by rw [cut]; simp)
  rcases untouched_or_lapsed here first.granted unsettled with untouched | lapsed
  · obtain ⟨x, stored, held, _, expires⟩ := untouched
    obtain ⟨at_, r, past, stored', free, _⟩ := grant_facts (split ▸ valid) second.granted
    rw [← same, stored] at stored'
    cases stored'
    have lapsed := past_due past (free.lapsed held)
    rw [Live, ← expires, lapsed] at live
    cases live
  · exact lapsed live

theorem settled_stays {a b : Log} {id : String} {r : ExternalActionRecord}
    (stored : (after d clock a).actions.actionsById.get id = some r)
    (done : isSettled r.state = true) :
    ∃ r', (after d clock (a ++ b)).actions.actionsById.get id = some r' ∧
      isSettled r'.state = true := by
  refine related_after d clock (R := fun w v => ∀ x,
    w.actions.actionsById.get id = some x → isSettled x.state = true →
      ∃ y, v.actions.actionsById.get id = some y ∧ isSettled y.state = true)
    ?_ ?_ ?_ a b r stored done
  · exact fun w x found done => ⟨x, found, done⟩
  · intro u v w first second x found done
    obtain ⟨y, found, done⟩ := first x found done
    exact second y found done
  · intro op w v h next x found done
    obtain ⟨y, found', rfl | move⟩ := next.row h found
    · exact ⟨_, found', done⟩
    · exact ⟨y, found', move.stays done⟩

variable (d clock)

/-- What exclusive dispatch means for a log. -/
structure Exclusive (log : Log) : Prop where
  single : ∀ a e b g a' e' b' g', Outstanding d clock log a e b g →
    Outstanding d clock log a' e' b' g' → g.id = g'.id → a = a' ∧ e = e' ∧ b = b'
  punctual : ∀ a e b g, log = a ++ e :: b → granted e = some g →
    ∃ r, (after d clock a).actions.actionsById.get g.id = some r ∧
      r.nextRetryAt.any (·.after (.valid (after d clock a).clock)) = false
  final : ∀ a m e b g r, log = a ++ m ++ e :: b → granted e = some g →
    (after d clock a).actions.actionsById.get g.id = some r → isSettled r.state = false

/-- However publishers, settlements and callbacks interleave, whatever is lost:
two outstanding claims on one action are the same claim, none is granted before
its retry is due, and none after the action was settled. -/
theorem dispatch_exclusive (labels : List (Machine.Label Op Start)) :
    Exclusive d clock (runs (machine d).step (Machine.initial (fresh clock)) labels).log := by
  obtain ⟨valid, _⟩ := runs_valid d clock labels
  generalize (runs (machine d).step (Machine.initial (fresh clock)) labels).log = log at valid
  refine ⟨?_, ?_, ?_⟩
  · intro a e b g a' e' b' g' first second same
    rcases split_order (first.split.symm.trans second.split) with eq | ⟨m, between, rest⟩ |
      ⟨m, between, rest⟩
    · exact eq
    · exact (outstanding_first valid first second same m between rest).elim
    · exact (outstanding_first valid second first same.symm m between rest).elim
  · rintro a e b g rfl grant
    obtain ⟨at_, r, past, stored, free, _⟩ := grant_facts valid grant
    exact ⟨r, stored, past_due past free.due⟩
  · rintro a m e b g r rfl grant stored
    by_contra done
    rw [Bool.not_eq_false] at done
    obtain ⟨r', stored', done'⟩ := settled_stays (b := m) stored done
    obtain ⟨at_, x, past, found, free, _⟩ := grant_facts valid grant
    rw [stored'] at found
    cases found
    rw [free.unsettled] at done'
    cases done'

end

end VantGrowth.Proofs.DispatchExclusion
