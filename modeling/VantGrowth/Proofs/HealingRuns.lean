import Mathlib.Data.List.Chain
import Mathlib.Tactic.Linarith
import VantGrowth.Core.HealingPolicy

namespace VantGrowth.Proofs.HealingRuns
open Core

section
variable {policy : HealingPolicy} {health : RuntimeHealthObservation} {decision : HealingDecision}

/-- Every threshold of the policy is met. -/
structure Within (policy : HealingPolicy) (health : RuntimeHealthObservation) : Prop where
  dependency : health.dependencyAvailable = true
  errors : health.errorRate ≤ policy.maxErrorRate
  failures : (health.consecutiveFailures : Int) < policy.maxConsecutiveFailures
  latency : health.p95LatencyMs ≤ policy.maxP95LatencyMs
  staleness : (health.stalenessSeconds : Int) ≤ policy.maxStalenessSeconds

theorem no_reason_iff : unhealthyReasons health policy = [] ↔ Within policy health := by
  constructor
  · intro silent
    simp [unhealthyReasons] at silent
    obtain ⟨dependency, errors, failures, latency, staleness⟩ := silent
    exact ⟨dependency, errors, failures, latency, staleness⟩
  · intro within
    simp [unhealthyReasons, within.dependency, within.errors, within.failures, within.latency,
      within.staleness]

def Recovers (action : HealingAction) : Prop := action = .retry_with_backoff ∨ action = .use_fallback

/-- The five ways a decision falls, with what led there. -/
inductive Healing (policy : HealingPolicy) (health : RuntimeHealthObservation) :
    HealingDecision → Prop
  | breached (reasons : List String) (breach : health.guardrailBreached = true) :
    Healing policy health ⟨.quarantined, quarantineAction health, false, none, reasons⟩
  | within (action : HealingAction) (reasons : List String) (intact : health.guardrailBreached = false)
    (met : Within policy health) (quiet : action = .none ∨ action = .resume) :
    Healing policy health ⟨.healthy, action, true, none, reasons⟩
  | exhausted (reasons : List String) (intact : health.guardrailBreached = false)
    (missed : ¬ Within policy health) (spent : policy.maxRecoveryAttempts ≤ health.recoveryAttempts) :
    Healing policy health ⟨.quarantined, quarantineAction health, false, none, reasons⟩
  | fellBack (reasons : List String) (intact : health.guardrailBreached = false)
    (missed : ¬ Within policy health) (left : health.recoveryAttempts < policy.maxRecoveryAttempts)
    (fallback : health.fallbackAvailable = true) :
    Healing policy health ⟨.degraded, .use_fallback, true, some policy.baseBackoffSeconds, reasons⟩
  | retried (reasons : List String) (intact : health.guardrailBreached = false)
    (missed : ¬ Within policy health) (left : health.recoveryAttempts < policy.maxRecoveryAttempts) :
    Healing policy health ⟨.recovering, .retry_with_backoff, false,
      some (policy.baseBackoffSeconds * 2 ^ min health.recoveryAttempts 8), reasons⟩

theorem backoff_positive (set : policy.valid = true) : 0 < policy.baseBackoffSeconds := by
  simp only [HealingPolicy.valid, Bool.and_eq_true, decide_eq_true_eq] at set
  exact set.2

/-- The decision passes its own schema, so an observation that passes always
gets one. -/
theorem decided (set : policy.valid = true) (measured : health.valid = true) :
    ∃ decision, decideHealingAction health policy = some decision ∧ Healing policy health decision := by
  have base := backoff_positive set
  have filled := reasons_filled health policy
  unfold decideHealingAction
  simp only [measured, set, Bool.true_eq_false, or_self, ↓reduceIte]
  by_cases breach : health.guardrailBreached = true
  · rw [if_pos breach]
    exact ⟨_, HealingDecision.parse_ok (by simp) (by simp) (by simp), .breached _ breach⟩
  · have intact : health.guardrailBreached = false := by simpa using breach
    rw [if_neg breach]
    by_cases met : unhealthyReasons health policy = []
    · simp only [met, ↓reduceIte]
      refine ⟨_, HealingDecision.parse_ok (by simp) (by simp) ?_,
        .within _ _ intact (no_reason_iff.mp met) ?_⟩
      · intro reason told
        rw [List.mem_singleton.mp told]
        split <;> decide
      · split <;> simp
    · have missed : ¬ Within policy health := fun within => met (no_reason_iff.mpr within)
      simp only [met, ↓reduceIte]
      by_cases spent : policy.maxRecoveryAttempts ≤ health.recoveryAttempts
      · simp only [spent, ↓reduceIte]
        refine ⟨_, HealingDecision.parse_ok (by simp) (by simp) ?_, .exhausted _ intact missed spent⟩
        intro reason told
        rcases List.mem_cons.mp told with rfl | told
        · decide
        · exact filled reason told
      · have left : (health.recoveryAttempts : Int) < policy.maxRecoveryAttempts := by omega
        simp only [spent, ↓reduceIte]
        by_cases fallback : health.fallbackAvailable = true
        · simp only [fallback, ↓reduceIte]
          exact ⟨_, HealingDecision.parse_ok (by simpa using base) met filled,
            .fellBack _ intact missed left fallback⟩
        · simp only [fallback, Bool.false_eq_true, ↓reduceIte]
          exact ⟨_, HealingDecision.parse_ok (by simpa using base) met filled,
            .retried _ intact missed left⟩

theorem healing (set : policy.valid = true) (measured : health.valid = true)
    (made : decideHealingAction health policy = some decision) : Healing policy health decision := by
  obtain ⟨d, same, healed⟩ := decided set measured
  rw [made] at same
  cases same
  exact healed

/-- What one decision promises. -/
structure Safe (policy : HealingPolicy) (health : RuntimeHealthObservation)
    (decision : HealingDecision) : Prop where
  external : decision.allowExternalActions = true → health.guardrailBreached = false ∧
    (Within policy health ∨
      (health.fallbackAvailable = true ∧ health.recoveryAttempts < policy.maxRecoveryAttempts))
  quarantine : decision.nextState = .quarantined ↔ health.guardrailBreached = true ∨
    (¬ Within policy health ∧ policy.maxRecoveryAttempts ≤ health.recoveryAttempts)
  waits : (∃ seconds, decision.retryAfterSeconds = some seconds ∧ 0 < seconds) ↔
    Recovers decision.action
  bounded : ∀ seconds, decision.retryAfterSeconds = some seconds →
    0 < seconds ∧ seconds ≤ policy.baseBackoffSeconds * 256

theorem quarantine_waits_not (health : RuntimeHealthObservation) :
    ¬ Recovers (quarantineAction health) := by
  unfold quarantineAction Recovers
  split <;> simp

/-- The exponent stops at eight. -/
theorem backoff_bounds (set : policy.valid = true) (attempts : Nat) :
    0 < policy.baseBackoffSeconds * 2 ^ min attempts 8 ∧
      policy.baseBackoffSeconds * 2 ^ min attempts 8 ≤ policy.baseBackoffSeconds * 256 := by
  have base := backoff_positive set
  have grown : (2 : Int) ^ min attempts 8 ≤ 2 ^ 8 :=
    pow_le_pow_right₀ (by decide) (Nat.min_le_right attempts 8)
  constructor
  · positivity
  · exact Int.mul_le_mul_of_nonneg_left grown base.le

theorem Healing.safe (set : policy.valid = true) (healed : Healing policy health decision) :
    Safe policy health decision := by
  have base := backoff_positive set
  cases healed with
  | breached reasons breach =>
    constructor <;> simp [breach, quarantine_waits_not]
  | within action reasons intact met quiet =>
    have idle : ¬ Recovers action := by
      rcases quiet with rfl | rfl <;> simp [Recovers]
    constructor <;> simp [intact, met, idle]
  | exhausted reasons intact missed spent =>
    constructor <;> simp [intact, missed, spent, quarantine_waits_not]
  | fellBack reasons intact missed left fallback =>
    have unspent : ¬ policy.maxRecoveryAttempts ≤ health.recoveryAttempts := by omega
    constructor
    · simp [intact, fallback, left]
    · simp [intact, unspent]
    · simp [Recovers, base]
    · simp
      omega
  | retried reasons intact missed left =>
    have unspent : ¬ policy.maxRecoveryAttempts ≤ health.recoveryAttempts := by omega
    obtain ⟨positive, capped⟩ := backoff_bounds set health.recoveryAttempts
    constructor
    · simp
    · simp [intact, unspent]
    · simp only [Option.some.injEq, exists_eq_left', positive, Recovers, true_or]
    · simp only [Option.some.injEq, forall_eq', positive, capped, and_self]

/-- The attempts an observation reports after a decision. -/
def attemptsAfter (health : RuntimeHealthObservation) (decision : HealingDecision) : Nat :=
  match decision.action with
  | .retry_with_backoff | .use_fallback => health.recoveryAttempts + 1
  | .none | .resume => 0
  | .rollback | .quarantine_and_escalate => health.recoveryAttempts

/-- One observation comes after another of the same component. -/
def Follows (policy : HealingPolicy) (health later : RuntimeHealthObservation) : Prop :=
  ∀ decision, decideHealingAction health policy = some decision →
    later.currentState = decision.nextState ∧ later.recoveryAttempts = attemptsAfter health decision

/-- What is decided on an observation passes `p`. -/
def Decides (policy : HealingPolicy) (p : HealingDecision → Prop) (health : RuntimeHealthObservation) :
    Prop :=
  ∃ decision, decideHealingAction health policy = some decision ∧ p decision

def Unhealthy (policy : HealingPolicy) (health : RuntimeHealthObservation) : Prop :=
  ¬ Within policy health ∧ health.guardrailBreached = false

/-- While attempts are left an unhealthy component recovers, and afterwards it
is quarantined. -/
theorem unhealthy_decides (set : policy.valid = true) (measured : health.valid = true)
    (unhealthy : Unhealthy policy health) :
    (Decides policy (Recovers ·.action) health ↔ health.recoveryAttempts < policy.maxRecoveryAttempts) ∧
      (Decides policy (·.nextState = .quarantined) health ↔
        policy.maxRecoveryAttempts ≤ health.recoveryAttempts) := by
  obtain ⟨decision, made, healed⟩ := decided set measured
  obtain ⟨missed, sound⟩ := unhealthy
  have only : ∀ p, Decides policy p health ↔ p decision := by
    intro p
    simp [Decides, made]
  rw [only, only]
  cases healed with
  | breached reasons breach => simp [sound] at breach
  | within action reasons intact met quiet => exact absurd met missed
  | exhausted reasons intact _ spent => simp [quarantine_waits_not, spent]
  | fellBack reasons intact _ left fallback => simp [Recovers, left]
  | retried reasons intact _ left => simp [Recovers, left]

/-- The attempts grow by one while there are some left and stay once spent. -/
theorem attempts_step (set : policy.valid = true) (measured : health.valid = true)
    (unhealthy : Unhealthy policy health) {later : RuntimeHealthObservation}
    (follows : Follows policy health later) : later.recoveryAttempts =
      if health.recoveryAttempts < policy.maxRecoveryAttempts then health.recoveryAttempts + 1
      else health.recoveryAttempts := by
  obtain ⟨decision, made, healed⟩ := decided set measured
  obtain ⟨missed, sound⟩ := unhealthy
  rw [(follows decision made).2]
  cases healed with
  | breached reasons breach => simp [sound] at breach
  | within action reasons intact met quiet => exact absurd met missed
  | exhausted reasons intact _ spent =>
    have none : ¬ (health.recoveryAttempts : Int) < policy.maxRecoveryAttempts := by omega
    simp only [none, ↓reduceIte]
    unfold attemptsAfter quarantineAction
    cases health.lastKnownGoodAvailable <;> rfl
  | fellBack reasons intact _ left fallback => simp [attemptsAfter, left]
  | retried reasons intact _ left => simp [attemptsAfter, left]

/-- Along a run of unhealthy observations the attempts count up to the limit. -/
theorem attempts_run (set : policy.valid = true) {run : List RuntimeHealthObservation}
    (measured : ∀ health ∈ run, health.valid = true) (chain : run.IsChain (Follows policy))
    (unhealthy : ∀ health ∈ run, Unhealthy policy health) {start : Nat}
    (starts : ∀ health, run.head? = some health → health.recoveryAttempts = start)
    (enough : start ≤ policy.maxRecoveryAttempts) :
    ∀ (i : Nat) (health : RuntimeHealthObservation), run[i]? = some health →
      (health.recoveryAttempts : Int) = min ((start : Int) + i) policy.maxRecoveryAttempts := by
  induction run generalizing start with
  | nil => simp
  | cons first rest ih =>
    intro i health found
    have begins := starts first rfl
    cases i with
    | zero =>
      cases found
      simp [begins, enough]
    | succ i =>
      have next : ∀ later, rest.head? = some later → later.recoveryAttempts =
          if (start : Int) < policy.maxRecoveryAttempts then start + 1 else start := by
        intro later first_later
        rw [← begins]
        exact attempts_step set (measured first List.mem_cons_self)
          (unhealthy first List.mem_cons_self) ((List.isChain_cons.mp chain).1 later first_later)
      have counted := ih (fun h member => measured h (List.mem_cons_of_mem _ member))
        (List.isChain_cons.mp chain).2 (fun h member => unhealthy h (List.mem_cons_of_mem _ member))
        next (by split <;> omega) i health found
      rw [counted]
      split <;> omega

/-- Along a run of retries the wait does not shrink. -/
theorem retries_wait_longer (set : policy.valid = true) {run : List RuntimeHealthObservation}
    (measured : ∀ health ∈ run, health.valid = true) (chain : run.IsChain (Follows policy))
    (retries : ∀ health ∈ run, Decides policy (·.action = .retry_with_backoff) health) :
    run.Pairwise fun earlier later => ∀ d e, decideHealingAction earlier policy = some d →
      decideHealingAction later policy = some e →
        ∃ s t, d.retryAfterSeconds = some s ∧ e.retryAfterSeconds = some t ∧ s ≤ t := by
  have base := backoff_positive set
  -- a retry waits by its attempts, and the next one counts one more
  have waits : ∀ health ∈ run, ∀ d, decideHealingAction health policy = some d →
      d.retryAfterSeconds = some (policy.baseBackoffSeconds * 2 ^ min health.recoveryAttempts 8) ∧
        attemptsAfter health d = health.recoveryAttempts + 1 := by
    intro health member d made
    obtain ⟨e, same, retry⟩ := retries health member
    rw [made] at same
    cases same
    cases healing set (measured health member) made with
    | retried reasons intact missed left => simp [attemptsAfter]
    | fellBack reasons intact missed left fallback => cases retry
    | within action reasons intact met quiet =>
      rcases quiet with rfl | rfl <;> cases retry
    | breached reasons breach => exact absurd (Or.inl retry) (quarantine_waits_not health)
    | exhausted reasons intact missed spent =>
      exact absurd (Or.inl retry) (quarantine_waits_not health)
  have grows : run.IsChain fun earlier later => earlier.recoveryAttempts < later.recoveryAttempts := by
    apply chain.imp_of_mem_imp
    intro earlier later member _ follows
    obtain ⟨d, made, _⟩ := retries earlier member
    rw [(follows d made).2, (waits earlier member d made).2]
    exact Nat.lt_succ_self _
  have ordered := List.isChain_iff_pairwise.mp (List.isChain_map_of_isChain
    RuntimeHealthObservation.recoveryAttempts (fun _ _ less => less) grows)
  apply (List.pairwise_map.mp ordered).imp_of_mem
  intro earlier later here there less d e made remade
  refine ⟨_, _, (waits earlier here d made).1, (waits later there e remade).1, ?_⟩
  have grown : (2 : Int) ^ min earlier.recoveryAttempts 8 ≤ 2 ^ min later.recoveryAttempts 8 :=
    pow_le_pow_right₀ (by decide) (min_le_min_right 8 less.le)
  exact Int.mul_le_mul_of_nonneg_left grown base.le

/-- In every sequence of observations of a component each decision is safe,
waits do not shrink while it is retried, and from fresh attempts on it recovers
`maxRecoveryAttempts` times and is then quarantined for as long as it stays
unhealthy. -/
theorem healing_is_safe {history : List RuntimeHealthObservation} (set : policy.valid = true)
    (measured : ∀ health ∈ history, health.valid = true) (chain : history.IsChain (Follows policy)) :
    (∀ health ∈ history, ∃ decision, decideHealingAction health policy = some decision ∧
      Safe policy health decision) ∧
    ∀ run, run <:+: history →
      ((∀ health ∈ run, Decides policy (·.action = .retry_with_backoff) health) →
        run.Pairwise fun earlier later => ∀ d e, decideHealingAction earlier policy = some d →
          decideHealingAction later policy = some e →
            ∃ s t, d.retryAfterSeconds = some s ∧ e.retryAfterSeconds = some t ∧ s ≤ t) ∧
      ((∀ health ∈ run, Unhealthy policy health) →
        (∀ health, run.head? = some health → health.recoveryAttempts = 0) →
          ∀ (i : Nat) (health : RuntimeHealthObservation), run[i]? = some health →
            (Decides policy (Recovers ·.action) health ↔ i < policy.maxRecoveryAttempts) ∧
            (Decides policy (·.nextState = .quarantined) health ↔ policy.maxRecoveryAttempts ≤ i)) := by
  constructor
  · intro health member
    obtain ⟨decision, made, healed⟩ := decided set (measured health member)
    exact ⟨decision, made, healed.safe set⟩
  · intro run part
    have inside : ∀ health ∈ run, health.valid = true := fun health member =>
      measured health (part.subset member)
    have linked := chain.infix part
    constructor
    · exact retries_wait_longer set inside linked
    · intro unhealthy fresh i health found
      have limit : 0 < policy.maxRecoveryAttempts := by
        simp only [HealingPolicy.valid, Bool.and_eq_true, decide_eq_true_eq] at set
        exact set.1.2
      have counted := attempts_run set inside linked unhealthy fresh limit.le i health found
      have member := List.mem_of_getElem? found
      obtain ⟨recovers, quarantined⟩ := unhealthy_decides set (inside health member)
        (unhealthy health member)
      rw [recovers, quarantined, counted]
      constructor <;> omega

end

/-- A component whose dependency is away. -/
def down (currentState : RuntimeHealthState) (recoveryAttempts : Nat) : RuntimeHealthObservation :=
  { componentId := "n8n-dispatch", currentState, errorRate := 0, consecutiveFailures := 0,
    p95LatencyMs := 500, stalenessSeconds := 5, dependencyAvailable := false,
    fallbackAvailable := false, lastKnownGoodAvailable := false, recoveryAttempts }

def twoAttempts : HealingPolicy := { maxRecoveryAttempts := 2 }

def outage : List RuntimeHealthObservation :=
  [down .healthy 0, down .recovering 1, down .recovering 2, down .quarantined 2]

theorem down_valid (state : RuntimeHealthState) (attempts : Nat) : (down state attempts).valid = true := by
  simp [RuntimeHealthObservation.valid, down]

theorem two_attempts_valid : twoAttempts.valid = true := by decide +kernel

theorem down_unhealthy (state : RuntimeHealthState) (attempts : Nat) :
    Unhealthy twoAttempts (down state attempts) :=
  ⟨fun within => Bool.false_ne_true within.dependency, rfl⟩

theorem outage_chain : outage.IsChain (Follows twoAttempts) := by
  have linked : ∀ state attempts next later, (decideHealingAction (down state attempts) twoAttempts).any
      (fun d => d.nextState = next ∧ attemptsAfter (down state attempts) d = later) = true →
        Follows twoAttempts (down state attempts) (down next later) := by
    intro state attempts next later agrees decision made
    simp only [made, Option.any_some, decide_eq_true_eq] at agrees
    exact ⟨agrees.1.symm, agrees.2.symm⟩
  apply List.IsChain.cons_cons (linked _ _ _ _ (by decide +kernel))
  apply List.IsChain.cons_cons (linked _ _ _ _ (by decide +kernel))
  apply List.IsChain.cons_cons (linked _ _ _ _ (by decide +kernel))
  exact .singleton _

theorem outage_quarantined : Decides twoAttempts (Recovers ·.action) (down .recovering 1) ∧
    Decides twoAttempts (·.nextState = .quarantined) (down .recovering 2) := by
  have measured : ∀ health ∈ outage, health.valid = true := by
    simp [outage, down_valid]
  have unhealthy : ∀ health ∈ outage, Unhealthy twoAttempts health := by
    simp [outage, down_unhealthy]
  have run := (healing_is_safe two_attempts_valid measured outage_chain).2 outage List.infix_rfl
  have counted := run.2 unhealthy (by simp [outage, down])
  exact ⟨(counted 1 _ rfl).1.mpr (by decide), (counted 2 _ rfl).2.mpr (by decide)⟩

end VantGrowth.Proofs.HealingRuns
