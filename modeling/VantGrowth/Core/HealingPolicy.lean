import Mathlib.Algebra.Order.Field.Rat

/-! The stateless health transition of the adaptive harness. Numbers are exact. -/

namespace VantGrowth.Core

inductive RuntimeHealthState where
  | healthy | degraded | recovering | quarantined
deriving DecidableEq

inductive HealingAction where
  | none | resume | retry_with_backoff | use_fallback | rollback | quarantine_and_escalate
deriving DecidableEq

structure HealingPolicy where
  maxErrorRate : ℚ := 1 / 20
  maxConsecutiveFailures : Int := 3
  maxP95LatencyMs : ℚ := 10000
  maxStalenessSeconds : Int := 900
  maxRecoveryAttempts : Int := 3
  baseBackoffSeconds : Int := 30

/-- `healingPolicySchema` -/
def HealingPolicy.valid (policy : HealingPolicy) : Bool :=
  (0 ≤ policy.maxErrorRate && policy.maxErrorRate ≤ 1) && 0 < policy.maxConsecutiveFailures &&
    0 < policy.maxP95LatencyMs && 0 < policy.maxStalenessSeconds && 0 < policy.maxRecoveryAttempts &&
    0 < policy.baseBackoffSeconds

theorem default_healing_policy_valid : ({} : HealingPolicy).valid = true := by decide +kernel

structure RuntimeHealthObservation where
  componentId : String
  currentState : RuntimeHealthState
  errorRate : ℚ
  consecutiveFailures : Nat
  p95LatencyMs : ℚ
  stalenessSeconds : Nat
  dependencyAvailable : Bool
  fallbackAvailable : Bool
  lastKnownGoodAvailable : Bool
  recoveryAttempts : Nat
  guardrailBreached : Bool := false

/-- `runtimeHealthObservationSchema` -/
def RuntimeHealthObservation.valid (health : RuntimeHealthObservation) : Bool :=
  health.componentId != "" && (0 ≤ health.errorRate && health.errorRate ≤ 1) &&
    0 ≤ health.p95LatencyMs

structure HealingDecision where
  nextState : RuntimeHealthState
  action : HealingAction
  allowExternalActions : Bool
  retryAfterSeconds : Option Int
  reasons : List String
deriving DecidableEq

/-- `healingDecisionSchema.parse` -/
def HealingDecision.parse (decision : HealingDecision) : Option HealingDecision :=
  if decision.retryAfterSeconds.all (0 < ·) && decision.reasons != [] &&
      decision.reasons.all (· != "") then
    some decision
  else none

def unhealthyReasons (health : RuntimeHealthObservation) (policy : HealingPolicy) : List String :=
  (if health.dependencyAvailable = false then ["Dependency is unavailable."] else []) ++
  (if policy.maxErrorRate < health.errorRate then ["Error rate exceeds policy."] else []) ++
  (if policy.maxConsecutiveFailures ≤ health.consecutiveFailures then
    ["Consecutive failure limit reached."] else []) ++
  (if policy.maxP95LatencyMs < health.p95LatencyMs then ["Latency exceeds policy."] else []) ++
  (if policy.maxStalenessSeconds < health.stalenessSeconds then ["Component data is stale."] else [])

/-- What quarantine does: back to the last good version where there is one. -/
def quarantineAction (health : RuntimeHealthObservation) : HealingAction :=
  if health.lastKnownGoodAvailable then .rollback else .quarantine_and_escalate

/-- `none` where a schema throws. -/
def decideHealingAction (health : RuntimeHealthObservation) (policy : HealingPolicy) :
    Option HealingDecision :=
  if health.valid = false ∨ policy.valid = false then none
  else if health.guardrailBreached then
    HealingDecision.parse ⟨.quarantined, quarantineAction health, false, none,
      ["A business or safety guardrail was breached."]⟩
  else if unhealthyReasons health policy = [] then
    HealingDecision.parse ⟨.healthy, if health.currentState = .healthy then .none else .resume, true,
      none, [if health.currentState = .healthy then "Component is within all health thresholds."
        else "Recovery checks passed; normal execution can resume."]⟩
  else if policy.maxRecoveryAttempts ≤ health.recoveryAttempts then
    HealingDecision.parse ⟨.quarantined, quarantineAction health, false, none,
      "Automated recovery attempts were exhausted." :: unhealthyReasons health policy⟩
  else if health.fallbackAvailable then
    HealingDecision.parse ⟨.degraded, .use_fallback, true, some policy.baseBackoffSeconds,
      unhealthyReasons health policy⟩
  else
    HealingDecision.parse ⟨.recovering, .retry_with_backoff, false,
      some (policy.baseBackoffSeconds * 2 ^ min health.recoveryAttempts 8),
      unhealthyReasons health policy⟩

theorem reasons_filled (health : RuntimeHealthObservation) (policy : HealingPolicy) :
    ∀ reason ∈ unhealthyReasons health policy, reason ≠ "" := by
  intro reason member
  simp only [unhealthyReasons, List.mem_append] at member
  rcases member with (((member | member) | member) | member) | member
  all_goals
    split at member
    · rw [List.mem_singleton.mp member]
      decide
    · simp at member

theorem HealingDecision.parse_ok {decision : HealingDecision}
    (wait : ∀ seconds, decision.retryAfterSeconds = some seconds → 0 < seconds)
    (told : decision.reasons ≠ []) (filled : ∀ reason ∈ decision.reasons, reason ≠ "") :
    decision.parse = some decision := by
  unfold parse
  rw [if_pos]
  simpa [Option.all_eq_true, told] using And.intro wait filled

end VantGrowth.Core
