import Mathlib.Algebra.Order.BigOperators.Group.List
import Mathlib.Analysis.SpecialFunctions.Pow.Real
import VantGrowth.Warmth.WarmthWorker

namespace VantGrowth.Proofs.WarmthGate
open Lib Warmth

/-! The gate over exact arithmetic, for any decay. -/

section
variable {α : Type} [Field α] [LinearOrder α] (decay : Decay α)

/-- What is left of a touch. -/
def left (now : Instant) (touch : WarmthTouch) : α :=
  TOUCH_WEIGHTS touch.touchType * decay.multiplier (ageDays now touch.occurredAt)

/-- The sum that the outer clamps are put around. -/
def warmth (touches : List WarmthTouch) (now : Instant) : α := (touches.map (left decay now)).sum

theorem score_eq (signal : WarmthSignal) (now : Instant) :
    computeWarmthScore decay signal now = max 0 (min 1 (warmth decay signal.touches now)) := by
  rw [warmth, List.sum_eq_foldl, List.foldl_map]
  rfl

theorem eligible_iff (signal : WarmthSignal) (now : Instant) :
    (evaluateWarmthSignal decay signal now).disposition = .eligible ↔
      WARMTH_GATE_THRESHOLD ≤ (evaluateWarmthSignal decay signal now).warmthScore ∨
        signal.coldOverride = true := by
  rw [or_iff_not_imp_left]
  simp [evaluateWarmthSignal]

theorem blocked_iff (signal : WarmthSignal) (now : Instant) :
    (evaluateWarmthSignal decay signal now).disposition = .blocked ↔
      ¬ (evaluateWarmthSignal decay signal now).disposition = .eligible := by
  cases (evaluateWarmthSignal decay signal now).disposition <;> simp

theorem next_iff (signal : WarmthSignal) (now : Instant) :
    (evaluateWarmthSignal decay signal now).nextTouchRecommendedAt.isSome = true ↔
      (evaluateWarmthSignal decay signal now).disposition = .blocked := by
  simp only [evaluateWarmthSignal]
  split <;> simp

theorem ageDays_nonneg (now occurredAt : Instant) : 0 ≤ ageDays now occurredAt := by
  have age : 0 ≤ max 0 (now - occurredAt) := le_max_left _ _
  unfold ageDays
  positivity

/-- A touch grows older, unless it is still to come. -/
theorem ageDays_mono {now later : Instant} (h : now ≤ later) (occurredAt : Instant) :
    ageDays now occurredAt ≤ ageDays later occurredAt := by
  have since : now - occurredAt ≤ later - occurredAt := Int.sub_le_sub_right h occurredAt
  have age : max 0 (now - occurredAt) ≤ max 0 (later - occurredAt) := max_le_max le_rfl since
  exact div_le_div_of_nonneg_right (by exact_mod_cast age) (by norm_num)

/-- The touches of a signal in another order. -/
theorem warmth_perm {touches others : List WarmthTouch} (h : others.Perm touches) (now : Instant) :
    warmth decay others now = warmth decay touches now :=
  (h.map _).sum_eq

theorem evaluate_perm {touches : List WarmthTouch} (signal : WarmthSignal)
    (h : touches.Perm signal.touches) (now : Instant) :
    evaluateWarmthSignal decay { signal with touches } now =
      evaluateWarmthSignal decay signal now := by
  have same : computeWarmthScore decay { signal with touches } now =
      computeWarmthScore decay signal now := by
    rw [score_eq, score_eq, warmth_perm decay h]
  simp only [evaluateWarmthSignal, same]

variable [IsStrictOrderedRing α]

theorem weight_pos (type : WarmthTouchType) : (0 : α) < TOUCH_WEIGHTS type := by
  cases type <;> norm_num [TOUCH_WEIGHTS]

theorem left_pos (now : Instant) (touch : WarmthTouch) : 0 < left decay now touch :=
  mul_pos (weight_pos _) (decay.pos _ (ageDays_nonneg _ _))

theorem left_antitone {now later : Instant} (h : now ≤ later) (touch : WarmthTouch) :
    left decay later touch ≤ left decay now touch := by
  have less := decay.antitone _ _ (ageDays_nonneg now touch.occurredAt)
    (ageDays_mono h touch.occurredAt)
  exact mul_le_mul_of_nonneg_left less (weight_pos _).le

theorem warmth_added (before after : List WarmthTouch) (touch : WarmthTouch) (now : Instant) :
    warmth decay (before ++ after) now ≤ warmth decay (before ++ touch :: after) now := by
  have rest := (left_pos decay now touch).le
  simp only [warmth, List.map_append, List.map_cons, List.sum_append, List.sum_cons]
  linarith

theorem warmth_antitone {now later : Instant} (h : now ≤ later) (touches : List WarmthTouch) :
    warmth decay touches later ≤ warmth decay touches now :=
  List.sum_le_sum fun touch _ => left_antitone decay h touch

omit [IsStrictOrderedRing α] in
/-- Both clamps and the threshold keep the order of the sums. -/
theorem score_mono {signal other : WarmthSignal} {now later : Instant}
    (h : warmth decay signal.touches now ≤ warmth decay other.touches later) :
    (evaluateWarmthSignal decay signal now).warmthScore ≤
      (evaluateWarmthSignal decay other later).warmthScore := by
  show computeWarmthScore decay signal now ≤ computeWarmthScore decay other later
  rw [score_eq, score_eq]
  exact max_le_max le_rfl (min_le_min le_rfl h)

omit [IsStrictOrderedRing α] in
theorem eligible_mono {signal other : WarmthSignal} {now later : Instant}
    (h : warmth decay signal.touches now ≤ warmth decay other.touches later)
    (override : signal.coldOverride = true → other.coldOverride = true)
    (eligible : (evaluateWarmthSignal decay signal now).disposition = .eligible) :
    (evaluateWarmthSignal decay other later).disposition = .eligible := by
  rw [eligible_iff] at eligible ⊢
  rcases eligible with passes | cold
  · exact Or.inl (passes.trans (score_mono decay h))
  · exact Or.inr (override cold)

/-- What the gate makes of a signal at a time, beside what it makes of more
touches, of another order of them and of a later time. -/
structure Gated (signal : WarmthSignal) (now : Instant) : Prop where
  more : ∀ before after touch, signal.touches = before ++ after →
    (evaluateWarmthSignal decay signal now).warmthScore ≤
        (evaluateWarmthSignal decay
          { signal with touches := before ++ touch :: after } now).warmthScore ∧
      ((evaluateWarmthSignal decay signal now).disposition = .eligible →
        (evaluateWarmthSignal decay
          { signal with touches := before ++ touch :: after } now).disposition = .eligible)
  order : ∀ touches, touches.Perm signal.touches →
    evaluateWarmthSignal decay { signal with touches } now = evaluateWarmthSignal decay signal now
  later : ∀ later, now ≤ later →
    (evaluateWarmthSignal decay signal later).warmthScore ≤
        (evaluateWarmthSignal decay signal now).warmthScore ∧
      ((evaluateWarmthSignal decay signal now).disposition = .blocked →
        (evaluateWarmthSignal decay signal later).disposition = .blocked)
  eligible : (evaluateWarmthSignal decay signal now).disposition = .eligible ↔
    WARMTH_GATE_THRESHOLD ≤ (evaluateWarmthSignal decay signal now).warmthScore ∨
      signal.coldOverride = true
  next : (evaluateWarmthSignal decay signal now).nextTouchRecommendedAt.isSome = true ↔
    (evaluateWarmthSignal decay signal now).disposition = .blocked

theorem warmth_gate_monotone (signal : WarmthSignal) (now : Instant) : Gated decay signal now where
  more before after touch split := by
    have added := warmth_added decay before after touch now
    rw [← split] at added
    exact ⟨score_mono decay added, eligible_mono decay added id⟩
  order _ h := evaluate_perm decay signal h now
  later later h := by
    have aged := warmth_antitone decay h signal.touches
    refine ⟨score_mono decay aged, fun blocked => ?_⟩
    rw [blocked_iff] at blocked ⊢
    exact fun eligible => blocked (eligible_mono decay aged id eligible)
  eligible := eligible_iff decay signal now
  next := next_iff decay signal now

end

def HALF_LIFE_DAYS : ℝ := 14

/-- `decayMultiplier`, as a decay over the reals. -/
noncomputable def decayMultiplier : Decay ℝ where
  multiplier daysSinceTouch := 2 ^ (-(daysSinceTouch : ℝ) / HALF_LIFE_DAYS)
  pos _ _ := Real.rpow_pos_of_pos two_pos _
  le_one days h := by
    apply Real.rpow_le_one_of_one_le_of_nonpos one_le_two
    have past : (0 : ℝ) ≤ days := by exact_mod_cast h
    norm_num [HALF_LIFE_DAYS]
    linarith
  antitone days later _ h := by
    apply Real.rpow_le_rpow_of_exponent_le one_le_two
    have older : (days : ℝ) ≤ later := by exact_mod_cast h
    norm_num [HALF_LIFE_DAYS]
    linarith

/-- A reply of the day before, under the decay of the code. -/
theorem reply_gated :
    Gated decayMultiplier { coldOverride := false, touches := [⟨.reply, 0⟩] } 86400000 :=
  warmth_gate_monotone decayMultiplier { coldOverride := false, touches := [⟨.reply, 0⟩] } 86400000

end VantGrowth.Proofs.WarmthGate
