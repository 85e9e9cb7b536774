import Mathlib.Algebra.Order.Field.Basic
import VantGrowth.Lib.JsDate

namespace VantGrowth.Warmth
open Lib

inductive WarmthTouchType where
  | linkedin_view | linkedin_like | linkedin_comment | content_read | reply | meeting
deriving DecidableEq

structure WarmthTouch where
  touchType : WarmthTouchType
  occurredAt : Instant

/-- What the gate reads of a signal. -/
structure WarmthSignal where
  coldOverride : Bool := false
  touches : List WarmthTouch

inductive WarmthDisposition where
  | eligible | blocked
deriving DecidableEq

section
variable {α : Type} [Field α] [LinearOrder α]

structure WarmthEvaluation (α : Type) where
  warmthScore : α
  disposition : WarmthDisposition
  nextTouchRecommendedAt : Option JsDate
  rationale : List String

def TOUCH_WEIGHTS : WarmthTouchType → α
  | .linkedin_view => 5 / 100
  | .linkedin_like => 12 / 100
  | .linkedin_comment => 18 / 100
  | .content_read => 20 / 100
  | .reply => 45 / 100
  | .meeting => 1

def WARMTH_GATE_THRESHOLD : α := 3 / 10

variable (α) in
/-- How much of a touch is left, by the days since it. -/
structure Decay where
  multiplier : ℚ → α
  pos : ∀ days, 0 ≤ days → 0 < multiplier days
  le_one : ∀ days, 0 ≤ days → multiplier days ≤ 1
  antitone : ∀ days later, 0 ≤ days → days ≤ later → multiplier later ≤ multiplier days

/-- The days since a touch, none for one to come. -/
def ageDays (now occurredAt : Instant) : ℚ :=
  let ageMs := max 0 (now - occurredAt)
  (ageMs : ℚ) / (1000 * 60 * 60 * 24)

variable (decay : Decay α)

def computeWarmthScore (signal : WarmthSignal) (now : Instant) : α :=
  let score := signal.touches.foldl (fun acc touch =>
    acc + TOUCH_WEIGHTS touch.touchType * decay.multiplier (ageDays now touch.occurredAt)) 0
  max 0 (min 1 score)

def evaluateWarmthSignal (signal : WarmthSignal) (now : Instant) : WarmthEvaluation α :=
  let warmthScore := computeWarmthScore decay signal now
  let passesGate : Bool := WARMTH_GATE_THRESHOLD ≤ warmthScore
  let eligible := passesGate || signal.coldOverride
  { warmthScore,
    disposition := if eligible then .eligible else .blocked,
    nextTouchRecommendedAt :=
      if eligible then none
      else some ((JsDate.valid now).plus (.finite (24 * 60 * 60 * 1000))),
    rationale :=
      if eligible then
        if signal.coldOverride && !passesGate then
          ["Cold override enabled despite warmth score below threshold."]
        else ["Warmth threshold satisfied for outbound progression."]
      else ["Warmth score below threshold; additional engagement touches required."] }

end

end VantGrowth.Warmth
