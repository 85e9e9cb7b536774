import Mathlib.Data.List.Sort
import VantGrowth.Core.HandoffContracts

namespace VantGrowth.Core

/-- `motionTypeSchema`, which `motionLabelSchema` mirrors. -/
abbrev MotionType := MotionLabel

structure MotionScoringInput where
  tenantId : String
  productComplexity : ℚ
  trialability : ℚ
  acvBand : ℚ
  salesCycleWeeks : ℚ
  founderContentCapacity : ℚ
  categorySearchDemand : ℚ
  communityDensity : ℚ
  telemetryReadiness : ℚ
  budgetReadiness : ℚ

/-- The bounds of `motionScoringInputSchema` -/
def MotionScoringInput.valid (input : MotionScoringInput) : Bool :=
  isFilled input.tenantId && isWithin 0 1 input.productComplexity &&
    isWithin 0 1 input.trialability && isWithin 0 1 input.acvBand && 0 ≤ input.salesCycleWeeks &&
    isWithin 0 1 input.founderContentCapacity && isWithin 0 1 input.categorySearchDemand &&
    isWithin 0 1 input.communityDensity && isWithin 0 1 input.telemetryReadiness &&
    isWithin 0 1 input.budgetReadiness

structure MotionScoreResult where
  scorerVersion : String
  scores : List (MotionType × ℚ)
  selectedPrimary : List MotionType
  selectedSecondary : List MotionType
  rationale : List String

/-- The bounds of `motionScoreResultSchema` -/
def MotionScoreResult.valid (result : MotionScoreResult) : Bool :=
  result.scorerVersion == "motion_scorer.v1" &&
    result.scores.all fun (_, score) => isWithin 0 1 score

def clamp01 (value : ℚ) : ℚ := min 1 (max 0 value)

namespace MotionScoringInput
variable (input : MotionScoringInput)

def inbound : ℚ :=
  0.28 * input.categorySearchDemand + 0.22 * input.founderContentCapacity +
    0.2 * input.telemetryReadiness + 0.15 * input.trialability + 0.15 * input.communityDensity

def community : ℚ :=
  0.45 * input.communityDensity + 0.25 * input.founderContentCapacity +
    0.15 * input.telemetryReadiness + 0.15 * input.budgetReadiness

def outbound : ℚ :=
  0.28 * input.acvBand + 0.22 * clamp01 (input.salesCycleWeeks / 12) +
    0.2 * input.telemetryReadiness + 0.15 * input.budgetReadiness + 0.15 * input.communityDensity

def lifecycle : ℚ :=
  0.35 * input.telemetryReadiness + 0.25 * input.trialability + 0.2 * input.productComplexity +
    0.2 * input.budgetReadiness

/-- What the score of a motion is before the outer clamp. -/
def weighted : MotionType → ℚ
  | .inbound_content => input.inbound
  | .community_engagement => input.community
  | .outbound_multichannel => input.outbound
  | .lifecycle_expansion => input.lifecycle
  | .partners => 0.4 * input.acvBand + 0.3 * input.productComplexity + 0.3 * input.communityDensity
  | .paid =>
    0.5 * input.budgetReadiness + 0.2 * input.categorySearchDemand + 0.3 * input.trialability
  | .plg => 0.6 * input.trialability + 0.4 * input.telemetryReadiness
  | .abm => 0.6 * input.acvBand + 0.4 * clamp01 (input.salesCycleWeeks / 10)

end MotionScoringInput

/-- The motions in the order of the keys of `scoreMap`. -/
def motions : List MotionType :=
  [.inbound_content, .community_engagement, .outbound_multichannel, .lifecycle_expansion, .partners,
    .paid, .plg, .abm]

def scoreMap (input : MotionScoringInput) : List (MotionType × ℚ) :=
  motions.map fun motion => (motion, clamp01 (input.weighted motion))

/-- `entries.sort((a, b) => b[1] - a[1])`, which is stable -/
def ordered (scores : List (MotionType × ℚ)) : List (MotionType × ℚ) :=
  scores.insertionSort fun a b => b.2 ≤ a.2

/-- `none` where one of the two schemas refuses its value. -/
def scoreMotions (input : MotionScoringInput) : Option MotionScoreResult :=
  if input.valid then
    let entries := ordered (scoreMap input)
    some { scorerVersion := "motion_scorer.v1",
           scores := scoreMap input,
           selectedPrimary := (entries.take 2).map (·.1),
           selectedSecondary := ((entries.drop 2).take 2).map (·.1),
           rationale :=
             ["Scores are deterministic and version-stamped for replayability.",
              "Primary motions are selected by highest weighted fit to current tenant signals."] }
      |>.filter (·.valid)
  else none

end VantGrowth.Core
