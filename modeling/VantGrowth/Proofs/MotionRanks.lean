import Mathlib.Tactic.Linarith
import VantGrowth.Core.MotionScoring

namespace VantGrowth.Proofs.MotionRanks
open Core

/-! Scores of valid inputs, and what the selection makes of them. -/

/-- A number between none and all. -/
def Unit01 (value : ℚ) : Prop := 0 ≤ value ∧ value ≤ 1

theorem clamp01_unit (value : ℚ) : Unit01 (clamp01 value) :=
  ⟨le_min zero_le_one (le_max_left _ _), min_le_left _ _⟩

theorem clamp01_of_unit {value : ℚ} (h : Unit01 value) : clamp01 value = value := by
  rw [clamp01, max_eq_right h.1, min_eq_right h.2]

theorem clamp01_mono {value higher : ℚ} (h : value ≤ higher) : clamp01 value ≤ clamp01 higher :=
  min_le_min le_rfl (max_le_max le_rfl h)

theorem isWithin_unit {value : ℚ} (h : isWithin 0 1 value = true) : Unit01 value := by
  simpa [isWithin, Unit01] using h

/-- What the schema promises of an input. -/
structure Bounded (input : MotionScoringInput) : Prop where
  productComplexity : Unit01 input.productComplexity
  trialability : Unit01 input.trialability
  acvBand : Unit01 input.acvBand
  salesCycleWeeks : 0 ≤ input.salesCycleWeeks
  founderContentCapacity : Unit01 input.founderContentCapacity
  categorySearchDemand : Unit01 input.categorySearchDemand
  communityDensity : Unit01 input.communityDensity
  telemetryReadiness : Unit01 input.telemetryReadiness
  budgetReadiness : Unit01 input.budgetReadiness

theorem bounded_of_valid {input : MotionScoringInput} (valid : input.valid = true) :
    Bounded input := by
  simp only [MotionScoringInput.valid, Bool.and_eq_true, decide_eq_true_eq] at valid
  obtain ⟨⟨⟨⟨⟨⟨⟨⟨⟨_, complexity⟩, trial⟩, acv⟩, weeks⟩, founder⟩, search⟩, density⟩, telemetry⟩,
    budget⟩ := valid
  constructor
  · exact isWithin_unit complexity
  · exact isWithin_unit trial
  · exact isWithin_unit acv
  · exact weeks
  · exact isWithin_unit founder
  · exact isWithin_unit search
  · exact isWithin_unit density
  · exact isWithin_unit telemetry
  · exact isWithin_unit budget

/-- No weight is negative and the weights of a motion add up to one. -/
theorem weighted_unit {input : MotionScoringInput} (h : Bounded input) (motion : MotionType) :
    Unit01 (input.weighted motion) := by
  have year := clamp01_unit (input.salesCycleWeeks / 12)
  have tenWeeks := clamp01_unit (input.salesCycleWeeks / 10)
  obtain ⟨complexity, trial, acv, _, founder, search, density, telemetry, budget⟩ := h
  unfold Unit01 at *
  cases motion <;>
    simp only [MotionScoringInput.weighted, MotionScoringInput.inbound, MotionScoringInput.community,
      MotionScoringInput.outbound, MotionScoringInput.lifecycle] <;>
    constructor <;> linarith

/-- An input with some of the numbers raised. -/
structure Raised (input other : MotionScoringInput) : Prop where
  productComplexity : input.productComplexity ≤ other.productComplexity
  trialability : input.trialability ≤ other.trialability
  acvBand : input.acvBand ≤ other.acvBand
  salesCycleWeeks : input.salesCycleWeeks ≤ other.salesCycleWeeks
  founderContentCapacity : input.founderContentCapacity ≤ other.founderContentCapacity
  categorySearchDemand : input.categorySearchDemand ≤ other.categorySearchDemand
  communityDensity : input.communityDensity ≤ other.communityDensity
  telemetryReadiness : input.telemetryReadiness ≤ other.telemetryReadiness
  budgetReadiness : input.budgetReadiness ≤ other.budgetReadiness

theorem weighted_mono {input other : MotionScoringInput} (h : Raised input other)
    (motion : MotionType) : input.weighted motion ≤ other.weighted motion := by
  obtain ⟨complexity, trial, acv, weeks, founder, search, density, telemetry, budget⟩ := h
  have year : clamp01 (input.salesCycleWeeks / 12) ≤ clamp01 (other.salesCycleWeeks / 12) := by
    apply clamp01_mono
    linarith
  have tenWeeks : clamp01 (input.salesCycleWeeks / 10) ≤ clamp01 (other.salesCycleWeeks / 10) := by
    apply clamp01_mono
    linarith
  cases motion <;>
    simp only [MotionScoringInput.weighted, MotionScoringInput.inbound, MotionScoringInput.community,
      MotionScoringInput.outbound, MotionScoringInput.lifecycle] <;>
    linarith

theorem mem_motions (motion : MotionType) : motion ∈ motions := by
  cases motion <;> decide

/-- Where the outer clamp changes nothing. -/
theorem scoreMap_eq {input : MotionScoringInput} (h : Bounded input) :
    scoreMap input = motions.map fun motion => (motion, input.weighted motion) := by
  apply List.map_congr_left
  intro motion _
  rw [clamp01_of_unit (weighted_unit h motion)]

theorem lookup_scores (f : MotionType → ℚ) (motion : MotionType) :
    (motions.map fun motion => (motion, f motion)).lookup motion = some (f motion) := by
  cases motion <;> rfl

/-- The entries fall in parts of which each scores no more than the one before. -/
theorem parts_ordered {entries : List (MotionType × ℚ)}
    (h : entries.Pairwise fun a b => b.2 ≤ a.2) :
    (∀ p ∈ entries.take 2, ∀ s ∈ (entries.drop 2).take 2, s.2 ≤ p.2) ∧
      ∀ s ∈ (entries.drop 2).take 2, ∀ u ∈ (entries.drop 2).drop 2, u.2 ≤ s.2 := by
  rw [← List.take_append_drop 2 entries, List.pairwise_append] at h
  obtain ⟨_, rest, first⟩ := h
  rw [← List.take_append_drop 2 (entries.drop 2), List.pairwise_append] at rest
  constructor
  · intro p primary s secondary
    exact first p primary s (List.mem_of_mem_take secondary)
  · exact rest.2.2

/-- What the scores of a valid input are and what is selected by them. -/
structure Ranks (input : MotionScoringInput) (result : MotionScoreResult) : Prop where
  unit : ∀ motion, 0 ≤ input.weighted motion ∧ input.weighted motion ≤ 1
  scores : ∀ motion, result.scores.lookup motion = some (input.weighted motion)
  raised : ∀ other higher, Raised input other → scoreMotions other = some higher →
    ∀ motion, ∃ score raised, result.scores.lookup motion = some score ∧
      higher.scores.lookup motion = some raised ∧ score ≤ raised
  sizes : result.selectedPrimary.length = 2 ∧ result.selectedSecondary.length = 2
  different : (result.selectedPrimary ++ result.selectedSecondary).Nodup
  primary : ∀ p ∈ result.selectedPrimary, ∀ s ∈ result.selectedSecondary,
    input.weighted s ≤ input.weighted p
  secondary : ∀ s ∈ result.selectedSecondary, ∀ u, u ∉ result.selectedPrimary →
    u ∉ result.selectedSecondary → input.weighted u ≤ input.weighted s

theorem scoreMotions_some {input : MotionScoringInput} {result : MotionScoreResult}
    (scored : scoreMotions input = some result) : input.valid = true ∧
      result.scores = scoreMap input ∧
      result.selectedPrimary = ((ordered (scoreMap input)).take 2).map (·.1) ∧
      result.selectedSecondary = (((ordered (scoreMap input)).drop 2).take 2).map (·.1) := by
  unfold scoreMotions at scored
  split at scored
  · rename_i valid
    obtain ⟨same, _⟩ := Option.filter_eq_some_iff.mp scored
    cases same
    exact ⟨valid, rfl, rfl, rfl⟩
  · cases scored

/-- Every score lies between nought and one. -/
theorem scores_within {input : MotionScoringInput} (bounded : Bounded input) :
    (scoreMap input).all (fun (_, score) => isWithin 0 1 score) = true := by
  rw [List.all_eq_true, scoreMap_eq bounded]
  intro entry member
  obtain ⟨motion, _, rfl⟩ := List.mem_map.mp member
  simpa [isWithin, Unit01] using weighted_unit bounded motion

/-- The result schema refuses no result. -/
theorem scoreMotions_returns {input : MotionScoringInput} (valid : input.valid = true) :
    ∃ result, scoreMotions input = some result := by
  have within := scores_within (bounded_of_valid valid)
  unfold scoreMotions
  rw [if_pos valid]
  simp [Option.filter, MotionScoreResult.valid, within]

theorem motions_ranked {input : MotionScoringInput} (valid : input.valid = true) :
    ∃ result, scoreMotions input = some result ∧ Ranks input result := by
  obtain ⟨result, scored⟩ := scoreMotions_returns valid
  obtain ⟨-, scores, primary, secondary⟩ := scoreMotions_some scored
  have bounded := bounded_of_valid valid
  rw [scoreMap_eq bounded] at scores primary secondary
  generalize sorted : ordered (motions.map fun motion => (motion, input.weighted motion)) = entries
    at primary secondary
  have perm : entries.Perm (motions.map fun motion => (motion, input.weighted motion)) := by
    rw [← sorted]
    exact List.perm_insertionSort _ _
  have falling : entries.Pairwise fun a b => b.2 ≤ a.2 := by
    rw [← sorted]
    exact List.pairwise_insertionSort (fun a b : MotionType × ℚ => b.2 ≤ a.2) _
  have scored_as : ∀ entry ∈ entries, entry.2 = input.weighted entry.1 := by
    intro entry member
    obtain ⟨motion, _, rfl⟩ := List.mem_map.mp (perm.mem_iff.mp member)
    rfl
  have each : (entries.map (·.1)).Perm motions := perm.map (·.1)
  have size : entries.length = 8 := by simpa [motions] using perm.length_eq
  obtain ⟨first, second⟩ := parts_ordered falling
  refine ⟨result, scored, weighted_unit bounded, ?_, ?_, ?_, ?_, ?_, ?_⟩
  · intro motion
    rw [scores, lookup_scores]
  · intro other higher raised scoredHigher motion
    obtain ⟨valid', scores', -, -⟩ := scoreMotions_some scoredHigher
    refine ⟨_, _, by rw [scores, lookup_scores], ?_, weighted_mono raised motion⟩
    rw [scores', scoreMap_eq (bounded_of_valid valid'), lookup_scores]
  · rw [primary, secondary]
    simp [size]
  · have whole := (each.nodup_iff).mpr (by decide : motions.Nodup)
    rw [← List.take_append_drop 2 entries, ← List.take_append_drop 2 (entries.drop 2),
      ← List.append_assoc, List.map_append] at whole
    rw [primary, secondary, ← List.map_append]
    exact (List.nodup_append.mp whole).1
  · intro p hp s hs
    rw [primary] at hp
    rw [secondary] at hs
    obtain ⟨a, inside, rfl⟩ := List.mem_map.mp hp
    obtain ⟨b, inside', rfl⟩ := List.mem_map.mp hs
    rw [← scored_as a (List.mem_of_mem_take inside),
      ← scored_as b (List.mem_of_mem_drop (List.mem_of_mem_take inside'))]
    exact first a inside b inside'
  · intro s hs u outside outside'
    rw [primary] at outside
    rw [secondary] at hs outside'
    obtain ⟨b, inside, rfl⟩ := List.mem_map.mp hs
    obtain ⟨c, member, rfl⟩ := List.mem_map.mp (each.mem_iff.mpr (mem_motions u))
    have unselected : c ∈ (entries.drop 2).drop 2 := by
      rw [← List.take_append_drop 2 entries, ← List.take_append_drop 2 (entries.drop 2)] at member
      rcases List.mem_append.mp member with selected | later
      · exact absurd (List.mem_map_of_mem selected) outside
      · rcases List.mem_append.mp later with selected | rest
        · exact absurd (List.mem_map_of_mem selected) outside'
        · exact rest
    rw [← scored_as b (List.mem_of_mem_drop (List.mem_of_mem_take inside)),
      ← scored_as c (List.mem_of_mem_drop (List.mem_of_mem_drop unselected))]
    exact second b inside c unselected

/-- A tenant with demand for content and a founder who writes. -/
def founderLed : MotionScoringInput where
  tenantId := "ten_1"
  productComplexity := 0.7
  trialability := 0.6
  acvBand := 0.5
  salesCycleWeeks := 5
  founderContentCapacity := 0.8
  categorySearchDemand := 0.9
  communityDensity := 0.7
  telemetryReadiness := 0.6
  budgetReadiness := 0.5

theorem founderLed_ranked : ∃ result, scoreMotions founderLed = some result ∧
    Ranks founderLed result :=
  motions_ranked (by decide +kernel)

end VantGrowth.Proofs.MotionRanks
