import VantGrowth.Content.PlaybookRubric
import VantGrowth.Learning.Contracts
import VantGrowth.Learning.Rubric
import VantGrowth.Lib.Surrogates
import VantGrowth.Lib.Text

namespace VantGrowth.Proofs.RubricExtension
open Learning Lib

/-- What becomes of a rubric that is extended by the criteria of some reasons. -/
structure Extends (rubric : LearnerRubricContent) (reasons : List String)
    (updated : LearnerRubricContent) (added : List LearnerRubricCriterion) : Prop where
  accepted : (PlaybookContent.rubric updated).safeParse = some updated
  appended : updated.rubric = rubric.rubric ++ added
  settings : updated = { rubric with rubric := updated.rubric }
  described : added.map (·.description) = reasons.map criterionDescription
  apart : (added.map (·.id)).Nodup
  unused : ∀ c ∈ added, c.id ∉ rubric.rubric.map (·.id)
  short : ∀ c ∈ added, c.description.length ≤ 120
  whole : ∀ c ∈ added, JsString.paired c.description = true

/-- The id of the `i`th criterion of an update. -/
def autoId (ts : Instant) (i : Nat) : String := "auto-" ++ toString ts ++ "-" ++ toString i

/-- The cut after 117 units falls into a surrogate pair. -/
def CutsPair (reason : String) : Prop :=
  120 < (JsString.ofString reason).length ∧
    ∃ u, (JsString.ofString reason)[116]? = some u ∧ JsString.isHigh u = true

section
variable {content : PlaybookContent} {rubric : LearnerRubricContent} {reasons : List String}
  {ts : Instant}

/-- The criteria of all reasons, before those with a known id are dropped. -/
def criteria (reasons : List String) (ts : Instant) : List LearnerRubricCriterion :=
  reasons.mapIdx fun i reason => autoCriterion ts reason i

theorem update_eq (reasons : List String) (ts : Instant) (readable : content.safeParse = some rubric) :
    (buildUpdatedRubricContent (some content) reasons ts).addedCriteria =
      (criteria reasons ts).filter (fun c => !(rubric.rubric.map (·.id)).contains c.id) ∧
    (buildUpdatedRubricContent (some content) reasons ts).content =
      { rubric with rubric := rubric.rubric ++
          (buildUpdatedRubricContent (some content) reasons ts).addedCriteria } := by
  simp [buildUpdatedRubricContent, readable, criteria]

theorem criteria_descriptions (reasons : List String) (ts : Instant) :
    (criteria reasons ts).map (·.description) = reasons.map criterionDescription := by
  apply List.ext_getElem
  · simp [criteria]
  · intro i left right
    simp [criteria, autoCriterion]

theorem auto_id_inj {i j : Nat} (same : autoId ts i = autoId ts j) : i = j := by
  unfold autoId at same
  exact Text.decimal_inj ((String.append_right_inj _).mp same)

theorem criteria_ids (reasons : List String) (ts : Instant) :
    (criteria reasons ts).map (·.id) = (List.range reasons.length).map (autoId ts) := by
  apply List.ext_getElem
  · simp [criteria]
  · intro i left right
    simp [criteria, autoCriterion, autoId]

theorem criteria_apart (reasons : List String) (ts : Instant) :
    ((criteria reasons ts).map (·.id)).Nodup := by
  rw [criteria_ids]
  apply List.Nodup.map
  · intro i j same
    exact auto_id_inj same
  · exact List.nodup_range

theorem description_short (reason : String) : (criterionDescription reason).length ≤ 120 := by
  have dots : (JsString.ofString "...").length = 3 := by decide
  unfold criterionDescription
  dsimp only
  split
  · rw [List.length_append, List.length_take, dots]
    omega
  · omega

/-- A description keeps the pairs of its reason unless the cut falls into one. -/
theorem description_whole (reason : String) :
    JsString.paired (criterionDescription reason) = true ↔ ¬ CutsPair reason := by
  have pairs := JsString.ofString_paired reason
  have dots : JsString.ofString "..." = [46, 46, 46] := by decide
  unfold criterionDescription CutsPair
  dsimp only
  split
  · rename_i long
    constructor
    · intro whole ⟨_, u, there, high⟩
      have kept : ((JsString.ofString reason).take 117 ++ JsString.ofString "...")[116]? = some u := by
        rw [List.getElem?_append_left (by simp; omega), List.getElem?_take_of_lt (by decide)]
        exact there
      obtain ⟨v, next, low⟩ := JsString.paired_next whole kept high
      rw [dots, List.getElem?_append_right (by simp)] at next
      have size : ((JsString.ofString reason).take 117).length = 117 := by
        simp
        omega
      rw [size] at next
      cases next
      cases low
    · intro uncut
      apply JsString.paired_append _ (by rw [dots]; decide)
      apply JsString.paired_take pairs
      intro u there
      by_contra high
      exact uncut ⟨long, u, there, by simpa using high⟩
  · rename_i short
    simp [short, pairs]

/-- The filter drops nothing exactly where no id is taken. -/
theorem nothing_dropped : ((criteria reasons ts).filter
      (fun c => !(rubric.rubric.map (·.id)).contains c.id)).length = reasons.length ↔
    ∀ i < reasons.length, autoId ts i ∉ rubric.rubric.map (·.id) := by
  have size : reasons.length = (criteria reasons ts).length := by simp [criteria]
  rw [size, List.length_filter_eq_length_iff, ← size]
  have ids := criteria_ids reasons ts
  constructor
  · intro free i bound taken
    have member : autoId ts i ∈ (criteria reasons ts).map (·.id) := by
      rw [ids]
      exact List.mem_map_of_mem (List.mem_range.mpr bound)
    obtain ⟨c, inside, named⟩ := List.mem_map.mp member
    have kept := free c inside
    rw [named] at kept
    simp only [List.contains_eq_mem, Bool.not_eq_true', decide_eq_false_iff_not] at kept
    exact kept taken
  · intro free c inside
    have member := List.mem_map_of_mem (f := LearnerRubricCriterion.id) inside
    rw [ids] at member
    obtain ⟨i, bound, named⟩ := List.mem_map.mp member
    rw [← named]
    simpa using free i (List.mem_range.mp bound)

/-- An update extends the rubric by one criterion for each reason exactly where
no id of its timestamp is taken and no reason is cut inside a pair. -/
theorem update_extends (readable : content.safeParse = some rubric)
    (filled : ∀ reason ∈ reasons, reason ≠ "") :
    (∃ added, Extends rubric reasons (buildUpdatedRubricContent (some content) reasons ts).content
        added) ↔
      (∀ i < reasons.length, autoId ts i ∉ rubric.rubric.map (·.id)) ∧
        ∀ reason ∈ reasons, ¬ CutsPair reason := by
  obtain ⟨kept, updated⟩ := update_eq reasons ts readable
  constructor
  · intro ⟨added, ext⟩
    have same : (buildUpdatedRubricContent (some content) reasons ts).addedCriteria = added := by
      have appended := ext.appended
      rw [updated] at appended
      exact List.append_cancel_left appended
    have sizes := congrArg List.length ext.described
    rw [List.length_map, List.length_map, ← same, kept] at sizes
    refine ⟨nothing_dropped.mp sizes, ?_⟩
    intro reason member
    have told : criterionDescription reason ∈ added.map (·.description) := by
      rw [ext.described]
      exact List.mem_map_of_mem member
    obtain ⟨c, inside, described⟩ := List.mem_map.mp told
    have whole := ext.whole c inside
    rw [described] at whole
    exact (description_whole reason).mp whole
  · intro ⟨free, uncut⟩
    have all : (buildUpdatedRubricContent (some content) reasons ts).addedCriteria =
        criteria reasons ts := by
      rw [kept]
      apply List.filter_eq_self.mpr
      apply List.length_filter_eq_length_iff.mp
      rw [nothing_dropped.mpr free]
      simp [criteria]
    have described : ∀ c ∈ criteria reasons ts, ∃ reason ∈ reasons,
        c.description = criterionDescription reason := by
      intro c inside
      have member := List.mem_map_of_mem (f := LearnerRubricCriterion.description) inside
      rw [criteria_descriptions] at member
      obtain ⟨reason, there, same⟩ := List.mem_map.mp member
      exact ⟨reason, there, same.symm⟩
    refine ⟨criteria reasons ts, ?_⟩
    constructor
    · exact update_readable (some content) filled ts
    · rw [updated, all]
    · rw [updated]
    · exact criteria_descriptions reasons ts
    · exact criteria_apart reasons ts
    · intro c inside taken
      rw [← all, kept] at inside
      simpa [taken] using (List.mem_filter.mp inside).2
    · intro c inside
      obtain ⟨reason, _, same⟩ := described c inside
      rw [same]
      exact description_short reason
    · intro c inside
      obtain ⟨reason, there, same⟩ := described c inside
      rw [same]
      exact (description_whole reason).mpr (uncut reason there)

end

/-- The default rubric after a promotion at 1000. -/
def promotedAt1000 : LearnerRubricContent :=
  (buildUpdatedRubricContent none ["too long"] 1000).content

theorem promoted_readable : (PlaybookContent.rubric promotedAt1000).safeParse = some promotedAt1000 := by
  decide +kernel

theorem later_promotion_extends : ∃ added, Extends promotedAt1000 ["no evidence"]
    (buildUpdatedRubricContent (some (.rubric promotedAt1000)) ["no evidence"] 1001).content added := by
  apply (update_extends promoted_readable (by decide)).mpr
  constructor
  · decide
  · intro reason member
    rw [List.mem_singleton.mp member]
    intro cut
    exact absurd cut.1 (by decide)

/-- The criterion of a second promotion in the same millisecond is dropped. -/
theorem same_timestamp_drops : ¬ ∀ (content : PlaybookContent) (rubric : LearnerRubricContent)
    (reasons : List String) (ts : Instant), content.safeParse = some rubric →
      (∀ reason ∈ reasons, reason ≠ "") → ∃ added, Extends rubric reasons
        (buildUpdatedRubricContent (some content) reasons ts).content added := by
  intro claim
  obtain ⟨added, ext⟩ := claim _ _ ["no evidence"] 1000 promoted_readable (by decide)
  have grown := congrArg List.length ext.appended
  have told := congrArg List.length ext.described
  have same : (buildUpdatedRubricContent (some (.rubric promotedAt1000)) ["no evidence"]
      1000).content.rubric.length = promotedAt1000.rubric.length := by decide +kernel
  rw [same, List.length_append] at grown
  simp only [List.length_map, List.length_singleton] at told
  omega

end VantGrowth.Proofs.RubricExtension

namespace VantGrowth.Proofs.PlaybookKinds
open Db Lib Content
open Learning (ResolvedPlaybookType ARTIFACT_KIND_TO_PLAYBOOK_TYPE inheritedMembers
  resolvePlaybookType)

/-! The learner and the critic each map an artifact kind to a playbook type. -/

/-- A playbook type or null, as the learner's lookup would give it. -/
def ofCritic : Option PlaybookType → ResolvedPlaybookType
  | some playbookType => .known playbookType
  | none => .unknown

/-- Both workers take the rubric of the same playbook type. -/
def Agree (artifactKind : String) : Prop :=
  resolvePlaybookType artifactKind = ofCritic (artifactKindToPlaybookType artifactKind)

instance (artifactKind : String) : Decidable (Agree artifactKind) :=
  inferInstanceAs (Decidable (_ = _))

theorem startsWith_eq (s part : String) : s.startsWith part = startsWith s part := by
  rw [Bool.eq_iff_iff, String.startsWith_string_iff]
  simp [startsWith]

/-- An exact entry is one that the prefixes give as well. -/
theorem lookup_prefixes {artifactKind : String} {exact : PlaybookType}
    (found : ARTIFACT_KIND_TO_PLAYBOOK_TYPE.lookup artifactKind = some exact) :
    artifactKindToPlaybookType artifactKind = some exact := by
  have entries : ∀ entry ∈ ARTIFACT_KIND_TO_PLAYBOOK_TYPE,
      artifactKindToPlaybookType entry.1 = some entry.2 := by decide
  obtain ⟨before, after, split, -⟩ := List.lookup_eq_some_iff.1 found
  have member : (artifactKind, exact) ∈ ARTIFACT_KIND_TO_PLAYBOOK_TYPE := by
    rw [split]
    simp
  exact entries _ member

theorem inherited_unlisted {artifactKind : String} (inherited : artifactKind ∈ inheritedMembers) :
    ARTIFACT_KIND_TO_PLAYBOOK_TYPE.lookup artifactKind = none := by
  have names : ∀ name ∈ inheritedMembers,
      ARTIFACT_KIND_TO_PLAYBOOK_TYPE.lookup name = none := by decide
  exact names _ inherited

/-- A kind that names an inherited member is resolved to that member. -/
theorem inherited_resolved {artifactKind : String} (inherited : artifactKind ∈ inheritedMembers) :
    resolvePlaybookType artifactKind = .inheritedMember := by
  simp [resolvePlaybookType, inherited_unlisted inherited, inherited]

theorem critic_known (playbookType : Option PlaybookType) :
    ofCritic playbookType ≠ .inheritedMember := by
  cases playbookType <;> simp [ofCritic]

theorem prefixes_agree {artifactKind : String} (inherited : artifactKind ∉ inheritedMembers)
    (unlisted : ARTIFACT_KIND_TO_PLAYBOOK_TYPE.lookup artifactKind = none) :
    Agree artifactKind := by
  unfold Agree resolvePlaybookType artifactKindToPlaybookType
  simp only [unlisted, inherited, if_false, startsWith_eq]
  split_ifs <;> rfl

theorem listed_agree {artifactKind : String} {exact : PlaybookType}
    (found : ARTIFACT_KIND_TO_PLAYBOOK_TYPE.lookup artifactKind = some exact) :
    Agree artifactKind := by
  simp [Agree, resolvePlaybookType, found, lookup_prefixes found, ofCritic]

/-- The workers agree on every kind but those that name an inherited member. -/
theorem same_playbook_type (artifactKind : String) :
    Agree artifactKind ↔ artifactKind ∉ inheritedMembers := by
  constructor
  · intro agree inherited
    rw [Agree, inherited_resolved inherited] at agree
    exact critic_known _ agree.symm
  · intro inherited
    cases found : ARTIFACT_KIND_TO_PLAYBOOK_TYPE.lookup artifactKind with
    | none => exact prefixes_agree inherited found
    | some exact => exact listed_agree found

/-- The critic knows no playbook for `constructor`; the learner takes a function
for one. -/
theorem constructor_resolved :
    resolvePlaybookType "constructor" = .inheritedMember ∧
      artifactKindToPlaybookType "constructor" = none ∧
      ¬ ∀ artifactKind, Agree artifactKind := by
  refine ⟨by decide, by decide, fun all => ?_⟩
  exact absurd (all "constructor") (by decide)

end VantGrowth.Proofs.PlaybookKinds
