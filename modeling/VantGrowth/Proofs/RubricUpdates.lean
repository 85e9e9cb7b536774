import VantGrowth.Proofs.HumanApproval
import VantGrowth.Proofs.VersionLogs

namespace VantGrowth.Proofs.RubricUpdates
open Core Db Db.PlaybookVersionStore Lib Lib.Text Lib.Logs Learning
open PlaybookEffects WorldSteps WorkerAwaits SystemLogs ProposalTasks VersionLogs

/-- A version is created while the version its worker read as active still is
the active one. -/
def CreatedOnActive (d : Deployment) (w : World) (tenantId : String) (playbookType : PlaybookType)
    (a : Log) : Entry → Bool
  | .did (.worker i _) (.createVersion tenant params) (.ok _) =>
    !(tenant == tenantId && params.playbookType == playbookType) ||
      (Machine.history i a).all fun
        | ⟨.getActiveVersion _ _, read⟩ => read == (after d w a).playbooks.active tenantId playbookType
        | _ => true
  | _ => true

/-- The criterion is of the version that was active at first, or of one a
promotion created since. -/
def Promised (w : World) (log : Log) (tenantId : String) (playbookType : PlaybookType)
    (c : LearnerRubricCriterion) : Prop :=
  (∃ v, w.playbooks.active tenantId playbookType = some v ∧ c ∈ v.content.criteria) ∨
  ∃ i s params v, .did (.worker i s) (.createVersion tenantId params) (.ok v) ∈ log ∧
    params.playbookType = playbookType ∧ c ∈ v.content.criteria

/-- Content whose criteria, if there are any, pass the schema. -/
def Readable (content : PlaybookContent) : Prop :=
  content.criteria = [] ∨ ∃ rubric, content.safeParse = some rubric

/-- An update drops no criterion of readable content. -/
theorem readable_kept {content : PlaybookContent} (readable : Readable content)
    (reasons : List String) (ts : Instant) : ∀ c ∈ content.criteria,
      c ∈ (buildUpdatedRubricContent (some content) reasons ts).content.rubric := by
  rcases readable with empty | ⟨rubric, parsed⟩
  · simp [empty]
  · exact update_keeps parsed reasons ts

theorem update_is_readable (existing : Option PlaybookContent) {reasons : List String}
    (filled : ∀ reason ∈ reasons, reason ≠ "") (ts : Instant) :
    Readable (.rubric (buildUpdatedRubricContent existing reasons ts).content) :=
  Or.inr ⟨_, update_readable existing filled ts⟩

section
variable {d : Deployment} {w : World} {tenantId : String} {playbookType : PlaybookType}

/-- What the version of a tenant and type that is active has to be. -/
structure Covers (w : World) (log : Log) (tenantId : String) (playbookType : PlaybookType)
    (active : Option PlaybookVersionRecord) : Prop where
  readable : ∀ v, active = some v → Readable v.content
  promised : ∀ c, Promised w log tenantId playbookType c →
    ∃ v, active = some v ∧ c ∈ v.content.criteria

/-- A version created over the active one holds what that one held. -/
theorem creation_covers (h : Fresh d w) {a : Log} {i : Nat} {s : Start}
    {params : CreatePlaybookVersionParams} {v : PlaybookVersionRecord}
    (type : params.playbookType = playbookType)
    (valid : Explained d w (a ++ [.did (.worker i s) (.createVersion tenantId params) (.ok v)]))
    (onActive : CreatedOnActive d w tenantId playbookType a
      (.did (.worker i s) (.createVersion tenantId params) (.ok v)) = true)
    (before : Covers w a tenantId playbookType ((after d w a).playbooks.active tenantId playbookType)) :
    Readable v.content ∧
    ∀ u, (after d w a).playbooks.active tenantId playbookType = some u →
      ∀ c ∈ u.content.criteria, c ∈ v.content.criteria := by
  obtain ⟨_, t, j, claim, existing, criteriaTimestamp, effectiveAt, ready, rfl, asked⟩ :=
    valid.worked a [] i s (.createVersion tenantId params) (.ok v) rfl
  have content := (created_stored h valid).2.2.2.2
  have written : params.content = .rubric (buildUpdatedRubricContent (existing.map (·.content))
      t.critique.reasons criteriaTimestamp).content := by
    rw [asked]
    rfl
  have ofTask : t.playbookType = playbookType := by
    rw [← type, asked]
    rfl
  obtain ⟨hist, prior, claimed, _, split⟩ := ready.parts
  obtain ⟨hT, rest, taken, _⟩ := claimed.taken
  have member : (⟨.getActiveVersion t.tenantId t.playbookType, existing⟩ : Did Res) ∈
      Machine.history i a := by
    rw [split]
    exact List.mem_append_right _ (by simp)
  have read : existing = (after d w a).playbooks.active t.tenantId playbookType := by
    simp only [CreatedOnActive, type, beq_self_eq_true, Bool.and_self, Bool.not_true,
      Bool.false_or, List.all_eq_true] at onActive
    exact beq_iff_eq.mp (onActive _ member)
  have filled := CritiqueCompletedPayload.reasons_filled taken.valid
  rw [content, written]
  refine ⟨update_is_readable _ filled criteriaTimestamp, ?_⟩
  intro u active c member
  have kept := readable_kept (before.readable u active) t.critique.reasons criteriaTimestamp c member
  rw [read, active]
  exact kept

theorem covers_after (h : Fresh d w)
    (start : ∀ v, w.playbooks.active tenantId playbookType = some v → Readable v.content)
    {log : Log} (valid : Explained d w log)
    (onActive : Each (fun a e => CreatedOnActive d w tenantId playbookType a e = true) log) :
    Covers w log tenantId playbookType ((after d w log).playbooks.active tenantId playbookType) := by
  refine Machine.Valid.rec_ (J := fun log =>
    Each (fun a e => CreatedOnActive d w tenantId playbookType a e = true) log →
    Covers w log tenantId playbookType ((after d w log).playbooks.active tenantId playbookType))
    ?_ ?_ valid onActive
  · refine fun _ => ⟨start, ?_⟩
    rintro c (first | ⟨i, s, params, v, created, _⟩)
    · exact first
    · cases created
  · intro a e valid ih onActive
    have before := ih onActive.init
    have unmoved : (∀ i s params v, e = .did (.worker i s) (.createVersion tenantId params) (.ok v) →
          params.playbookType ≠ playbookType) →
        (after d w (a ++ [e])).playbooks.active tenantId playbookType =
          (after d w a).playbooks.active tenantId playbookType →
        Covers w (a ++ [e]) tenantId playbookType
          ((after d w (a ++ [e])).playbooks.active tenantId playbookType) := by
      intro elsewhere same
      rw [same]
      refine ⟨before.readable, ?_⟩
      rintro c (first | ⟨i, s, params, v, created, type, member⟩)
      · exact before.promised c (Or.inl first)
      · rcases List.mem_append.mp created with old | new
        · exact before.promised c (Or.inr ⟨i, s, params, v, old, type, member⟩)
        · exact absurd type (elsewhere i s params v (List.mem_singleton.mp new).symm)
    cases e with
    | spawned i s =>
      refine unmoved (by simp) ?_
      rw [after_spawned]
    | did actor op r =>
      cases op with
      | createVersion tenant params =>
        obtain ⟨i, s, rfl, _⟩ := by_worker valid rfl (by simp)
        have drafts := drafts_at h valid
        generalize ht : (after d w (a ++ [.did (.worker i s) (.createVersion tenant params)
          r])).playbooks = t at drafts unmoved ⊢
        cases drafts with
        | refused e records =>
          refine unmoved (by simp) ?_
          simp only [active, ofType, records]
        | drafted version v row fresh records newest =>
          by_cases own : tenant = tenantId ∧ params.playbookType = playbookType
          · obtain ⟨rfl, type⟩ := own
            obtain ⟨readable, kept⟩ := creation_covers h type valid onActive.at before
            have now : t.active tenant params.playbookType = some v := by
              refine drafted_active (s := (after d w a).playbooks) ?_ ?_ ?_ records ?_
              all_goals subst row
              · rfl
              · rfl
              · rfl
              · exact newest
            rw [type] at now
            rw [now]
            refine ⟨fun u hu => Option.some.inj hu ▸ readable, ?_⟩
            have older : ∀ c, Promised w a tenant playbookType c → c ∈ v.content.criteria := by
              intro c promised
              obtain ⟨u, active, member⟩ := before.promised c promised
              exact kept u active c member
            rintro c (first | ⟨k, s', params', u, created, type', member⟩)
            · exact ⟨v, rfl, older c (Or.inl first)⟩
            · refine ⟨v, rfl, ?_⟩
              rcases List.mem_append.mp created with old | new
              · exact older c (Or.inr ⟨k, s', params', u, old, type', member⟩)
              · cases List.mem_singleton.mp new
                exact member
          · refine unmoved ?_ ?_
            · rintro k s' params' u same type
              cases same
              exact own ⟨rfl, type⟩
            · have other : ¬ (v.tenantId = tenantId ∧ v.playbookType = playbookType) := by
                subst row
                exact own
              simp only [active, drafted_elsewhere fresh records other]
      | _ =>
        refine unmoved (by simp) ?_
        rw [after_did]
        rfl

/-- Where every version is created on the version that still is active, no
criterion is lost: the active rubric holds those of the first one and of every
version created since. -/
theorem no_criterion_lost (h : Fresh d w) (labels : List (Machine.Label Op Start))
    (tenantId : String) (playbookType : PlaybookType)
    (readable : ∀ v, w.playbooks.active tenantId playbookType = some v → Readable v.content)
    (onActive : Each (fun a e => CreatedOnActive d w tenantId playbookType a e = true)
      (runs (machine d).step (Machine.initial w) labels).log)
    (c : LearnerRubricCriterion)
    (promised : Promised w (runs (machine d).step (Machine.initial w) labels).log tenantId
      playbookType c) :
    ∃ v, (runs (machine d).step (Machine.initial w) labels).state.playbooks.active tenantId
      playbookType = some v ∧ c ∈ v.content.criteria := by
  obtain ⟨valid, state⟩ := machine_valid d w labels
  rw [state]
  exact (covers_after h readable valid onActive).promised c promised

end

open HumanApproval

def twoCritiques : List (Machine.Label Op Start) :=
  [.spawn (.critique acme (critiqued "c1" (some .low) ["too long"])),
    .spawn (.critique acme (critiqued "c2" (some .low) ["no evidence"]))]

/-- Both workers read the active version before either creates its own. -/
def raced : List (Machine.Label Op Start) :=
  twoCritiques ++ turns 0 12 ++ turns 1 12 ++ turns 0 4 ++ turns 1 4

def criterion (reason : String) : LearnerRubricCriterion := autoCriterion 0 reason 0

/-- A version with the criterion was created. -/
def adds (c : LearnerRubricCriterion) : Entry → Bool
  | .did (.worker _ _) (.createVersion tenantId params) (.ok v) =>
    tenantId == acme && params.playbookType == .blog_draft && v.content.criteria.contains c
  | _ => false

theorem adds_promised {log : Log} {c : LearnerRubricCriterion} (added : log.any (adds c) = true) :
    Promised w log acme .blog_draft c := by
  obtain ⟨e, member, is⟩ := List.any_eq_true.mp added
  unfold adds at is
  split at is
  · simp only [Bool.and_eq_true, beq_iff_eq, List.contains_iff_mem] at is
    obtain ⟨⟨rfl, type⟩, holds⟩ := is
    exact Or.inr ⟨_, _, _, _, member, type, holds⟩
  · cases is

/-- Both proposals are promoted and the criterion of the first is gone. -/
theorem raced_loses :
    Promised opening (runs (machine deployed).step (Machine.initial opening) raced).log acme
      .blog_draft (criterion "too long") ∧
    (runs (machine deployed).step (Machine.initial opening)
      raced).state.proposals.recordsById.values.map (·.status) = [.promoted, .promoted] ∧
    ¬ ∃ v, (runs (machine deployed).step (Machine.initial opening) raced).state.playbooks.active acme
      .blog_draft = some v ∧ criterion "too long" ∈ v.content.criteria := by
  have ran : (runs (machine deployed).step (Machine.initial opening) raced).log.any
        (adds (criterion "too long")) = true ∧
      (runs (machine deployed).step (Machine.initial opening)
        raced).state.proposals.recordsById.values.map (·.status) = [.promoted, .promoted] ∧
      ((runs (machine deployed).step (Machine.initial opening) raced).state.playbooks.active
        acme .blog_draft).all (fun v => !v.content.criteria.contains (criterion "too long")) = true := by
    decide +kernel
  obtain ⟨added, promoted, gone⟩ := ran
  refine ⟨adds_promised added, promoted, ?_⟩
  rintro ⟨v, active, member⟩
  rw [active] at gone
  simp [member] at gone

def inTurn : List (Machine.Label Op Start) :=
  twoCritiques ++ turns 0 16 ++ [.outside (.tick 1)] ++ turns 1 16

theorem inTurn_keeps : ∃ v,
    (runs (machine deployed).step (Machine.initial opening) inTurn).state.playbooks.active acme
      .blog_draft = some v ∧ criterion "too long" ∈ v.content.criteria :=
  no_criterion_lost opening_fresh inTurn acme .blog_draft (by intro v active; cases active)
    (by decide +kernel) (criterion "too long") (adds_promised (by decide +kernel))

end VantGrowth.Proofs.RubricUpdates
