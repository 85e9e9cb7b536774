import VantGrowth.Content.Critique
import VantGrowth.Learning.Consumers
import VantGrowth.Proofs.FallbackBriefs

namespace VantGrowth.Proofs.CritiqueFallbacks
open Core Db Db.Zod Lib Content FallbackBriefs
open Learning (CritiqueVerdict LearnerRubricContent critiqueCompletedPayloadSchema riskText)

/-- What the first call of the model states. -/
def stated (d : CritiqueDeployment) (w : World) : Option Scoring :=
  (d.llmCallRunner.bind (· w.calls)).bind (statedScoring d.runtime)

/-- The rubric the active playbook for an artifact holds. -/
def activeRubric (d : CritiqueDeployment) (request : CritiqueRequest) : Option LearnerRubricContent := do
  let store ← d.playbookRepository
  let playbookType ← artifactKindToPlaybookType request.artifactKind
  let playbook ← store.active request.tenantId playbookType
  playbook.content.safeParse

/-- The model's scoring, else that of the rubric, else the heuristic one. -/
def Falls (d : CritiqueDeployment) (request : CritiqueRequest) (w : World) (scoring : Scoring) :
    Prop :=
  match stated d w, activeRubric d request with
  | some given, _ => scoring = given
  | none, some content => ∃ results,
      List.Forall₂ (fun criterion result => ∃ check, result = resultOf criterion check)
        content.rubric results ∧ scoring = scoreWithRubric d (rubricResult results)
  | none, none => scoring = scoreCritique request

/-- The critique returns the scoring its tiers come to, and the outbox holds an
event for it whose payload the learner takes. -/
def Survives (d : CritiqueDeployment) (request : CritiqueRequest) (w : World) : Prop :=
  ∃ result w', (CritiqueWorker.critique d request).run w = (.ok result, w') ∧
    result.toCritiqueRequest = request ∧ Falls d request w result.toScoring ∧
    (∀ timeOf, (critiqueCompletedPayloadSchema timeOf (.obj (completedPayload result))).isSome = true) ∧
    InMemoryOutboxRepository.Sends (completedCommand result) w.outbox w'.outbox

/-- The model states no scoring, or one whose reasons all say something. -/
def givesReasons (d : CritiqueDeployment) (w : World) : Bool :=
  (stated d w).all fun scoring => scoring.reasons.all isFilled

theorem filled_read {s : String} (h : isFilled s = true) : filled (.str s) = some s :=
  if_neg (bne_iff_ne.mp h)

theorem texts_filled {values : List String} (h : values.all isFilled = true) :
    array filled (texts values) = some values := by
  simp only [texts, array]
  induction values with
  | nil => rfl
  | cons s rest ih =>
    simp only [List.all_cons, Bool.and_eq_true] at h
    simp [List.mapM_cons, filled_read h.1, ih h.2]

theorem risk_read (risk : ChangeRisk) :
    oneOf Learning.changeRisks (.str (riskText risk)) = some risk := by
  cases risk <;> decide

theorem verdict_read (verdict : CritiqueVerdict) :
    oneOf Learning.critiqueVerdicts (.str verdict.text) = some verdict := by
  cases verdict <;> decide

/-- A result as the learner reads it. -/
def heard (timeOf : String → Instant) (result : CritiqueResult) : Learning.CritiqueCompletedPayload where
  critique_id := result.critiqueId
  source := result.source
  artifact_kind := result.artifactKind
  artifact_id := result.artifactId
  experiment_id := result.experimentId
  change_risk := result.changeRisk
  prompt_version := result.promptVersion
  verdict := result.verdict
  confidence_score := result.confidenceScore
  reasons := result.reasons
  critiqued_at := timeOf result.critiquedAt.toISOString

/-- The learner takes whatever the result schema let through, as it was. -/
theorem completed_read {result : CritiqueResult} (valid : result.valid = true)
    (timeOf : String → Instant) :
    critiqueCompletedPayloadSchema timeOf (.obj (completedPayload result)) =
      some (heard timeOf result) := by
  obtain ⟨⟨tenantId, critiqueId, dedupeKey, source, artifactKind, artifactId, experimentId,
    changeRisk, promptVersion, candidateOutput, reviewerNotes⟩, ⟨verdict, score, reasons⟩,
    critiquedAt⟩ := result
  simp only [CritiqueResult.valid, CritiqueRequest.valid, Bool.and_eq_true] at valid
  obtain ⟨⟨⟨⟨⟨⟨⟨⟨⟨⟨⟨_, id⟩, _⟩, from_⟩, kind⟩, artifact⟩, experiment⟩, prompt⟩, _⟩, _⟩, bounds⟩,
    given⟩ := valid
  have scored : numberIn 0 1 (.num (.finite score)) = some score := by
    simp only [isWithin, Bool.and_eq_true, decide_eq_true_eq] at bounds
    exact if_pos bounds
  have dated : matching isDatetime (.str critiquedAt.toISOString) = some critiquedAt.toISOString := by
    simp only [matching, critiquedAt.datetime, ↓reduceIte]
  have lineage : ∀ uuid_, experimentId = some uuid_ → uuid (.str uuid_) = some uuid_ := by
    intro uuid_ there
    rw [there] at experiment
    exact if_pos experiment
  show Learning.readCritiqueCompleted timeOf (completedPayload _) = _
  unfold Learning.readCritiqueCompleted
  cases experimentId <;> cases changeRisk
  all_goals
    refine then_required rfl (filled_read id) ?_
    refine then_required rfl (filled_read from_) ?_
    refine then_required rfl (filled_read kind) ?_
    refine then_required rfl (filled_read artifact) ?_
    first
      | refine then_absent rfl ?_
      | refine then_optional rfl (lineage _ rfl) ?_
    first
      | refine then_absent rfl ?_
      | refine then_optional rfl (risk_read _) ?_
    refine then_required rfl (filled_read prompt) ?_
    refine then_required rfl (verdict_read verdict) ?_
    refine then_required rfl scored ?_
    refine then_required rfl (texts_filled given) ?_
    refine then_required rfl dated ?_
    rfl

theorem completed_accepted {result : CritiqueResult} (valid : result.valid = true)
    (timeOf : String → Instant) :
    (critiqueCompletedPayloadSchema timeOf (.obj (completedPayload result))).isSome = true := by
  rw [completed_read valid]
  rfl

/-- What a scoring must have to become a result. -/
def fits (scoring : Scoring) : Bool :=
  isWithin 0 1 scoring.confidenceScore && scoring.reasons.all isFilled

theorem heuristic_fits (request : CritiqueRequest) : fits (scoreCritique request) = true := by
  unfold scoreCritique
  dsimp only
  split
  · decide +kernel
  · split <;> decide +kernel

theorem rubric_fits (d : CritiqueDeployment) (results : List CriterionResult) :
    fits (scoreWithRubric d (rubricResult results)) = true := by
  have bounds : isWithin 0 1 (min 1 (max 0 (normalisedScore results))) = true := by
    simp [isWithin]
  have reasons : (rubricResult results).reasons.all isFilled = true := by
    unfold rubricResult
    dsimp only
    split
    · decide
    · refine List.all_eq_true.mpr fun reason member => ?_
      obtain ⟨c, _, rfl⟩ := List.mem_map.mp member
      exact prefixed_filled (bne_iff_ne.mp (suffixed_filled (by decide : ": " ≠ "")))
  simp only [fits, scoreWithRubric, reasons, Bool.and_true]
  exact bounds

theorem stated_bounds {d : CritiqueDeployment} {w : World} {scoring : Scoring}
    (h : stated d w = some scoring) : isWithin 0 1 scoring.confidenceScore = true := by
  obtain ⟨content, _, read⟩ := Option.bind_eq_some_iff.mp h
  obtain ⟨json, _, read⟩ := Option.bind_eq_some_iff.mp read
  have inside : ∀ j (value : ℚ), numberIn 0 1 j = some value → isWithin 0 1 value = true := by
    intro j value there
    simpa [isWithin] using numberIn_eq_some there
  cases json with
  | obj p =>
    simp only [llmCritiqueResponseSchema, object, Option.bind_eq_bind, Option.bind_eq_some_iff] at read
    obtain ⟨verdict, _, snake, first, camel, second, reasons, _, made⟩ := read
    have snakeBounds := optional_all first inside
    have camelBounds := optional_all second inside
    split at made
    · cases made
    · cases made
      cases camel with
      | some value => exact camelBounds
      | none =>
        cases snake with
        | some value => exact snakeBounds
        | none => exact (by decide +kernel : isWithin 0 1 (7 / 10) = true)
  | null => cases read
  | bool b => cases read
  | num n => cases read
  | str s => cases read
  | arr items => cases read

theorem llmScore_run (d : CritiqueDeployment) (w : World) :
    (llmScoreOf d).Ends w fun x w' => x = .ok (stated d w) ∧ w'.outbox = w.outbox := by
  unfold llmScoreOf stated
  cases d.llmCallRunner with
  | none => exact Store.Ends.pure ⟨rfl, rfl⟩
  | some runner => simp [Store.Ends, critiqueWithLlm, Store.run_bind]

theorem evaluateAsync_run (r : Runtime) (content : LearnerRubricContent) (text : String)
    (runner : Option LlmCallRunner) (criterion : Learning.LearnerRubricCriterion) (w : World) :
    (evaluateAsync r content text runner criterion).Ends w fun x w' => w'.outbox = w.outbox ∧
      ∃ result, x = .ok result ∧ ∃ check, result = resultOf criterion check := by
  unfold evaluateAsync
  split
  · exact Store.Ends.pure ⟨rfl, _, rfl, _, rfl⟩
  · simp [Store.Ends, evaluateCriterionWithLlm, Store.run_bind]
  · exact Store.Ends.pure ⟨rfl, _, rfl, _, rfl⟩

theorem activePlaybook_eq (d : CritiqueDeployment) (store : PlaybookVersionStore) {tenantId : String}
    (tenant : isUuid tenantId = true) (playbookType : PlaybookType) :
    activePlaybook d store tenantId playbookType = .ok (store.active tenantId playbookType) := by
  unfold activePlaybook
  cases d.backend with
  | inMemory => rfl
  | postgres => simp [PostgresPlaybookVersionsRepository.getActive, uuidText, tenant, parsed]

theorem playbook_run (d : CritiqueDeployment) {request : CritiqueRequest}
    (tenant : isUuid request.tenantId = true) (w : World) :
    (scoreWithPlaybook d request).Ends w fun x w' => w'.outbox = w.outbox ∧
      match activeRubric d request with
      | none => x = .ok none
      | some content => ∃ results,
          List.Forall₂ (fun criterion result => ∃ check, result = resultOf criterion check)
            content.rubric results ∧ x = .ok (some (scoreWithRubric d (rubricResult results))) := by
  unfold scoreWithPlaybook activeRubric
  cases d.playbookRepository with
  | none => exact Store.Ends.pure ⟨rfl, rfl⟩
  | some store =>
    cases artifactKindToPlaybookType request.artifactKind with
    | none => exact Store.Ends.pure ⟨rfl, rfl⟩
    | some playbookType =>
      dsimp only [Option.bind_eq_bind, Option.bind_some]
      rw [activePlaybook_eq d store tenant]
      show Store.Ends (Store.read (fun _ => store.active request.tenantId playbookType) >>= _) w _
      refine Store.Ends.read_bind ?_
      cases store.active request.tenantId playbookType with
      | none => exact Store.Ends.pure ⟨rfl, rfl⟩
      | some playbook =>
        dsimp only [Option.bind_some]
        cases playbook.content.safeParse with
        | none => exact Store.Ends.pure ⟨rfl, rfl⟩
        | some content =>
          unfold evaluateRubricAsync
          have looped := Store.Ends.mapM (I := fun w' => w'.outbox = w.outbox)
            (fun criterion s same =>
              (evaluateAsync_run d.runtime content request.candidateOutput d.llmCallRunner criterion
                s).weaken fun x t ⟨kept, done⟩ => ⟨kept.trans same, done⟩) content.rubric w rfl
          dsimp only
          rw [Store.bind_assoc]
          refine looped.bind ?_ ?_
          · rintro e t ⟨_, _, thrown, _⟩
            cases thrown
          · rintro results t ⟨same, _, done, each⟩
            cases done
            exact Store.Ends.pure_bind (Store.Ends.pure ⟨same, results, each, rfl⟩)

theorem scoring_run (d : CritiqueDeployment) {request : CritiqueRequest}
    (tenant : isUuid request.tenantId = true) (w : World) :
    (scoringFor d request).Ends w fun x w' => w'.outbox = w.outbox ∧
      ∃ scoring, x = .ok scoring ∧ Falls d request w scoring ∧
        (fits scoring = true ↔ givesReasons d w = true) := by
  refine (llmScore_run d w).bind ?_ ?_
  · rintro e t ⟨thrown, _⟩
    cases thrown
  · rintro answer t ⟨done, same⟩
    cases done
    unfold Falls givesReasons
    cases given : stated d w with
    | some scoring =>
      refine Store.Ends.pure ⟨same, scoring, rfl, rfl, ?_⟩
      simp [fits, stated_bounds given]
    | none =>
      refine (playbook_run d tenant t).bind ?_ ?_
      · intro e u ⟨_, ended⟩
        split at ended
        · cases ended
        · obtain ⟨_, _, thrown⟩ := ended
          cases thrown
      · intro scored u ⟨kept, ended⟩
        cases rubric : activeRubric d request with
        | none =>
          rw [rubric] at ended
          cases ended
          exact Store.Ends.pure ⟨kept.trans same, _, rfl, rfl, by simp [heuristic_fits]⟩
        | some content =>
          rw [rubric] at ended
          obtain ⟨results, each, done⟩ := ended
          cases done
          exact Store.Ends.pure ⟨kept.trans same, _, rfl, ⟨results, each, rfl⟩, by
            simp [rubric_fits]⟩

theorem completedCommand_valid {result : CritiqueResult} (valid : result.valid = true) :
    (completedCommand result).valid = true := by
  have named : isOutboxEventType "critique.completed.v1" = true := by decide
  simp only [CritiqueResult.valid, CritiqueRequest.valid, isFilled, Bool.and_eq_true] at valid
  simp [EnqueueOutboxEvent.valid, completedCommand, named, valid]

theorem critique_run (d : CritiqueDeployment) {request : CritiqueRequest} {w : World}
    (valid : request.valid = true) (h : w.outbox.Consistent) :
    (CritiqueWorker.critique d request).Ends w fun x w' =>
      (∃ result, x = .ok result ∧ result.toCritiqueRequest = request ∧
        Falls d request w result.toScoring ∧ result.valid = true ∧
        InMemoryOutboxRepository.Sends (completedCommand result) w.outbox w'.outbox) ∧
          givesReasons d w = true ∨
      x = .error .zod ∧ w'.outbox = w.outbox ∧ givesReasons d w = false := by
  have tenant : isUuid request.tenantId = true := by
    simp only [CritiqueRequest.valid, Bool.and_eq_true] at valid
    exact valid.1.1.1.1.1.1.1.1.1
  unfold CritiqueWorker.critique
  rw [checked, if_pos valid]
  refine Store.Ends.pure_bind ((scoring_run d tenant w).bind ?_ ?_)
  · rintro e t ⟨_, _, thrown, _⟩
    cases thrown
  · rintro scoring t ⟨same, _, done, falls, counts⟩
    cases done
    have shape : CritiqueResult.valid
        { toCritiqueRequest := request, toScoring := scoring, critiquedAt := d.now } =
          fits scoring := by
      simp [CritiqueResult.valid, fits, valid]
    unfold checked
    by_cases given : givesReasons d w = true
    · have admitted := shape.trans (counts.mpr given)
      rw [if_pos admitted]
      refine Store.Ends.pure_bind ((enqueue_sends d.toDeployment (same ▸ h)
        (completedCommand_valid admitted)).bind ?_ ?_)
      · rintro e u ⟨⟨_, thrown⟩, _⟩
        cases thrown
      · rintro event u ⟨_, sends, _⟩
        rw [same] at sends
        exact Store.Ends.pure (Or.inl ⟨⟨_, rfl, rfl, falls, admitted, sends⟩, given⟩)
    · have refused := mt counts.mp given
      rw [← shape] at refused
      rw [if_neg refused]
      exact Store.Ends.throw_bind (Or.inr ⟨rfl, same, Bool.eq_false_iff.mpr given⟩)

/-- The critique of a valid request survives exactly where the model states no
scoring, or one none of whose reasons is empty. -/
theorem critique_survives_iff (d : CritiqueDeployment) {request : CritiqueRequest} {w : World}
    (valid : request.valid = true) (h : w.outbox.Consistent) :
    Survives d request w ↔ givesReasons d w = true := by
  have ended := critique_run d valid h
  unfold Store.Ends at ended
  constructor
  · rintro ⟨result, w', run, _⟩
    rw [run] at ended
    rcases ended with ⟨_, given⟩ | ⟨refused, _⟩
    · exact given
    · cases refused
  · intro given
    rcases ended with ⟨⟨result, done, same, falls, admitted, sends⟩, _⟩ | ⟨_, _, empty⟩
    · exact ⟨result, _, Prod.ext done rfl, same, falls, completed_accepted admitted, sends⟩
    · rw [given] at empty
      cases empty

/-- A runtime that reads one answer: a revision with the reasons given. -/
def readingRuntime (reasons : List String) : Runtime :=
  { plainRuntime with
    jsonParse := fun _ => some (.obj [("verdict", .str "revise"), ("reasons", texts reasons)]) }

def answering (reasons : List String) : CritiqueDeployment where
  runtime := readingRuntime reasons
  uuids := sameUuid
  now := today
  llmCallRunner := some fun _ => some "\x7b\x7d"

def headline : CritiqueRequest where
  tenantId := "11111111-1111-4111-8111-111111111111"
  critiqueId := "c"
  dedupeKey := "c"
  source := "writer"
  artifactKind := "headline"
  artifactId := "a"
  promptVersion := "v1"
  candidateOutput := "Pilots need prices"

theorem headline_revised : Survives (answering ["Too thin."]) headline ⟨.empty, 0, 0⟩ :=
  (critique_survives_iff _ (by decide) InMemoryOutboxRepository.empty_consistent).mpr
    (by decide)

/-- An empty reason is good enough for the answer and too little for the
result. -/
theorem empty_reason_throws : ¬ ∀ (d : CritiqueDeployment) (request : CritiqueRequest) (w : World),
    request.valid = true → w.outbox.Consistent → Survives d request w := by
  intro claim
  have survived := claim (answering [""]) headline ⟨.empty, 0, 0⟩ (by decide)
    InMemoryOutboxRepository.empty_consistent
  obtain ⟨result, w', run, _⟩ := survived
  have thrown : ((CritiqueWorker.critique (answering [""]) headline).run ⟨.empty, 0, 0⟩).1.isOk =
      false := by
    decide +kernel
  rw [run] at thrown
  cases thrown

end VantGrowth.Proofs.CritiqueFallbacks
