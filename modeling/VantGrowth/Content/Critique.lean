import VantGrowth.Content.PlaybookRubric
import VantGrowth.Core.StableId
import VantGrowth.Learning.Contracts

namespace VantGrowth.Content
open Core Db Db.Zod Lib Lib.Text
open Learning (CritiqueVerdict LearnerRubricContent riskText)

structure CritiqueRequest where
  tenantId : String
  critiqueId : String
  dedupeKey : String
  source : String
  artifactKind : String
  artifactId : String
  experimentId : Option String := none
  changeRisk : Option ChangeRisk := none
  promptVersion : String
  candidateOutput : String
  reviewerNotes : List String := []

/-- `critiqueRequestSchema` -/
def CritiqueRequest.valid (r : CritiqueRequest) : Bool :=
  isUuid r.tenantId && isFilled r.critiqueId && isFilled r.dedupeKey && isFilled r.source &&
    isFilled r.artifactKind && isFilled r.artifactId && r.experimentId.all isUuid &&
    isFilled r.promptVersion && isFilled r.candidateOutput && r.reviewerNotes.all isFilled

/-- What every way of scoring comes to. -/
structure Scoring where
  verdict : CritiqueVerdict
  confidenceScore : ℚ
  reasons : List String

structure CritiqueResult extends CritiqueRequest, Scoring where
  critiquedAt : Moment

/-- `critiqueResultSchema` -/
def CritiqueResult.valid (r : CritiqueResult) : Bool :=
  r.toCritiqueRequest.valid && isWithin 0 1 r.confidenceScore && r.reasons.all isFilled

/-- The wiring of the critique worker. The thresholds may be overridden. -/
structure CritiqueDeployment extends Deployment where
  backend : Backend := .postgres
  playbookRepository : Option PlaybookVersionStore := none
  approveThreshold : ℚ := 4 / 5
  reviseThreshold : ℚ := 1 / 2

/-- The threshold the environment sets, where that is a usable number. -/
def CRITIQUE_APPROVE_THRESHOLD : Option ℚ → ℚ
  | some v => if 0 < v ∧ v ≤ 1 then v else 4 / 5
  | none => 4 / 5

def CRITIQUE_REVISE_THRESHOLD (approve : ℚ) : Option ℚ → ℚ
  | some v => if 0 < v ∧ v < approve then v else 1 / 2
  | none => 1 / 2

/-- A deployment whose environment holds these numbers. -/
def CritiqueDeployment.tuned (d : CritiqueDeployment) (approve revise : Option ℚ) :
    CritiqueDeployment :=
  let approveThreshold := CRITIQUE_APPROVE_THRESHOLD approve
  { d with approveThreshold, reviseThreshold := CRITIQUE_REVISE_THRESHOLD approveThreshold revise }

def CritiqueDeployment.verdictFromScore (d : CritiqueDeployment) (score : ℚ) : CritiqueVerdict :=
  if d.approveThreshold ≤ score then .approve
  else if d.reviseThreshold ≤ score then .revise
  else .reject

def scoreCritique (input : CritiqueRequest) : Scoring :=
  let candidateLength := jsLength (jsTrim input.candidateOutput)
  if candidateLength < 120 ∨ input.reviewerNotes ≠ [] then
    ⟨.revise, 13 / 25, ["Output needs stronger evidence and tighter structure."]⟩
  else if 1200 < candidateLength then
    ⟨.reject, 17 / 50, ["Output is too long for the current distribution channel."]⟩
  else ⟨.approve, 43 / 50, ["Output passes structural quality checks."]⟩

def scoreWithRubric (d : CritiqueDeployment) (rubricResult : RubricEvaluationResult) : Scoring :=
  ⟨d.verdictFromScore rubricResult.score, rubricResult.score, rubricResult.reasons⟩

def verdicts : List (String × CritiqueVerdict) :=
  [CritiqueVerdict.approve, .revise, .reject].map fun verdict => (verdict.text, verdict)

/-- `llmCritiqueResponseSchema` -/
def llmCritiqueResponseSchema : Schema Scoring := object fun p => do
  let verdict ← required p "verdict" (oneOf verdicts)
  let confidence_score ← Zod.optional p "confidence_score" (numberIn 0 1)
  let confidenceScore ← Zod.optional p "confidenceScore" (numberIn 0 1)
  let reasons ← required p "reasons" (array text)
  if reasons = [] then none
  else some ⟨verdict, (confidenceScore <|> confidence_score).getD (7 / 10), reasons⟩

/-- The scoring a model's answer states, where it states one. -/
def statedScoring (r : Runtime) (content : String) : Option Scoring :=
  (answeredJson r content).bind llmCritiqueResponseSchema

def critiqueWithLlm (d : CritiqueDeployment) (runner : LlmCallRunner) : Work (Option Scoring) := do
  let answer ← callRunner runner
  return answer.bind (statedScoring d.runtime)

def llmScoreOf (d : CritiqueDeployment) : Work (Option Scoring) :=
  match d.llmCallRunner with
  | some runner => critiqueWithLlm d runner
  | none => pure none

/-- `createBlogDraftCritiqueRequest` -/
def createBlogDraftCritiqueRequest (r : Runtime) (input : Payload) : Option CritiqueRequest := do
  let draft ← blogDraftV1Schema r.isUrl input
  let request : CritiqueRequest :=
    { tenantId := draft.tenant_id
      critiqueId := deterministicUuid r.sha256 ("critique:blog-draft:" ++ draft.draft_id)
      dedupeKey := "critique:blog-draft:" ++ draft.draft_id ++ ":iteration:" ++
        r.numberText draft.iteration
      source := "blog_draft_worker", artifactKind := "blog_draft.v1", artifactId := draft.draft_id
      experimentId := draft.experiment_id, promptVersion := "blog_draft.v1"
      candidateOutput := draft.body_markdown }
  if request.valid then some request else none

def activePlaybook (d : CritiqueDeployment) (store : PlaybookVersionStore) (tenantId : String)
    (playbookType : PlaybookType) : Except DbError (Option PlaybookVersionRecord) :=
  match d.backend with
  | .inMemory => InMemoryPlaybookVersionsRepository.getActive store tenantId playbookType
  | .postgres => PostgresPlaybookVersionsRepository.getActive store tenantId playbookType

/-- A result, or what was thrown in its place. -/
def answered (result : Except DbError α) : Work α := ⟨fun w => (result, w)⟩

def scoreWithPlaybook (d : CritiqueDeployment) (request : CritiqueRequest) :
    Work (Option Scoring) :=
  match d.playbookRepository, artifactKindToPlaybookType request.artifactKind with
  | some store, some playbookType => do
    match ← answered (activePlaybook d store request.tenantId playbookType) with
    | none => return none
    | some playbook =>
      match playbook.content.safeParse with
      | none => return none
      | some content =>
        let rubricResult ←
          evaluateRubricAsync d.runtime content request.candidateOutput d.llmCallRunner
        return some (scoreWithRubric d rubricResult)
  | _, _ => return none

/-- The tiers in turn: the model, the playbook, the heuristic. -/
def scoringFor (d : CritiqueDeployment) (request : CritiqueRequest) : Work Scoring := do
  match ← llmScoreOf d with
  | some scoring => return scoring
  | none =>
    match ← scoreWithPlaybook d request with
    | some scoring => return scoring
    | none => return scoreCritique request

def completedPayload (result : CritiqueResult) : Payload :=
  [("critique_id", .str result.critiqueId), ("source", .str result.source),
    ("artifact_kind", .str result.artifactKind), ("artifact_id", .str result.artifactId)] ++
  optionalEntry "experiment_id" (result.experimentId.map .str) ++
  optionalEntry "change_risk" (result.changeRisk.map fun risk => .str (riskText risk)) ++
  [("prompt_version", .str result.promptVersion), ("verdict", .str result.verdict.text),
    ("confidence_score", .num (.finite result.confidenceScore)),
    ("reasons", texts result.reasons), ("critiqued_at", .str result.critiquedAt.toISOString)]

def completedCommand (result : CritiqueResult) : EnqueueOutboxEvent where
  tenantId := result.tenantId
  eventType := "critique.completed.v1"
  idempotencyKey := result.dedupeKey
  payload := completedPayload result

namespace CritiqueWorker

def critique (d : CritiqueDeployment) (input : CritiqueRequest) : Work CritiqueResult := do
  let request ← checked (·.valid) input
  let scoring ← scoringFor d request
  let result : CritiqueResult ← checked (·.valid)
    { toCritiqueRequest := request, toScoring := scoring, critiquedAt := d.now }
  let _ ← enqueue d.toDeployment (completedCommand result)
  return result

end CritiqueWorker

end VantGrowth.Content
