import VantGrowth.Content.Patterns
import VantGrowth.Content.System
import VantGrowth.Db.PlaybookVersions

namespace VantGrowth.Content
open Core Db Db.Zod Lib Lib.Text
open Learning (LearnerRubricContent LearnerRubricCriterion)

/-- The checks that need no model. -/
inductive KnownCheck where
  | has_cta | has_evidence | no_forbidden | length_ok | has_headings | has_hook
deriving DecidableEq

def knownChecks : List (String × KnownCheck) :=
  [("has_cta", .has_cta), ("has_evidence", .has_evidence), ("no_forbidden", .no_forbidden),
    ("length_ok", .length_ok), ("has_headings", .has_headings), ("has_hook", .has_hook)]

def EVIDENCE_PATTERNS : List (List PatternPart) :=
  [[.digit, .word "%"], [.word "$", .digit], [.digit, .word "x", .wordEnd],
    [.digit, .spaces, .word "times"], phrase ["according", "to"], phrase ["study", "shows"],
    phrase ["research", "found"], phrase ["data", "shows"], [.word "survey"]]

structure CheckResult where
  passed : Bool
  details : String

section
variable (r : Runtime) (content : LearnerRubricContent) (candidateText : String)

def forbiddenFound : List String :=
  ((content.forbidden_phrases.getD []).map JsString.toText).filter fun phrase =>
    includes (r.toLowerCase candidateText) (r.toLowerCase phrase)

/-- `evaluateCriterion`, of a check it knows. -/
def evaluateKnown : KnownCheck → CheckResult
  | .has_cta =>
    let found := hasCta candidateText
    ⟨found, if found then "CTA phrase detected" else "No recognised CTA phrase found"⟩
  | .has_evidence =>
    let found := EVIDENCE_PATTERNS.any (tests · candidateText)
    ⟨found, if found then "Evidence pattern detected" else "No quantitative evidence found"⟩
  | .no_forbidden =>
    let found := forbiddenFound r content candidateText
    ⟨found.isEmpty, if found.isEmpty then "No forbidden phrases found"
      else "Forbidden phrases: " ++ ", ".intercalate found⟩
  | .length_ok =>
    let wc := countWords candidateText
    let min := content.min_word_count.getD 0
    ⟨min ≤ wc && content.max_word_count.all (fun max => (wc : ℚ) ≤ max), "Word count: " ++ decimal wc ++ " (expected " ++
      r.numberText min ++ "–" ++ (content.max_word_count.map r.numberText).getD "∞" ++ ")"⟩
  | .has_headings =>
    let found := 0 < countHeadings 2 candidateText.toList.length true candidateText.toList
    ⟨found, if found then "Markdown headings present" else "No markdown headings"⟩
  | .has_hook =>
    let passed := 40 ≤ jsLength (jsTrim (jsSlice 120 candidateText))
    ⟨passed, if passed then "Opening segment is substantive"
      else "Opening is too short to be a hook"⟩

def autoPassed (check : String) : CheckResult :=
  ⟨true, "Unknown check \"" ++ check ++ "\" — auto-passed (no LLM configured)"⟩

def evaluateCriterion (check : String) : CheckResult :=
  match knownChecks.lookup check with
  | some known => evaluateKnown r content candidateText known
  | none => autoPassed check

end

structure CriterionLlmResponse where
  passed : Bool
  explanation : Option String

/-- `criterionLlmResponseSchema.safeParse` -/
def criterionLlmResponseSchema : Schema CriterionLlmResponse := object fun p => do
  let passed ← required p "passed" Zod.bool
  let _ ← Zod.optional p "confidence" (numberIn 0 1)
  let explanation ← Zod.optional p "explanation" text
  return { passed, explanation }

/-- What is made of an answer; everything but a verdict passes. -/
def criterionVerdict (r : Runtime) (check : String) : Option String → CheckResult
  | none => ⟨true, "LLM runner error — auto-passed for \"" ++ check ++ "\""⟩
  | some content =>
    match jsonMatch content with
    | none => ⟨true, "LLM returned no JSON — auto-passed for \"" ++ check ++ "\""⟩
    | some object =>
      match r.jsonParse object with
      | none => ⟨true, "LLM JSON parse error — auto-passed for \"" ++ check ++ "\""⟩
      | some json =>
        match criterionLlmResponseSchema json with
        | none => ⟨true, "LLM response schema invalid — auto-passed for \"" ++ check ++ "\""⟩
        | some answer => ⟨answer.passed, answer.explanation.getD
            (if answer.passed then "LLM: criterion satisfied" else "LLM: criterion not satisfied")⟩

def evaluateCriterionWithLlm (r : Runtime) (criterion : LearnerRubricCriterion)
    (runner : LlmCallRunner) : Work CheckResult := do
  let answer ← callRunner runner
  return criterionVerdict r criterion.check answer

structure CriterionResult where
  id : String
  passed : Bool
  weight : ℚ
  description : String
  details : String

def resultOf (criterion : LearnerRubricCriterion) (check : CheckResult) : CriterionResult where
  id := criterion.id
  passed := check.passed
  weight := criterion.weight
  description := criterion.description.toText
  details := check.details

structure RubricEvaluationResult where
  score : ℚ
  criteriaResults : List CriterionResult
  reasons : List String

def totalWeight (results : List CriterionResult) : ℚ :=
  results.foldl (fun s c => s + c.weight) 0

def normalisedScore (results : List CriterionResult) : ℚ :=
  let total := totalWeight results
  if 0 < total then results.foldl (fun s c => s + if c.passed then c.weight / total else 0) 0
  else 0

def failedReasons (results : List CriterionResult) : List String :=
  (results.filter (!·.passed)).map fun c => c.description ++ ": " ++ c.details

def rubricResult (results : List CriterionResult) : RubricEvaluationResult where
  score := min 1 (max 0 (normalisedScore results))
  criteriaResults := results
  reasons := if failedReasons results = [] then ["All rubric criteria passed."]
    else failedReasons results

/-- `evaluateRubric` -/
def evaluateRubric (r : Runtime) (content : LearnerRubricContent) (candidateText : String) :
    RubricEvaluationResult :=
  rubricResult (content.rubric.map fun criterion =>
    resultOf criterion (evaluateCriterion r content candidateText criterion.check))

/-- One criterion: a known check, the model, or the automatic pass. -/
def evaluateAsync (r : Runtime) (content : LearnerRubricContent) (candidateText : String)
    (llmRunner : Option LlmCallRunner) (criterion : LearnerRubricCriterion) :
    Work CriterionResult :=
  match knownChecks.lookup criterion.check, llmRunner with
  | some known, _ => pure (resultOf criterion (evaluateKnown r content candidateText known))
  | none, some runner => do
    let check ← evaluateCriterionWithLlm r criterion runner
    return resultOf criterion check
  | none, none => pure (resultOf criterion (autoPassed criterion.check))

def evaluateRubricAsync (r : Runtime) (content : LearnerRubricContent) (candidateText : String)
    (llmRunner : Option LlmCallRunner) : Work RubricEvaluationResult := do
  let results ← content.rubric.mapM (evaluateAsync r content candidateText llmRunner)
  return rubricResult results

def artifactKindToPlaybookType (artifactKind : String) : Option PlaybookType :=
  if startsWith artifactKind "blog_draft" then some .blog_draft
  else if startsWith artifactKind "content_brief" then some .content_brief
  else if startsWith artifactKind "intel_brief" then some .intel_brief
  else if startsWith artifactKind "custom" then some .custom
  else none

end VantGrowth.Content
