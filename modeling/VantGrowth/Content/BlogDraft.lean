import VantGrowth.Content.Patterns
import VantGrowth.Content.System

namespace VantGrowth.Content
open Core Db Lib Lib.Text

def PLACEHOLDER : String :=
  " This is a placeholder that will be replaced with generated content when the LLM integration is active."

/-- A key point as a short paragraph and an empty line. -/
def renderPoint (point : String) : List String :=
  [(if point.toList.getLast? = some '.' then point else point ++ ".") ++ PLACEHOLDER, ""]

/-- A missing target counts as 200 words. -/
def renderSection (r : Runtime) (s : BriefOutlineSection) : String :=
  let wordTarget := s.word_count_target.getD 200
  let note := if 0 < wordTarget then
    ["<!-- target: " ++ r.numberText wordTarget ++
      " words — expand this section in the LLM pass -->", ""] else []
  "\n".intercalate (["## " ++ s.section_title, ""] ++ s.key_points.flatMap renderPoint ++ note)

def bodyMarkdown (r : Runtime) (brief : ContentBriefV1) : String :=
  "# " ++ brief.title ++ "\n\n> " ++ brief.hook ++ "\n\n" ++
    "\n".intercalate (brief.outline.map (renderSection r)) ++ "\n---\n\n" ++ brief.cta ++ "\n"

/-- Both generators fill in a draft around its body like this. -/
def draftOf (brief : ContentBriefV1) (draftId generatedAt body : String) : BlogDraftV1 where
  tenant_id := brief.tenant_id
  experiment_id := brief.experiment_id
  draft_id := draftId
  brief_id := brief.brief_id
  generated_at := generatedAt
  iteration := 1
  title := brief.title
  meta_description := jsTrimEnd (jsSlice 157 brief.hook) ++
    if 157 < jsLength brief.hook then "..." else ""
  body_markdown := body
  word_count := countWords body
  reading_time_minutes := max 1 ((countWords body + 199) / 200 : Nat)
  estimated_claims := []
  quality_indicators :=
    { flesch_score := none, grade_level := none, has_cta := hasCta brief.cta || hasCta body,
      has_internal_links := !brief.internal_links_suggested.isEmpty,
      heading_count := countMarkdownHeadings body }
  status := .draft

def generateBlogDraft (d : Deployment) (brief : ContentBriefV1) : Work BlogDraftV1 := do
  let draftId ← randomUUID d
  checked (·.valid d.runtime.isUrl)
    (draftOf brief draftId d.now.toISOString (bodyMarkdown d.runtime brief))

/-- `none` where the runner throws or says nothing. What it says is checked
outside the `try`. -/
def generateLlmBlogDraft (d : Deployment) (brief : ContentBriefV1) (runner : LlmCallRunner) :
    Work (Option BlogDraftV1) := do
  let answer ← callRunner runner
  match answer.map jsTrim with
  | none => return none
  | some body =>
    if body = "" then return none
    else
      let draftId ← randomUUID d
      let draft ← checked (·.valid d.runtime.isUrl)
        (draftOf brief draftId d.now.toISOString body)
      return some draft

def createBlogDraftOutboxCommand (r : Runtime) (draft : BlogDraftV1) (iteration : ℚ) :
    EnqueueOutboxEvent where
  tenantId := draft.tenant_id
  eventType := "blog_draft.v1"
  idempotencyKey := join "blog-draft" (join draft.brief_id (r.numberText iteration))
  payload := draft.toPayload

def draftFor (d : Deployment) (brief : ContentBriefV1) : Work BlogDraftV1 :=
  match d.llmCallRunner with
  | none => generateBlogDraft d brief
  | some runner => do
    match ← generateLlmBlogDraft d brief runner with
    | some draft => return draft
    | none => generateBlogDraft d brief

namespace BlogDraftWorker

def processBrief (d : Deployment) (input : Payload) : Work BlogDraftV1 := do
  let brief ← parse (contentBriefV1Schema input)
  let draft ← draftFor d brief
  let _ ← enqueue d (createBlogDraftOutboxCommand d.runtime draft draft.iteration)
  return draft

end BlogDraftWorker

end VantGrowth.Content
