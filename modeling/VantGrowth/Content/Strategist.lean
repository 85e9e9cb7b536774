import VantGrowth.Content.System
import VantGrowth.Signals.Contracts

namespace VantGrowth.Content
open Core Db Lib Lib.Text
open Signals (nullish)

def formatByMotion : MotionLabel → ContentFormat
  | .inbound_content => .long_form_blog
  | .community_engagement => .short_form_post
  | .outbound_multichannel => .email
  | .lifecycle_expansion => .case_study
  | .partners => .long_form_blog
  | .paid => .short_form_post
  | .plg => .long_form_blog
  | .abm => .case_study

/-- What the signals of a brief give as evidence; an empty link is left out. -/
def evidenceOf (brief : IntelBriefV1) : List OpportunityEvidence :=
  brief.competitive_signals.map (fun signal =>
    { type := .competitor_move
      description := signal.competitor ++ ": " ++ signal.summary
      source_url := signal.source_url.filter (· != "") }) ++
  brief.community_signals.map fun signal =>
    { type := .community_pain
      description := signal.platform ++ ": " ++ signal.summary }

def unsupported : OpportunityEvidence where
  type := .search_trend
  description := "No source-specific evidence was attached to this brief. Treat as a draft hypothesis until validated."

/-- The opportunity as it is built, before its schema checks it. -/
def opportunityOf (d : Deployment) (brief : IntelBriefV1) (ref : BriefOpportunityRef) :
    ContentOpportunityV1 :=
  let primaryMotion := ref.motion_fit.head?.getD .inbound_content
  { tenant_id := brief.tenant_id
    experiment_id := brief.experiment_id
    opportunity_id := ref.opportunity_id
    source_brief_id := brief.brief_id
    title := ref.title
    hook := "Learn why " ++ d.runtime.toLowerCase ref.title ++ " matters for your " ++
      primaryMotion.spoken ++ " strategy."
    rationale := ref.rationale
    target_audience := ["B2B founders", "growth practitioners"]
    motion_fit := if ref.motion_fit = [] then [.inbound_content] else ref.motion_fit
    urgency := ref.urgency
    content_format := formatByMotion primaryMotion
    evidence := if evidenceOf brief = [] then [unsupported] else evidenceOf brief
    score := ref.score
    created_at := d.now.toISOString }

def expandOpportunity (d : Deployment) (brief : IntelBriefV1) (ref : BriefOpportunityRef) :
    Work ContentOpportunityV1 :=
  checked (·.valid d.runtime.isUrl) (opportunityOf d brief ref)

def isSlugChar (c : Char) : Bool := ('a' ≤ c && c ≤ 'z') || ('0' ≤ c && c ≤ '9')

/-- Four words of the lowercased title, of which only ASCII letters and digits
are kept. -/
def titleSlug (r : Runtime) (title : String) : String :=
  let kept := (r.toLowerCase title).toList.filter fun c => isSlugChar c || isSpaceChar c
  "-".intercalate (((words kept).take 4).map String.ofList)

def briefOutline (title : String) (motionLabel : MotionLabel) : List BriefOutlineSection :=
  [{ section_title := "Introduction & Context"
     key_points := ["Why " ++ title ++ " is relevant now", "The cost of ignoring this opportunity"]
     word_count_target := some 200 },
   { section_title := "Core Framework"
     key_points := ["Define the key concept in one sentence",
       "How it maps to " ++ motionLabel.spoken ++ " motion", "Step-by-step approach"]
     word_count_target := some 400 },
   { section_title := "Evidence & Examples"
     key_points := ["Data point or case study (populate from signal store)",
       "Counter-intuitive insight", "Quote or validation from community signal"]
     word_count_target := some 350 },
   { section_title := "Implementation Guide"
     key_points := ["Immediate action (this week)", "Medium-term initiative (this month)",
       "Success metric to track"]
     word_count_target := some 300 },
   { section_title := "Conclusion & CTA"
     key_points := ["Restate the core insight in one line", "Invite reader engagement"]
     word_count_target := some 150 }]

def toneNotes (motionLabel : MotionLabel) : String :=
  "Founder-voice. First person preferred. Practical over theoretical. " ++
    (if motionLabel = .plg then "Show product screenshots where relevant." else "") ++
    " Avoid superlatives and unverified stats."

/-- The writing brief as it is built, before its schema checks it. -/
def contentBriefOf (d : Deployment) (opportunity : ContentOpportunityV1) (briefId : String) :
    ContentBriefV1 :=
  let motionLabel := opportunity.motion_fit.head?.getD .inbound_content
  { tenant_id := opportunity.tenant_id
    experiment_id := opportunity.experiment_id
    brief_id := briefId
    opportunity_id := opportunity.opportunity_id
    generated_at := d.now.toISOString
    title := opportunity.title
    hook := opportunity.hook
    target_audience := opportunity.target_audience
    search_intent := .informational
    primary_keyword := titleSlug d.runtime opportunity.title
    secondary_keywords := [motionLabel.spoken, "growth strategy"]
    outline := briefOutline opportunity.title motionLabel
    tone_notes := toneNotes motionLabel
    claims_to_avoid := ["market leader", "industry-leading", "best-in-class", "10x results"]
    internal_links_suggested := []
    cta := "Start your " ++ motionLabel.spoken ++ " motion — book a strategy session."
    estimated_word_count := 1400
    motion_fit := opportunity.motion_fit
    confidence_score := min (opportunity.score / 2) 1 }

def generateContentBrief (d : Deployment) (opportunity : ContentOpportunityV1) :
    Work ContentBriefV1 := do
  let briefId ← randomUUID d
  checked (·.valid) (contentBriefOf d opportunity briefId)

/-- A model's object under the ids of the opportunity and, where it has none,
the time. -/
def augmentContentBrief (opportunity : ContentOpportunityV1) (now : Moment) (raw : Payload) : Payload :=
  let rest := raw.filter (·.1 != "experiment_id")
  [("tenant_id", .str opportunity.tenant_id)] ++
    optionalEntry "experiment_id" (opportunity.experiment_id.map .str) ++
    [("opportunity_id", .str opportunity.opportunity_id),
      ("generated_at", (nullish (rest.lookup "generated_at")).getD (.str now.toISOString))] ++ rest

/-- The schema's reading of what the model said; an array is no object of the
contract. -/
def readLlmContentBrief (d : Deployment) (opportunity : ContentOpportunityV1) (content : String) :
    Option ContentBriefV1 :=
  match answeredJson d.runtime content with
  | some (.obj raw) => contentBriefV1Schema (augmentContentBrief opportunity d.now raw)
  | _ => none

/-- `none` where the runner throws or its answer is not a brief. -/
def generateLlmContentBrief (d : Deployment) (opportunity : ContentOpportunityV1)
    (runner : LlmCallRunner) : Work (Option ContentBriefV1) := do
  let answer ← callRunner runner
  return answer.bind (readLlmContentBrief d opportunity)

def contentBriefFor (d : Deployment) (opportunity : ContentOpportunityV1) : Work ContentBriefV1 :=
  match d.llmCallRunner with
  | none => generateContentBrief d opportunity
  | some runner => do
    match ← generateLlmContentBrief d opportunity runner with
    | some brief => return brief
    | none => generateContentBrief d opportunity

def createContentOpportunityOutboxCommand (opportunity : ContentOpportunityV1) (briefId : String) :
    EnqueueOutboxEvent where
  tenantId := opportunity.tenant_id
  eventType := "content_opportunity.v1"
  idempotencyKey := join "content-opportunity" (join briefId opportunity.opportunity_id)
  payload := opportunity.toPayload

def createContentBriefOutboxCommand (brief : ContentBriefV1) (intelBriefId : String) :
    EnqueueOutboxEvent where
  tenantId := brief.tenant_id
  eventType := "content_brief.v1"
  idempotencyKey := join "content-brief" (join intelBriefId brief.opportunity_id)
  payload := brief.toPayload

structure ProcessBriefResult where
  opportunities : List ContentOpportunityV1
  briefs : List ContentBriefV1

namespace ContentStrategistWorker

/-- One turn of the loop. -/
def processOpportunity (d : Deployment) (brief : IntelBriefV1) (ref : BriefOpportunityRef) :
    Work (ContentOpportunityV1 × ContentBriefV1) := do
  let opportunity ← expandOpportunity d brief ref
  let contentBrief ← contentBriefFor d opportunity
  let _ ← enqueue d (createContentOpportunityOutboxCommand opportunity brief.brief_id)
  let _ ← enqueue d (createContentBriefOutboxCommand contentBrief brief.brief_id)
  return (opportunity, contentBrief)

def processBrief (d : Deployment) (input : Payload) : Work ProcessBriefResult := do
  let brief ← parse (intelBriefV1Schema d.runtime.isUrl input)
  let made ← brief.content_opportunities.mapM (processOpportunity d brief)
  return ⟨made.map (·.1), made.map (·.2)⟩

end ContentStrategistWorker

end VantGrowth.Content
