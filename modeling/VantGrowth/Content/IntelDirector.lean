import VantGrowth.Content.Patterns
import VantGrowth.Content.System
import VantGrowth.Signals.Contracts

namespace VantGrowth.Content
open Core Db Lib Lib.Text
open Signals (BriefTrigger IntelBriefRequestedV1 asRecord nullish)

def DEFAULT_MOTION : MotionLabel := .inbound_content

/-- Texts are trimmed and cut, and anything else gives the fallback. -/
def textValue (value : Option Json) (fallback : String) : String :=
  match value with
  | some (.str s) => if jsTrim s = "" then fallback else jsSlice 500 (jsTrim s)
  | _ => fallback

def maybeUrl (r : Runtime) : Option Json → Option String
  | some (.str s) => r.urlText s
  | _ => none

/-- `replace(/^\w/, (character) => character.toUpperCase())` -/
def upperFirst (s : String) : String :=
  match s.toList with
  | [] => ""
  | c :: cs => String.ofList ((if isWordChar c then c.toUpper else c) :: cs)

def sentenceCase (value : String) : String :=
  let spaced := replaceRuns (fun c => c == '.' || c == '_' || c == '-') ' ' false value.toList
  upperFirst (jsTrim (String.ofList (replaceRuns isSpaceChar ' ' false spaced)))

/-- The field a signal is summarised by. -/
def summaryField (payload : Payload) : Option Json :=
  nullish (payload.lookup "summary") <|> nullish (payload.lookup "text") <|>
    nullish (payload.lookup "description") <|> payload.lookup "subject"

def observedText (trigger : BriefTrigger) : String :=
  sentenceCase trigger.kind ++ " observed from " ++ trigger.source ++ "."

/-- `triggerSummary`, of a request that has a trigger. -/
def triggerSummary (trigger : BriefTrigger) : String :=
  sentenceCase trigger.kind ++ " from " ++ trigger.source ++ ": " ++
    textValue (summaryField trigger.payload) (observedText trigger)

structure SignalBackedBriefFields where
  competitive_signals : List CompetitiveSignal
  community_signals : List CommunitySignal
  content_opportunities : List BriefOpportunityRef
  recommended_focus : String

def isUrgent (trigger : BriefTrigger) : Bool := trigger.priority == .P0

def triggerConfidence (trigger : BriefTrigger) : ℚ := if isUrgent trigger then 17 / 20 else 7 / 10

def baselineOpportunity (opportunityId : String) (primaryMotion : MotionLabel) :
    BriefOpportunityRef where
  opportunity_id := opportunityId
  title := "Baseline " ++ primaryMotion.spoken ++ " opportunity"
  rationale :=
    "No triggering signal was attached. Collect market evidence before promoting this draft."
  urgency := .this_month
  motion_fit := [primaryMotion]
  score := 1 / 2

def triggeredOpportunity (opportunityId : String) (trigger : BriefTrigger)
    (primaryMotion : MotionLabel) : BriefOpportunityRef :=
  let p := trigger.payload
  let titleSubject := textValue (nullish (p.lookup "competitor") <|> nullish (p.lookup "subject") <|>
    nullish (p.lookup "topic") <|> p.lookup "company") (sentenceCase trigger.kind)
  { opportunity_id := opportunityId
    title := titleSubject ++ ": a practical response for B2B teams"
    rationale := triggerSummary trigger
    urgency := if isUrgent trigger then .now else .this_week
    motion_fit := [primaryMotion]
    score := match trigger.priority with
      | .P0 => 9 / 10
      | .P1 => 39 / 50
      | _ => 13 / 20 }

def competitiveSignal (r : Runtime) (trigger : BriefTrigger) : CompetitiveSignal where
  competitor := textValue (trigger.payload.lookup "competitor") "A market competitor"
  signal_type :=
    if includes trigger.kind "pricing" then .pricing_change
    else if includes trigger.kind "launch" then .product_launch
    else .positioning_shift
  summary := triggerSummary trigger
  source_url := (maybeUrl r (nullish (trigger.payload.lookup "source_url") <|>
    trigger.payload.lookup "sourceUrl")).filter (· != "")
  confidence := triggerConfidence trigger
  is_persisting := false

/-- What a community signal quotes. -/
def samplePost (trigger : BriefTrigger) : String :=
  textValue (nullish (trigger.payload.lookup "text") <|> trigger.payload.lookup "subject")
    (triggerSummary trigger)

def communitySignal (trigger : BriefTrigger) (primaryMotion : MotionLabel) : CommunitySignal where
  platform := textValue (nullish (trigger.payload.lookup "channel") <|>
    trigger.payload.lookup "platform") trigger.source
  signal_type :=
    if includes trigger.kind "competitor" then .competitor_mention
    else if includes trigger.kind "feature" then .feature_request
    else if includes trigger.kind "question" then .question_spike
    else .category_interest
  summary := triggerSummary trigger
  sample_posts := [samplePost trigger].take 3
  confidence := triggerConfidence trigger
  motion_fit := [primaryMotion]

def signalBackedBriefFields (r : Runtime) (opportunityId : String) (trigger : Option BriefTrigger)
    (primaryMotion : MotionLabel) : SignalBackedBriefFields :=
  match trigger with
  | none =>
    { competitive_signals := [], community_signals := []
      content_opportunities := [baselineOpportunity opportunityId primaryMotion]
      recommended_focus := "Focus on " ++ primaryMotion.spoken ++
        " while collecting source-backed market signals." }
  | some trigger =>
    if startsWith trigger.kind "competitor." then
      { competitive_signals := [competitiveSignal r trigger], community_signals := []
        content_opportunities := [triggeredOpportunity opportunityId trigger primaryMotion]
        recommended_focus := "Respond to the verified " ++ sentenceCase trigger.kind ++
          " signal with evidence-backed " ++ primaryMotion.spoken ++ " content." }
    else
      { competitive_signals := [], community_signals := [communitySignal trigger primaryMotion]
        content_opportunities := [triggeredOpportunity opportunityId trigger primaryMotion]
        recommended_focus := "Address the observed audience signal through " ++
          primaryMotion.spoken ++ " with the source context retained for review." }

/-- The first motion of an accepted request, whose labels are all known. -/
def primaryMotionOf (request : IntelBriefRequestedV1) : MotionLabel :=
  ((request.motion_context.bind (·.primary_motions.head?)).bind fun label =>
    MotionLabel.values.lookup label).getD DEFAULT_MOTION

/-- An empty text counts as none. -/
def icpContext (request : IntelBriefRequestedV1) : String :=
  match request.motion_context.bind (·.icp_summary) with
  | some summary => if summary = "" then "" else "ICP context: " ++ summary ++ ". "
  | none => ""

/-- The brief as it is built, before its schema checks it. -/
def deterministicBrief (r : Runtime) (request : IntelBriefRequestedV1)
    (opportunityId briefId generatedAt : String) : IntelBriefV1 :=
  let fields := signalBackedBriefFields r opportunityId request.trigger (primaryMotionOf request)
  { tenant_id := request.tenant_id, experiment_id := request.experiment_id, brief_id := briefId,
    generated_at := generatedAt, period := ⟨request.period_from, request.period_to⟩,
    competitive_signals := fields.competitive_signals,
    community_signals := fields.community_signals,
    content_opportunities := fields.content_opportunities,
    recommended_focus := icpContext request ++ fields.recommended_focus }

def generateDeterministicBrief (d : Deployment) (request : IntelBriefRequestedV1) :
    Work IntelBriefV1 := do
  let opportunityId ← randomUUID d
  let briefId ← randomUUID d
  checked (·.valid d.runtime.isUrl)
    (deterministicBrief d.runtime request opportunityId briefId d.now.toISOString)

/-- A model's object under the request's tenant, experiment and, where it has
none, time. -/
def augmentBrief (request : IntelBriefRequestedV1) (now : Moment) (raw : Payload) : Payload :=
  let rest := raw.filter (·.1 != "experiment_id")
  [("tenant_id", .str request.tenant_id)] ++
    optionalEntry "experiment_id" (request.experiment_id.map .str) ++
    [("generated_at", ((nullish (rest.lookup "generated_at")).getD (.str now.toISOString)))] ++ rest

/-- The schema's reading of what the model said; an array is no object of the
contract. -/
def readLlmBrief (d : Deployment) (request : IntelBriefRequestedV1) (content : String) :
    Option IntelBriefV1 :=
  match answeredJson d.runtime content with
  | some (.obj raw) => intelBriefV1Schema d.runtime.isUrl (augmentBrief request d.now raw)
  | _ => none

/-- `none` where the runner throws or its answer is not a brief. -/
def generateLlmBrief (d : Deployment) (request : IntelBriefRequestedV1) (runner : LlmCallRunner) :
    Work (Option IntelBriefV1) := do
  let answer ← callRunner runner
  return answer.bind (readLlmBrief d request)

def createIntelBriefOutboxCommand (tenantId requestId : String) (brief : IntelBriefV1) :
    EnqueueOutboxEvent where
  tenantId := tenantId
  eventType := "intel_brief.v1"
  idempotencyKey := join "intel-brief" requestId
  payload := brief.toPayload

def briefFor (d : Deployment) (request : IntelBriefRequestedV1) : Work IntelBriefV1 :=
  match d.llmCallRunner with
  | none => generateDeterministicBrief d request
  | some runner => do
    match ← generateLlmBrief d request runner with
    | some brief => return brief
    | none => generateDeterministicBrief d request

namespace IntelDirectorWorker

def processBriefRequest (d : Deployment) (input : Payload) : Work IntelBriefV1 := do
  let request ← parse (Signals.intelBriefRequestedV1Schema input)
  let brief ← briefFor d request
  let _ ← enqueue d
    (createIntelBriefOutboxCommand request.tenant_id request.request_id brief)
  return brief

end IntelDirectorWorker

end VantGrowth.Content
