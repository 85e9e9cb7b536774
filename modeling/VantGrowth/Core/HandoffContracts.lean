import VantGrowth.Db.Zod
import VantGrowth.Lib.IsoDate

namespace VantGrowth.Core
open Db Lib

inductive MotionLabel where
  | inbound_content | community_engagement | outbound_multichannel | lifecycle_expansion
  | partners | paid | plg | abm
deriving DecidableEq

namespace MotionLabel

def text : MotionLabel → String
  | inbound_content => "inbound_content"
  | community_engagement => "community_engagement"
  | outbound_multichannel => "outbound_multichannel"
  | lifecycle_expansion => "lifecycle_expansion"
  | partners => "partners"
  | paid => "paid"
  | plg => "plg"
  | abm => "abm"

/-- `label.replace(/_/g, " ")` -/
def spoken (label : MotionLabel) : String :=
  String.ofList (label.text.toList.map fun c => if c = '_' then ' ' else c)

def values : List (String × MotionLabel) :=
  [inbound_content, community_engagement, outbound_multichannel, lifecycle_expansion, partners,
    paid, plg, abm].map fun label => (label.text, label)

end MotionLabel

inductive HandoffUrgency where
  | now | this_week | this_month
deriving DecidableEq

namespace HandoffUrgency

def text : HandoffUrgency → String
  | now => "now"
  | this_week => "this_week"
  | this_month => "this_month"

def values : List (String × HandoffUrgency) :=
  [now, this_week, this_month].map fun urgency => (urgency.text, urgency)

end HandoffUrgency

inductive CompetitiveSignalType where
  | pricing_change | product_launch | positioning_shift | job_posting | content_spike
deriving DecidableEq

namespace CompetitiveSignalType

def text : CompetitiveSignalType → String
  | pricing_change => "pricing_change"
  | product_launch => "product_launch"
  | positioning_shift => "positioning_shift"
  | job_posting => "job_posting"
  | content_spike => "content_spike"

def values : List (String × CompetitiveSignalType) :=
  [pricing_change, product_launch, positioning_shift, job_posting, content_spike].map fun type =>
    (type.text, type)

end CompetitiveSignalType

inductive CommunitySignalType where
  | question_spike | pain_point | feature_request | competitor_mention | category_interest
deriving DecidableEq

namespace CommunitySignalType

def text : CommunitySignalType → String
  | question_spike => "question_spike"
  | pain_point => "pain_point"
  | feature_request => "feature_request"
  | competitor_mention => "competitor_mention"
  | category_interest => "category_interest"

def values : List (String × CommunitySignalType) :=
  [question_spike, pain_point, feature_request, competitor_mention, category_interest].map
    fun type => (type.text, type)

end CommunitySignalType

structure CompetitiveSignal where
  competitor : String
  signal_type : CompetitiveSignalType
  summary : String
  source_url : Option String
  confidence : ℚ
  is_persisting : Bool
deriving DecidableEq

structure CommunitySignal where
  platform : String
  signal_type : CommunitySignalType
  summary : String
  sample_posts : List String
  confidence : ℚ
  motion_fit : List MotionLabel
deriving DecidableEq

structure BriefOpportunityRef where
  opportunity_id : String
  title : String
  rationale : String
  urgency : HandoffUrgency
  motion_fit : List MotionLabel
  score : ℚ
deriving DecidableEq

structure Period where
  from_ : String
  to_ : String
deriving DecidableEq

structure IntelBriefV1 where
  tenant_id : String
  experiment_id : Option String
  brief_id : String
  generated_at : String
  period : Period
  competitive_signals : List CompetitiveSignal
  community_signals : List CommunitySignal
  content_opportunities : List BriefOpportunityRef
  recommended_focus : String
deriving DecidableEq

inductive EvidenceType where
  | competitor_move | community_pain | search_trend | customer_feedback
deriving DecidableEq

namespace EvidenceType

def text : EvidenceType → String
  | competitor_move => "competitor_move"
  | community_pain => "community_pain"
  | search_trend => "search_trend"
  | customer_feedback => "customer_feedback"

def values : List (String × EvidenceType) :=
  [competitor_move, community_pain, search_trend, customer_feedback].map fun type =>
    (type.text, type)

end EvidenceType

inductive ContentFormat where
  | long_form_blog | short_form_post | video_script | email | case_study
deriving DecidableEq

namespace ContentFormat

def text : ContentFormat → String
  | long_form_blog => "long_form_blog"
  | short_form_post => "short_form_post"
  | video_script => "video_script"
  | email => "email"
  | case_study => "case_study"

def values : List (String × ContentFormat) :=
  [long_form_blog, short_form_post, video_script, email, case_study].map fun format =>
    (format.text, format)

end ContentFormat

inductive SearchIntent where
  | informational | commercial | transactional | navigational
deriving DecidableEq

namespace SearchIntent

def text : SearchIntent → String
  | informational => "informational"
  | commercial => "commercial"
  | transactional => "transactional"
  | navigational => "navigational"

def values : List (String × SearchIntent) :=
  [informational, commercial, transactional, navigational].map fun intent => (intent.text, intent)

end SearchIntent

structure OpportunityEvidence where
  type : EvidenceType
  description : String
  source_url : Option String := none

structure ContentOpportunityV1 where
  tenant_id : String
  experiment_id : Option String
  opportunity_id : String
  source_brief_id : String
  title : String
  hook : String
  rationale : String
  target_audience : List String
  motion_fit : List MotionLabel
  urgency : HandoffUrgency
  content_format : ContentFormat
  evidence : List OpportunityEvidence
  score : ℚ
  created_at : String

structure BriefOutlineSection where
  section_title : String
  key_points : List String
  word_count_target : Option ℚ := none

structure InternalLinkSuggestion where
  anchor : String
  target_url : String

structure ContentBriefV1 where
  tenant_id : String
  experiment_id : Option String
  brief_id : String
  opportunity_id : String
  generated_at : String
  title : String
  hook : String
  target_audience : List String
  search_intent : SearchIntent
  primary_keyword : String
  secondary_keywords : List String
  outline : List BriefOutlineSection
  tone_notes : String
  claims_to_avoid : List String
  internal_links_suggested : List InternalLinkSuggestion
  cta : String
  estimated_word_count : ℚ
  motion_fit : List MotionLabel
  confidence_score : ℚ

structure DraftQualityIndicators where
  flesch_score : Option ℚ
  grade_level : Option ℚ
  has_cta : Bool
  has_internal_links : Bool
  heading_count : ℚ

inductive DraftStatus where
  | draft | pending_review | approved | rejected
deriving DecidableEq

inductive ClaimType where
  | stat | comparison | prediction | definition
deriving DecidableEq

def ClaimType.text : ClaimType → String
  | stat => "stat"
  | comparison => "comparison"
  | prediction => "prediction"
  | definition => "definition"

def DraftStatus.text : DraftStatus → String
  | draft => "draft"
  | pending_review => "pending_review"
  | approved => "approved"
  | rejected => "rejected"

structure DraftClaim where
  text : String
  type : ClaimType
  requires_verification : Bool
  source_url : Option String

structure BlogDraftV1 where
  tenant_id : String
  experiment_id : Option String
  draft_id : String
  brief_id : String
  generated_at : String
  iteration : ℚ
  title : String
  meta_description : String
  body_markdown : String
  word_count : ℚ
  reading_time_minutes : ℚ
  estimated_claims : List DraftClaim
  quality_indicators : DraftQualityIndicators
  status : DraftStatus

/-- `z.string().min(1)` -/
def isFilled (s : String) : Bool := s != ""

/-- `z.number().min(low).max(high)` -/
def isWithin (low high value : ℚ) : Bool := low ≤ value && value ≤ high

section
-- `z.string().url()`
variable (isUrl : String → Bool)

/-- The bounds of `competitiveSignalSchema` -/
def CompetitiveSignal.valid (signal : CompetitiveSignal) : Bool :=
  isFilled signal.competitor && isFilled signal.summary && signal.source_url.all isUrl &&
    isWithin 0 1 signal.confidence

/-- The bounds of `communitySignalSchema` -/
def CommunitySignal.valid (signal : CommunitySignal) : Bool :=
  isFilled signal.platform && isFilled signal.summary &&
    signal.sample_posts.all (fun post => jsLength post ≤ 280) && signal.sample_posts.length ≤ 3 &&
    isWithin 0 1 signal.confidence

/-- The bounds of `briefOpportunityRefSchema` -/
def BriefOpportunityRef.valid (ref : BriefOpportunityRef) : Bool :=
  isUuid ref.opportunity_id && isFilled ref.title && isFilled ref.rationale && isWithin 0 2 ref.score

/-- The bounds of `intelBriefV1Schema` -/
def IntelBriefV1.valid (brief : IntelBriefV1) : Bool :=
  isUuid brief.tenant_id && brief.experiment_id.all isUuid && isUuid brief.brief_id &&
    isDatetime brief.generated_at && isDayText brief.period.from_ && isDayText brief.period.to_ &&
    brief.competitive_signals.all (·.valid isUrl) && brief.community_signals.all (·.valid) &&
    brief.content_opportunities.all (·.valid) && !brief.content_opportunities.isEmpty &&
    isFilled brief.recommended_focus

/-- The bounds of `opportunityEvidenceSchema` -/
def OpportunityEvidence.valid (evidence : OpportunityEvidence) : Bool :=
  isFilled evidence.description && evidence.source_url.all isUrl

/-- The bounds of `contentOpportunityV1Schema` -/
def ContentOpportunityV1.valid (o : ContentOpportunityV1) : Bool :=
  isUuid o.tenant_id && o.experiment_id.all isUuid && isUuid o.opportunity_id &&
    isUuid o.source_brief_id && isFilled o.title && 10 ≤ jsLength o.hook && isFilled o.rationale &&
    o.target_audience.all isFilled && !o.target_audience.isEmpty && !o.motion_fit.isEmpty &&
    o.evidence.all (·.valid isUrl) && !o.evidence.isEmpty && isWithin 0 2 o.score &&
    isDatetime o.created_at

end

/-- `z.number().int().positive()` -/
def isPositiveInt (n : ℚ) : Bool := n.den == 1 && 0 < n

/-- The bounds of `briefOutlineSectionSchema` -/
def BriefOutlineSection.valid (s : BriefOutlineSection) : Bool :=
  isFilled s.section_title && s.key_points.all isFilled && !s.key_points.isEmpty &&
    s.word_count_target.all isPositiveInt

/-- The bounds of `internalLinkSuggestionSchema` -/
def InternalLinkSuggestion.valid (link : InternalLinkSuggestion) : Bool :=
  isFilled link.anchor && isFilled link.target_url

/-- The bounds of `contentBriefV1Schema` -/
def ContentBriefV1.valid (b : ContentBriefV1) : Bool :=
  isUuid b.tenant_id && b.experiment_id.all isUuid && isUuid b.brief_id &&
    isUuid b.opportunity_id && isDatetime b.generated_at && isFilled b.title &&
    10 ≤ jsLength b.hook && b.target_audience.all isFilled && !b.target_audience.isEmpty &&
    isFilled b.primary_keyword && b.secondary_keywords.all isFilled && b.outline.all (·.valid) &&
    4 ≤ b.outline.length && isFilled b.tone_notes && b.internal_links_suggested.all (·.valid) &&
    isFilled b.cta && isPositiveInt b.estimated_word_count && !b.motion_fit.isEmpty &&
    isWithin 0 1 b.confidence_score

/-- The bounds of `draftClaimSchema` -/
def DraftClaim.valid (isUrl : String → Bool) (claim : DraftClaim) : Bool :=
  isFilled claim.text && claim.source_url.all isUrl

/-- The bounds of `draftQualityIndicatorsSchema` -/
def DraftQualityIndicators.valid (q : DraftQualityIndicators) : Bool :=
  q.flesch_score.all (isWithin 0 100) && q.heading_count.den == 1 && 0 ≤ q.heading_count

/-- The bounds of `blogDraftV1Schema` -/
def BlogDraftV1.valid (isUrl : String → Bool) (d : BlogDraftV1) : Bool :=
  isUuid d.tenant_id && d.experiment_id.all isUuid && isUuid d.draft_id && isUuid d.brief_id &&
    isDatetime d.generated_at && isPositiveInt d.iteration && isFilled d.title &&
    jsLength d.meta_description ≤ 160 && 100 ≤ jsLength d.body_markdown &&
    isPositiveInt d.word_count && isPositiveInt d.reading_time_minutes &&
    d.estimated_claims.all (·.valid isUrl) && d.quality_indicators.valid

end VantGrowth.Core
