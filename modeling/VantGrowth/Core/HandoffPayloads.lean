import VantGrowth.Core.HandoffContracts

namespace VantGrowth.Core
open Db Db.Zod Lib

/-- A field that is left out where there is no value. -/
def optionalEntry (field : String) (value : Option Json) : Payload :=
  value.toList.map fun json => (field, json)

/-- `z.number()`, of which the bounds of the contracts admit no infinity. -/
def number : Schema ℚ
  | .num (.finite value) => some value
  | _ => none

/-- A schema's next field, where the payload has it. -/
theorem then_required {p : Payload} {field : String} {schema : Schema α} {j : Json} {a : α}
    {next : α → Option β} {b : Option β} (there : p.lookup field = some j)
    (reads : schema j = some a) (rest : next a = b) : (required p field schema >>= next) = b := by
  simp [required, there, reads, rest]

theorem then_optional {p : Payload} {field : String} {schema : Schema α} {j : Json} {a : α}
    {next : Option α → Option β} {b : Option β} (there : p.lookup field = some j)
    (reads : schema j = some a) (rest : next (some a) = b) :
    (Zod.optional p field schema >>= next) = b := by
  simp [Zod.optional, there, reads, rest]

theorem then_absent {p : Payload} {field : String} {schema : Schema α}
    {next : Option α → Option β} {b : Option β} (absent : p.lookup field = none)
    (rest : next none = b) : (Zod.optional p field schema >>= next) = b := by
  simp [Zod.optional, absent, rest]

theorem then_defaulted {p : Payload} {field : String} {schema : Schema α} {j : Json} {a default : α}
    {next : α → Option β} {b : Option β} (there : p.lookup field = some j)
    (reads : schema j = some a) (rest : next a = b) :
    (defaulted p field schema default >>= next) = b := by
  simp [defaulted, there, reads, rest]

theorem array_written {item : Schema α} {write : α → Json} (back : ∀ a, item (write a) = some a)
    (values : List α) : array item (.arr (values.map write)) = some values := by
  simp only [array]
  induction values with
  | nil => rfl
  | cons a rest ih => simp [List.mapM_cons, back, ih]

def texts (values : List String) : Json := .arr (values.map Json.str)

@[simp] theorem texts_read (values : List String) : array text (texts values) = some values :=
  array_written (fun _ => rfl : ∀ s, text (Json.str s) = some s) values

def labels (values : List MotionLabel) : Json := .arr (values.map fun label => .str label.text)

@[simp] theorem label_read (label : MotionLabel) :
    oneOf MotionLabel.values (.str label.text) = some label := by
  cases label <;> decide

@[simp] theorem labels_read (values : List MotionLabel) :
    array (oneOf MotionLabel.values) (labels values) = some values :=
  array_written label_read values

@[simp] theorem urgency_read (urgency : HandoffUrgency) :
    oneOf HandoffUrgency.values (.str urgency.text) = some urgency := by
  cases urgency <;> decide

/-- A schema that reads the fields of an object. -/
def object (read : Payload → Option α) : Schema α
  | .obj p => read p
  | _ => none

namespace CompetitiveSignal

def toJson (s : CompetitiveSignal) : Json :=
  .obj ([("competitor", .str s.competitor), ("signal_type", .str s.signal_type.text),
    ("summary", .str s.summary), ("confidence", .num (.finite s.confidence)),
    ("is_persisting", .bool s.is_persisting)] ++ optionalEntry "source_url" (s.source_url.map .str))

def read : Schema CompetitiveSignal := object fun p => do
  let competitor ← required p "competitor" text
  let signal_type ← required p "signal_type" (oneOf CompetitiveSignalType.values)
  let summary ← required p "summary" text
  let source_url ← Zod.optional p "source_url" text
  let confidence ← required p "confidence" number
  let is_persisting ← defaulted p "is_persisting" Zod.bool false
  return { competitor, signal_type, summary, source_url, confidence, is_persisting }

theorem read_toJson (s : CompetitiveSignal) : read s.toJson = some s := by
  obtain ⟨competitor, signal_type, summary, source_url, confidence, is_persisting⟩ := s
  have type : oneOf CompetitiveSignalType.values (.str signal_type.text) = some signal_type := by
    cases signal_type <;> decide
  cases source_url <;>
    simp [read, toJson, object, required, Zod.optional, defaulted, List.lookup_cons, optionalEntry, text,
      type, number, Zod.bool]

end CompetitiveSignal

namespace CommunitySignal

def toJson (s : CommunitySignal) : Json :=
  .obj [("platform", .str s.platform), ("signal_type", .str s.signal_type.text),
    ("summary", .str s.summary), ("sample_posts", texts s.sample_posts),
    ("confidence", .num (.finite s.confidence)), ("motion_fit", labels s.motion_fit)]

def read : Schema CommunitySignal := object fun p => do
  let platform ← required p "platform" text
  let signal_type ← required p "signal_type" (oneOf CommunitySignalType.values)
  let summary ← required p "summary" text
  let sample_posts ← defaulted p "sample_posts" (array text) []
  let confidence ← required p "confidence" number
  let motion_fit ← defaulted p "motion_fit" (array (oneOf MotionLabel.values)) []
  return { platform, signal_type, summary, sample_posts, confidence, motion_fit }

theorem read_toJson (s : CommunitySignal) : read s.toJson = some s := by
  obtain ⟨platform, signal_type, summary, sample_posts, confidence, motion_fit⟩ := s
  have type : oneOf CommunitySignalType.values (.str signal_type.text) = some signal_type := by
    cases signal_type <;> decide
  simp [read, toJson, object, required, defaulted, List.lookup_cons, text, type, number]

end CommunitySignal

namespace BriefOpportunityRef

def toJson (r : BriefOpportunityRef) : Json :=
  .obj [("opportunity_id", .str r.opportunity_id), ("title", .str r.title),
    ("rationale", .str r.rationale), ("urgency", .str r.urgency.text),
    ("motion_fit", labels r.motion_fit), ("score", .num (.finite r.score))]

def read : Schema BriefOpportunityRef := object fun p => do
  let opportunity_id ← required p "opportunity_id" text
  let title ← required p "title" text
  let rationale ← required p "rationale" text
  let urgency ← required p "urgency" (oneOf HandoffUrgency.values)
  let motion_fit ← required p "motion_fit" (array (oneOf MotionLabel.values))
  let score ← required p "score" number
  return { opportunity_id, title, rationale, urgency, motion_fit, score }

theorem read_toJson (r : BriefOpportunityRef) : read r.toJson = some r := by
  simp [read, toJson, object, required, List.lookup_cons, text, number]

end BriefOpportunityRef

namespace IntelBriefV1

def toPayload (b : IntelBriefV1) : Payload :=
  [("schema_version", .str "intel_brief.v1"), ("tenant_id", .str b.tenant_id)] ++
    optionalEntry "experiment_id" (b.experiment_id.map .str) ++
  [("brief_id", .str b.brief_id), ("generated_at", .str b.generated_at),
    ("period", .obj [("from", .str b.period.from_), ("to", .str b.period.to_)]),
    ("competitive_signals", .arr (b.competitive_signals.map (·.toJson))),
    ("community_signals", .arr (b.community_signals.map (·.toJson))),
    ("content_opportunities", .arr (b.content_opportunities.map (·.toJson))),
    ("recommended_focus", .str b.recommended_focus)]

def readPeriod : Schema Period := object fun p => do
  let from_ ← required p "from" text
  let to_ ← required p "to" text
  return { from_, to_ }

def read (p : Payload) : Option IntelBriefV1 := do
  let _ ← required p "schema_version" (literal "intel_brief.v1")
  let tenant_id ← required p "tenant_id" text
  let experiment_id ← Zod.optional p "experiment_id" text
  let brief_id ← required p "brief_id" text
  let generated_at ← required p "generated_at" text
  let period ← required p "period" readPeriod
  let competitive_signals ← required p "competitive_signals" (array CompetitiveSignal.read)
  let community_signals ← required p "community_signals" (array CommunitySignal.read)
  let content_opportunities ← required p "content_opportunities" (array BriefOpportunityRef.read)
  let recommended_focus ← required p "recommended_focus" text
  return { tenant_id, experiment_id, brief_id, generated_at, period, competitive_signals,
           community_signals, content_opportunities, recommended_focus }

theorem read_toPayload (b : IntelBriefV1) : read b.toPayload = some b := by
  obtain ⟨tenant_id, experiment_id, brief_id, generated_at, period, competitive, community,
    opportunities, focus⟩ := b
  unfold read
  cases experiment_id with
  | none =>
    refine then_required rfl rfl ?_
    refine then_required rfl rfl ?_
    refine then_absent rfl ?_
    refine then_required rfl rfl ?_
    refine then_required rfl rfl ?_
    refine then_required rfl rfl ?_
    refine then_required rfl (array_written CompetitiveSignal.read_toJson _) ?_
    refine then_required rfl (array_written CommunitySignal.read_toJson _) ?_
    refine then_required rfl (array_written BriefOpportunityRef.read_toJson _) ?_
    refine then_required rfl rfl ?_
    rfl
  | some id =>
    refine then_required rfl rfl ?_
    refine then_required rfl rfl ?_
    refine then_optional rfl rfl ?_
    refine then_required rfl rfl ?_
    refine then_required rfl rfl ?_
    refine then_required rfl rfl ?_
    refine then_required rfl (array_written CompetitiveSignal.read_toJson _) ?_
    refine then_required rfl (array_written CommunitySignal.read_toJson _) ?_
    refine then_required rfl (array_written BriefOpportunityRef.read_toJson _) ?_
    refine then_required rfl rfl ?_
    rfl

end IntelBriefV1

namespace OpportunityEvidence

def toJson (e : OpportunityEvidence) : Json :=
  .obj ([("type", .str e.type.text), ("description", .str e.description)] ++
    optionalEntry "source_url" (e.source_url.map .str))

def read : Schema OpportunityEvidence := object fun p => do
  let type ← required p "type" (oneOf EvidenceType.values)
  let description ← required p "description" text
  let source_url ← Zod.optional p "source_url" text
  return { type, description, source_url }

theorem read_toJson (e : OpportunityEvidence) : read e.toJson = some e := by
  obtain ⟨type, description, source_url⟩ := e
  have typed : oneOf EvidenceType.values (.str type.text) = some type := by
    cases type <;> decide
  cases source_url <;>
    simp [read, toJson, object, required, Zod.optional, List.lookup_cons, optionalEntry, text, typed]

end OpportunityEvidence

namespace ContentOpportunityV1

def toPayload (o : ContentOpportunityV1) : Payload :=
  [("schema_version", .str "content_opportunity.v1"), ("tenant_id", .str o.tenant_id)] ++
    optionalEntry "experiment_id" (o.experiment_id.map .str) ++
  [("opportunity_id", .str o.opportunity_id), ("source_brief_id", .str o.source_brief_id),
    ("title", .str o.title), ("hook", .str o.hook), ("rationale", .str o.rationale),
    ("target_audience", texts o.target_audience), ("motion_fit", labels o.motion_fit),
    ("urgency", .str o.urgency.text), ("content_format", .str o.content_format.text),
    ("evidence", .arr (o.evidence.map (·.toJson))), ("score", .num (.finite o.score)),
    ("created_at", .str o.created_at)]

def read (p : Payload) : Option ContentOpportunityV1 := do
  let _ ← required p "schema_version" (literal "content_opportunity.v1")
  let tenant_id ← required p "tenant_id" text
  let experiment_id ← Zod.optional p "experiment_id" text
  let opportunity_id ← required p "opportunity_id" text
  let source_brief_id ← required p "source_brief_id" text
  let title ← required p "title" text
  let hook ← required p "hook" text
  let rationale ← required p "rationale" text
  let target_audience ← required p "target_audience" (array text)
  let motion_fit ← required p "motion_fit" (array (oneOf MotionLabel.values))
  let urgency ← required p "urgency" (oneOf HandoffUrgency.values)
  let content_format ← required p "content_format" (oneOf ContentFormat.values)
  let evidence ← required p "evidence" (array OpportunityEvidence.read)
  let score ← required p "score" number
  let created_at ← required p "created_at" text
  return { tenant_id, experiment_id, opportunity_id, source_brief_id, title, hook, rationale,
           target_audience, motion_fit, urgency, content_format, evidence, score, created_at }

theorem read_toPayload (o : ContentOpportunityV1) : read o.toPayload = some o := by
  obtain ⟨tenant_id, experiment_id, opportunity_id, source_brief_id, title, hook, rationale,
    target_audience, motion_fit, urgency, content_format, evidence, score, created_at⟩ := o
  have format : oneOf ContentFormat.values (.str content_format.text) = some content_format := by
    cases content_format <;> decide
  unfold read
  cases experiment_id with
  | none =>
    refine then_required rfl rfl ?_
    refine then_required rfl rfl ?_
    refine then_absent rfl ?_
    refine then_required rfl rfl ?_
    refine then_required rfl rfl ?_
    refine then_required rfl rfl ?_
    refine then_required rfl rfl ?_
    refine then_required rfl rfl ?_
    refine then_required rfl (texts_read _) ?_
    refine then_required rfl (labels_read _) ?_
    refine then_required rfl (urgency_read _) ?_
    refine then_required rfl format ?_
    refine then_required rfl (array_written OpportunityEvidence.read_toJson _) ?_
    refine then_required rfl rfl ?_
    refine then_required rfl rfl ?_
    rfl
  | some id =>
    refine then_required rfl rfl ?_
    refine then_required rfl rfl ?_
    refine then_optional rfl rfl ?_
    refine then_required rfl rfl ?_
    refine then_required rfl rfl ?_
    refine then_required rfl rfl ?_
    refine then_required rfl rfl ?_
    refine then_required rfl rfl ?_
    refine then_required rfl (texts_read _) ?_
    refine then_required rfl (labels_read _) ?_
    refine then_required rfl (urgency_read _) ?_
    refine then_required rfl format ?_
    refine then_required rfl (array_written OpportunityEvidence.read_toJson _) ?_
    refine then_required rfl rfl ?_
    refine then_required rfl rfl ?_
    rfl

end ContentOpportunityV1

namespace BriefOutlineSection

def toJson (s : BriefOutlineSection) : Json :=
  .obj ([("section_title", .str s.section_title), ("key_points", texts s.key_points)] ++
    optionalEntry "word_count_target" (s.word_count_target.map fun n => .num (.finite n)))

def read : Schema BriefOutlineSection := object fun p => do
  let section_title ← required p "section_title" text
  let key_points ← required p "key_points" (array text)
  let word_count_target ← Zod.optional p "word_count_target" number
  return { section_title, key_points, word_count_target }

theorem read_toJson (s : BriefOutlineSection) : read s.toJson = some s := by
  obtain ⟨section_title, key_points, word_count_target⟩ := s
  cases word_count_target <;>
    simp [read, toJson, object, required, Zod.optional, List.lookup_cons, optionalEntry, text, number]

end BriefOutlineSection

namespace InternalLinkSuggestion

def toJson (link : InternalLinkSuggestion) : Json :=
  .obj [("anchor", .str link.anchor), ("target_url", .str link.target_url)]

def read : Schema InternalLinkSuggestion := object fun p => do
  let anchor ← required p "anchor" text
  let target_url ← required p "target_url" text
  return { anchor, target_url }

theorem read_toJson (link : InternalLinkSuggestion) : read link.toJson = some link := by
  simp [read, toJson, object, required, List.lookup_cons, text]

end InternalLinkSuggestion

namespace ContentBriefV1

def toPayload (b : ContentBriefV1) : Payload :=
  [("schema_version", .str "content_brief.v1"), ("tenant_id", .str b.tenant_id)] ++
    optionalEntry "experiment_id" (b.experiment_id.map .str) ++
  [("brief_id", .str b.brief_id), ("opportunity_id", .str b.opportunity_id),
    ("generated_at", .str b.generated_at), ("title", .str b.title), ("hook", .str b.hook),
    ("target_audience", texts b.target_audience), ("search_intent", .str b.search_intent.text),
    ("primary_keyword", .str b.primary_keyword),
    ("secondary_keywords", texts b.secondary_keywords),
    ("outline", .arr (b.outline.map (·.toJson))), ("tone_notes", .str b.tone_notes),
    ("claims_to_avoid", texts b.claims_to_avoid),
    ("internal_links_suggested", .arr (b.internal_links_suggested.map (·.toJson))),
    ("cta", .str b.cta), ("estimated_word_count", .num (.finite b.estimated_word_count)),
    ("motion_fit", labels b.motion_fit), ("confidence_score", .num (.finite b.confidence_score))]

def read (p : Payload) : Option ContentBriefV1 := do
  let _ ← required p "schema_version" (literal "content_brief.v1")
  let tenant_id ← required p "tenant_id" text
  let experiment_id ← Zod.optional p "experiment_id" text
  let brief_id ← required p "brief_id" text
  let opportunity_id ← required p "opportunity_id" text
  let generated_at ← required p "generated_at" text
  let title ← required p "title" text
  let hook ← required p "hook" text
  let target_audience ← required p "target_audience" (array text)
  let search_intent ← required p "search_intent" (oneOf SearchIntent.values)
  let primary_keyword ← required p "primary_keyword" text
  let secondary_keywords ← defaulted p "secondary_keywords" (array text) []
  let outline ← required p "outline" (array BriefOutlineSection.read)
  let tone_notes ← required p "tone_notes" text
  let claims_to_avoid ← defaulted p "claims_to_avoid" (array text) []
  let internal_links_suggested ←
    defaulted p "internal_links_suggested" (array InternalLinkSuggestion.read) []
  let cta ← required p "cta" text
  let estimated_word_count ← required p "estimated_word_count" number
  let motion_fit ← required p "motion_fit" (array (oneOf MotionLabel.values))
  let confidence_score ← required p "confidence_score" number
  return { tenant_id, experiment_id, brief_id, opportunity_id, generated_at, title, hook,
           target_audience, search_intent, primary_keyword, secondary_keywords, outline, tone_notes,
           claims_to_avoid, internal_links_suggested, cta, estimated_word_count, motion_fit,
           confidence_score }

theorem read_toPayload (b : ContentBriefV1) : read b.toPayload = some b := by
  obtain ⟨tenant_id, experiment_id, brief_id, opportunity_id, generated_at, title, hook,
    target_audience, search_intent, primary_keyword, secondary_keywords, outline, tone_notes,
    claims_to_avoid, internal_links_suggested, cta, estimated_word_count, motion_fit,
    confidence_score⟩ := b
  have intent : oneOf SearchIntent.values (.str search_intent.text) = some search_intent := by
    cases search_intent <;> decide
  unfold read
  cases experiment_id with
  | none =>
    refine then_required rfl rfl ?_
    refine then_required rfl rfl ?_
    refine then_absent rfl ?_
    refine then_required rfl rfl ?_
    refine then_required rfl rfl ?_
    refine then_required rfl rfl ?_
    refine then_required rfl rfl ?_
    refine then_required rfl rfl ?_
    refine then_required rfl (texts_read _) ?_
    refine then_required rfl intent ?_
    refine then_required rfl rfl ?_
    refine then_defaulted rfl (texts_read _) ?_
    refine then_required rfl (array_written BriefOutlineSection.read_toJson _) ?_
    refine then_required rfl rfl ?_
    refine then_defaulted rfl (texts_read _) ?_
    refine then_defaulted rfl (array_written InternalLinkSuggestion.read_toJson _) ?_
    refine then_required rfl rfl ?_
    refine then_required rfl rfl ?_
    refine then_required rfl (labels_read _) ?_
    refine then_required rfl rfl ?_
    rfl
  | some id =>
    refine then_required rfl rfl ?_
    refine then_required rfl rfl ?_
    refine then_optional rfl rfl ?_
    refine then_required rfl rfl ?_
    refine then_required rfl rfl ?_
    refine then_required rfl rfl ?_
    refine then_required rfl rfl ?_
    refine then_required rfl rfl ?_
    refine then_required rfl (texts_read _) ?_
    refine then_required rfl intent ?_
    refine then_required rfl rfl ?_
    refine then_defaulted rfl (texts_read _) ?_
    refine then_required rfl (array_written BriefOutlineSection.read_toJson _) ?_
    refine then_required rfl rfl ?_
    refine then_defaulted rfl (texts_read _) ?_
    refine then_defaulted rfl (array_written InternalLinkSuggestion.read_toJson _) ?_
    refine then_required rfl rfl ?_
    refine then_required rfl rfl ?_
    refine then_required rfl (labels_read _) ?_
    refine then_required rfl rfl ?_
    rfl

end ContentBriefV1

namespace DraftClaim

def toJson (c : DraftClaim) : Json :=
  .obj ([("text", .str c.text), ("type", .str c.type.text),
    ("requires_verification", .bool c.requires_verification)] ++
    optionalEntry "source_url" (c.source_url.map .str))

def types : List (String × ClaimType) :=
  [ClaimType.stat, .comparison, .prediction, .definition].map fun type => (type.text, type)

def read : Schema DraftClaim := object fun p => do
  let text ← required p "text" Zod.text
  let type ← required p "type" (oneOf types)
  let requires_verification ← required p "requires_verification" Zod.bool
  let source_url ← Zod.optional p "source_url" Zod.text
  return { text, type, requires_verification, source_url }

theorem read_toJson (c : DraftClaim) : read c.toJson = some c := by
  obtain ⟨claim, type, requires_verification, source_url⟩ := c
  have typed : oneOf types (.str type.text) = some type := by
    cases type <;> decide
  unfold read toJson object
  refine then_required rfl rfl ?_
  refine then_required rfl typed ?_
  refine then_required rfl rfl ?_
  cases source_url with
  | none =>
    refine then_absent rfl ?_
    rfl
  | some url =>
    refine then_optional rfl rfl ?_
    rfl

end DraftClaim

namespace BlogDraftV1

def numberOrNull : Option ℚ → Json
  | some n => .num (.finite n)
  | none => .null

theorem numberOrNull_read (n : Option ℚ) : nullable number (numberOrNull n) = some n := by
  cases n <;> rfl

def indicatorsJson (q : DraftQualityIndicators) : Json :=
  .obj [("flesch_score", numberOrNull q.flesch_score), ("grade_level", numberOrNull q.grade_level),
    ("has_cta", .bool q.has_cta), ("has_internal_links", .bool q.has_internal_links),
    ("heading_count", .num (.finite q.heading_count))]

def toPayload (d : BlogDraftV1) : Payload :=
  [("schema_version", .str "blog_draft.v1"), ("tenant_id", .str d.tenant_id)] ++
    optionalEntry "experiment_id" (d.experiment_id.map .str) ++
  [("draft_id", .str d.draft_id), ("brief_id", .str d.brief_id),
    ("generated_at", .str d.generated_at), ("iteration", .num (.finite d.iteration)),
    ("title", .str d.title), ("meta_description", .str d.meta_description),
    ("body_markdown", .str d.body_markdown), ("word_count", .num (.finite d.word_count)),
    ("reading_time_minutes", .num (.finite d.reading_time_minutes)),
    ("estimated_claims", .arr (d.estimated_claims.map (·.toJson))),
    ("quality_indicators", indicatorsJson d.quality_indicators),
    ("status", .str d.status.text)]

def readIndicators : Schema DraftQualityIndicators := object fun p => do
  let flesch_score ← required p "flesch_score" (nullable number)
  let grade_level ← required p "grade_level" (nullable number)
  let has_cta ← required p "has_cta" Zod.bool
  let has_internal_links ← required p "has_internal_links" Zod.bool
  let heading_count ← required p "heading_count" number
  return { flesch_score, grade_level, has_cta, has_internal_links, heading_count }

def statuses : List (String × DraftStatus) :=
  [DraftStatus.draft, .pending_review, .approved, .rejected].map fun status =>
    (status.text, status)

def read (p : Payload) : Option BlogDraftV1 := do
  let _ ← required p "schema_version" (literal "blog_draft.v1")
  let tenant_id ← required p "tenant_id" text
  let experiment_id ← Zod.optional p "experiment_id" text
  let draft_id ← required p "draft_id" text
  let brief_id ← required p "brief_id" text
  let generated_at ← required p "generated_at" text
  let iteration ← defaulted p "iteration" number 1
  let title ← required p "title" text
  let meta_description ← required p "meta_description" text
  let body_markdown ← required p "body_markdown" text
  let word_count ← required p "word_count" number
  let reading_time_minutes ← required p "reading_time_minutes" number
  let estimated_claims ← defaulted p "estimated_claims" (array DraftClaim.read) []
  let quality_indicators ← required p "quality_indicators" readIndicators
  let status ← defaulted p "status" (oneOf statuses) .draft
  return { tenant_id, experiment_id, draft_id, brief_id, generated_at, iteration, title,
           meta_description, body_markdown, word_count, reading_time_minutes, estimated_claims,
           quality_indicators, status }

theorem indicators_read (q : DraftQualityIndicators) : readIndicators (indicatorsJson q) = some q := by
  unfold readIndicators indicatorsJson object
  refine then_required rfl (numberOrNull_read _) ?_
  refine then_required rfl (numberOrNull_read _) ?_
  refine then_required rfl rfl ?_
  refine then_required rfl rfl ?_
  refine then_required rfl rfl ?_
  rfl

theorem read_toPayload (d : BlogDraftV1) : read d.toPayload = some d := by
  obtain ⟨tenant_id, experiment_id, draft_id, brief_id, generated_at, iteration, title,
    meta_description, body_markdown, word_count, reading_time_minutes, estimated_claims,
    indicators, status⟩ := d
  have stated : oneOf statuses (.str status.text) = some status := by
    cases status <;> decide
  unfold read
  cases experiment_id with
  | none =>
    refine then_required rfl rfl ?_
    refine then_required rfl rfl ?_
    refine then_absent rfl ?_
    refine then_required rfl rfl ?_
    refine then_required rfl rfl ?_
    refine then_required rfl rfl ?_
    refine then_defaulted rfl rfl ?_
    refine then_required rfl rfl ?_
    refine then_required rfl rfl ?_
    refine then_required rfl rfl ?_
    refine then_required rfl rfl ?_
    refine then_required rfl rfl ?_
    refine then_defaulted rfl (array_written DraftClaim.read_toJson _) ?_
    refine then_required rfl (indicators_read _) ?_
    refine then_defaulted rfl stated ?_
    rfl
  | some id =>
    refine then_required rfl rfl ?_
    refine then_required rfl rfl ?_
    refine then_optional rfl rfl ?_
    refine then_required rfl rfl ?_
    refine then_required rfl rfl ?_
    refine then_required rfl rfl ?_
    refine then_defaulted rfl rfl ?_
    refine then_required rfl rfl ?_
    refine then_required rfl rfl ?_
    refine then_required rfl rfl ?_
    refine then_required rfl rfl ?_
    refine then_required rfl rfl ?_
    refine then_defaulted rfl (array_written DraftClaim.read_toJson _) ?_
    refine then_required rfl (indicators_read _) ?_
    refine then_defaulted rfl stated ?_
    rfl

end BlogDraftV1

section
variable (isUrl : String → Bool)

def intelBriefV1Schema (p : Payload) : Option IntelBriefV1 :=
  (IntelBriefV1.read p).filter (·.valid isUrl)

def contentOpportunityV1Schema (p : Payload) : Option ContentOpportunityV1 :=
  (ContentOpportunityV1.read p).filter (·.valid isUrl)

def contentBriefV1Schema (p : Payload) : Option ContentBriefV1 :=
  (ContentBriefV1.read p).filter (·.valid)

def blogDraftV1Schema (p : Payload) : Option BlogDraftV1 :=
  (BlogDraftV1.read p).filter (·.valid isUrl)

/-- A payload in circulation is read as what it was written from. -/
theorem intelBrief_accepted (b : IntelBriefV1) (valid : b.valid isUrl = true) :
    intelBriefV1Schema isUrl b.toPayload = some b := by
  simp [intelBriefV1Schema, IntelBriefV1.read_toPayload, valid]

theorem contentOpportunity_accepted (o : ContentOpportunityV1) (valid : o.valid isUrl = true) :
    contentOpportunityV1Schema isUrl o.toPayload = some o := by
  simp [contentOpportunityV1Schema, ContentOpportunityV1.read_toPayload, valid]

theorem contentBrief_accepted (b : ContentBriefV1) (valid : b.valid = true) :
    contentBriefV1Schema b.toPayload = some b := by
  simp [contentBriefV1Schema, ContentBriefV1.read_toPayload, valid]

theorem blogDraft_accepted (d : BlogDraftV1) (valid : d.valid isUrl = true) :
    blogDraftV1Schema isUrl d.toPayload = some d := by
  simp [blogDraftV1Schema, BlogDraftV1.read_toPayload, valid]

end

end VantGrowth.Core

namespace VantGrowth.Core
open Db Lib

/-- What `parseHandoffContract` returns. -/
inductive HandoffContract where
  | intelBrief (brief : IntelBriefV1)
  | contentOpportunity (opportunity : ContentOpportunityV1)
  | contentBrief (brief : ContentBriefV1)
  | blogDraft (draft : BlogDraftV1)

/-- The object that is returned. -/
def HandoffContract.toPayload : HandoffContract → Payload
  | .intelBrief brief => brief.toPayload
  | .contentOpportunity opportunity => opportunity.toPayload
  | .contentBrief brief => brief.toPayload
  | .blogDraft draft => draft.toPayload

inductive HandoffError where
  | error (message : String)
  | zod
  | typeError
deriving DecidableEq

section
variable (isUrl : String → Bool)

def HANDOFF_CONTRACT_SCHEMAS : List (String × (Payload → Option HandoffContract)) :=
  [("intel_brief.v1", fun p => (intelBriefV1Schema isUrl p).map .intelBrief),
    ("content_opportunity.v1", fun p => (contentOpportunityV1Schema isUrl p).map .contentOpportunity),
    ("content_brief.v1", fun p => (contentBriefV1Schema p).map .contentBrief),
    ("blog_draft.v1", fun p => (blogDraftV1Schema isUrl p).map .blogDraft)]

/-- The properties that a plain object inherits from `Object.prototype`. -/
def objectPrototype : List String :=
  ["constructor", "__defineGetter__", "__defineSetter__", "hasOwnProperty", "__lookupGetter__",
    "__lookupSetter__", "isPrototypeOf", "propertyIsEnumerable", "toString", "valueOf", "__proto__",
    "toLocaleString"]

/-- `v in HANDOFF_CONTRACT_SCHEMAS` -/
def isHandoffContractVersion (v : String) : Bool :=
  ((HANDOFF_CONTRACT_SCHEMAS isUrl).lookup v).isSome || objectPrototype.contains v

def parseHandoffContract (payload : Json) : Except HandoffError HandoffContract :=
  match payload with
  | .obj p =>
    match p.lookup "schema_version" with
    | some (.str version) =>
      if isHandoffContractVersion isUrl version then
        match (HANDOFF_CONTRACT_SCHEMAS isUrl).lookup version with
        | some schema => (schema p).elim (.error .zod) .ok
        -- What is inherited has no `parse` to call.
        | none => .error .typeError
      else .error (.error ("Unknown handoff contract version: " ++ version))
    | _ => .error (.error "Handoff contract payload missing schema_version field")
  | _ => .error (.error "Handoff contract payload missing schema_version field")

end

end VantGrowth.Core
