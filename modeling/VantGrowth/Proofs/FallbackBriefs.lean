import VantGrowth.Content.IntelDirector

namespace VantGrowth.Proofs.FallbackBriefs
open Core Db Db.Zod Lib Content
open Signals (BriefTrigger IntelBriefRequestedV1 nonEmptyString nullish intelBriefRequestedV1Schema)

/-- What the quoted field of a signal says, trimmed. -/
def quoted (trigger : BriefTrigger) : Option String :=
  nonEmptyString (nullish (trigger.payload.lookup "text") <|> trigger.payload.lookup "subject")

/-- What the summary field of a signal says, trimmed. -/
def summarised (trigger : BriefTrigger) : Option String :=
  nonEmptyString (summaryField trigger.payload)

/-- The length of the sentence that is made of a signal which quotes nothing. -/
def sentenceLength (trigger : BriefTrigger) : Nat :=
  let head := jsLength (sentenceCase trigger.kind) + jsLength trigger.source
  match summarised trigger with
  | some summary => head + 8 + min 500 (jsLength summary)
  | none => head + 8 + (head + 16)

/-- The length of the quoted text, or else of the sentence made of the signal. -/
def postLength (trigger : BriefTrigger) : Nat :=
  match quoted trigger with
  | some text => jsLength text
  | none => sentenceLength trigger

/-- The signal is about a competitor or what is quoted of it fits a post. -/
def quotesShort (request : IntelBriefRequestedV1) : Bool :=
  request.trigger.all fun trigger =>
    startsWith trigger.kind "competitor." || postLength trigger ≤ 280

/-- The generator returns a brief of the contract from every state. -/
def Generates (d : Deployment) (request : IntelBriefRequestedV1) : Prop :=
  ∀ w, ∃ brief w', (generateDeterministicBrief d request).run w = (.ok brief, w') ∧
    brief.valid d.runtime.isUrl = true

theorem textValue_eq (value : Option Json) (fallback : String) :
    textValue value fallback = ((nonEmptyString value).map (jsSlice 500)).getD fallback := by
  cases value with
  | none => rfl
  | some json =>
    cases json with
    | str s =>
      by_cases blank : jsTrim s = ""
      · simp [textValue, nonEmptyString, blank]
      · simp [textValue, nonEmptyString, blank]
    | null => rfl
    | bool b => rfl
    | num n => rfl
    | arr items => rfl
    | obj fields => rfl

theorem textValue_length (value : Option Json) (fallback : String) :
    jsLength (textValue value fallback) =
      match nonEmptyString value with
      | some s => min 500 (jsLength s)
      | none => jsLength fallback := by
  rw [textValue_eq]
  cases nonEmptyString value <;> simp

theorem nonEmptyString_pos {value : Option Json} {s : String} (h : nonEmptyString value = some s) :
    0 < jsLength s := by
  rw [jsLength_pos]
  unfold nonEmptyString at h
  split at h
  · split at h
    · cases h
    · rename_i filled
      cases h
      exact filled
  · cases h

theorem textValue_filled {value : Option Json} {fallback : String} (filled : fallback ≠ "") :
    isFilled (textValue value fallback) = true := by
  refine bne_iff_ne.mpr (jsLength_pos.mp ?_)
  rw [textValue_length]
  cases h : nonEmptyString value with
  | none => exact jsLength_pos.mpr filled
  | some s =>
    have := nonEmptyString_pos h
    show 0 < min 500 (jsLength s)
    omega

theorem summary_length (trigger : BriefTrigger) :
    jsLength (triggerSummary trigger) = sentenceLength trigger := by
  have from_ : jsLength " from " = 6 := by decide
  have colon : jsLength ": " = 2 := by decide
  have observed : jsLength " observed from " = 15 := by decide
  have dot : jsLength "." = 1 := by decide
  have body := textValue_length (summaryField trigger.payload) (observedText trigger)
  unfold triggerSummary sentenceLength summarised
  simp only [jsLength_append, from_, colon]
  cases said : nonEmptyString (summaryField trigger.payload) with
  | some s =>
    rw [said] at body
    dsimp only at body ⊢
    rw [body]
    generalize min 500 (jsLength s) = m
    omega
  | none =>
    rw [said] at body
    simp only [observedText, jsLength_append, observed, dot] at body ⊢
    omega

/-- A quoted text is cut to 500 units, which never makes it fit. -/
theorem samplePost_fits (trigger : BriefTrigger) :
    jsLength (samplePost trigger) ≤ 280 ↔ postLength trigger ≤ 280 := by
  unfold samplePost postLength quoted
  rw [textValue_length]
  cases nonEmptyString _ with
  | some text =>
    show min 500 (jsLength text) ≤ 280 ↔ jsLength text ≤ 280
    omega
  | none =>
    dsimp only
    rw [summary_length]

theorem prefixed_filled {a b : String} (filled : a ≠ "") : isFilled (a ++ b) = true := by
  refine bne_iff_ne.mpr (jsLength_pos.mp ?_)
  rw [jsLength_append]
  have := jsLength_pos.mpr filled
  omega

theorem suffixed_filled {a b : String} (filled : b ≠ "") : isFilled (a ++ b) = true := by
  refine bne_iff_ne.mpr (jsLength_pos.mp ?_)
  rw [jsLength_append]
  have := jsLength_pos.mpr filled
  omega

theorem summary_filled (trigger : BriefTrigger) : isFilled (triggerSummary trigger) = true := by
  unfold triggerSummary
  refine prefixed_filled (bne_iff_ne.mp (suffixed_filled (by decide : ": " ≠ "")))

section
variable {d : Deployment} {request : IntelBriefRequestedV1}

theorem competitiveSignal_valid (trigger : BriefTrigger) :
    (competitiveSignal d.runtime trigger).valid d.runtime.isUrl = true := by
  have url : ((maybeUrl d.runtime (nullish (trigger.payload.lookup "source_url") <|>
      trigger.payload.lookup "sourceUrl")).filter (· != "")).all d.runtime.isUrl = true := by
    rw [Option.all_eq_true]
    intro url found
    obtain ⟨read, _⟩ := Option.filter_eq_some_iff.mp found
    unfold maybeUrl at read
    split at read
    · exact d.runtime.urlText_again _ url read
    · cases read
  have confident : isWithin 0 1 (triggerConfidence trigger) = true := by
    unfold triggerConfidence
    split <;> decide +kernel
  simp only [CompetitiveSignal.valid, competitiveSignal, textValue_filled (by decide :
    "A market competitor" ≠ ""), summary_filled, url, confident, Bool.and_self]

/-- Only the quoted post can break the bounds of a community signal. -/
theorem communitySignal_valid {trigger : BriefTrigger} (source : trigger.source ≠ "")
    (motion : MotionLabel) :
    (communitySignal trigger motion).valid = true ↔ postLength trigger ≤ 280 := by
  have confident : isWithin 0 1 (triggerConfidence trigger) = true := by
    unfold triggerConfidence
    split <;> decide +kernel
  rw [← samplePost_fits]
  simp [CommunitySignal.valid, communitySignal, textValue_filled source, summary_filled, confident]

theorem triggeredOpportunity_valid {opportunityId : String} (id : isUuid opportunityId = true)
    (trigger : BriefTrigger) (motion : MotionLabel) :
    (triggeredOpportunity opportunityId trigger motion).valid = true := by
  have score : isWithin 0 2 (triggeredOpportunity opportunityId trigger motion).score = true := by
    unfold triggeredOpportunity
    dsimp only
    split <;> decide +kernel
  have title : isFilled (triggeredOpportunity opportunityId trigger motion).title = true :=
    suffixed_filled (by decide)
  have rationale : isFilled (triggeredOpportunity opportunityId trigger motion).rationale = true :=
    summary_filled trigger
  have id_ : isUuid (triggeredOpportunity opportunityId trigger motion).opportunity_id = true := id
  simp only [BriefOpportunityRef.valid, score, title, rationale, id_, Bool.and_self]

theorem baselineOpportunity_valid {opportunityId : String} (id : isUuid opportunityId = true)
    (motion : MotionLabel) : (baselineOpportunity opportunityId motion).valid = true := by
  have title : isFilled ("Baseline " ++ motion.spoken ++ " opportunity") = true :=
    suffixed_filled (by decide)
  have score : isWithin 0 2 (1 / 2) = true := by decide +kernel
  have rationale : isFilled (baselineOpportunity opportunityId motion).rationale = true :=
    bne_iff_ne.mpr (by simp [baselineOpportunity])
  simp only [BriefOpportunityRef.valid, rationale]
  simp only [baselineOpportunity, id, title, score, Bool.and_self]

/-- What an accepted request promises its brief. -/
structure Checked (request : IntelBriefRequestedV1) : Prop where
  tenant : isUuid request.tenant_id = true
  experiment : request.experiment_id.all isUuid = true
  from_ : isDayText request.period_from = true
  to_ : isDayText request.period_to = true
  source : ∀ trigger, request.trigger = some trigger → trigger.source ≠ ""

theorem matching_eq_some {pattern : String → Bool} {j : Json} {s : String}
    (h : matching pattern j = some s) : pattern s = true := by
  cases j with
  | str t =>
    simp only [matching] at h
    split at h
    · cases h
      assumption
    · cases h
  | null => cases h
  | bool b => cases h
  | num n => cases h
  | arr items => cases h
  | obj fields => cases h

theorem readTrigger_source {j : Json} {trigger : BriefTrigger}
    (h : Signals.readTrigger j = some trigger) : trigger.source ≠ "" := by
  cases j with
  | obj p =>
    simp only [Signals.readTrigger, Option.bind_eq_bind, Option.bind_eq_some_iff] at h
    obtain ⟨_, _, _, _, source, read, _, _, _, _, _, _, _, _, same⟩ := h
    cases same
    obtain ⟨j, _, sized_⟩ := required_eq_some read
    have bounds := matching_eq_some sized_
    simp only [Bool.and_eq_true, decide_eq_true_eq] at bounds
    exact jsLength_pos.mp bounds.1
  | null => cases h
  | bool b => cases h
  | num n => cases h
  | str s => cases h
  | arr items => cases h

theorem accepted_checked {input : Payload} (h : intelBriefRequestedV1Schema input = some request) :
    Checked request := by
  simp only [intelBriefRequestedV1Schema, Option.bind_eq_bind, Option.bind_eq_some_iff] at h
  obtain ⟨_, _, request_id, _, tenant_id, tenant, experiment_id, experiment, period_from, from_,
    period_to, to_, requested_by, _, motion_context, _, trigger, triggered, same⟩ := h
  cases same
  obtain ⟨_, _, tenant⟩ := required_eq_some tenant
  obtain ⟨_, _, from_⟩ := required_eq_some from_
  obtain ⟨_, _, to_⟩ := required_eq_some to_
  refine ⟨uuid_eq_some tenant, optional_all experiment fun _ _ => uuid_eq_some,
    matching_eq_some from_, matching_eq_some to_, ?_⟩
  intro t same
  subst same
  unfold Zod.optional at triggered
  split at triggered
  · cases triggered
  · obtain ⟨a, read, same⟩ := Option.map_eq_some_iff.mp triggered
    cases same
    exact readTrigger_source read

/-- The one bound the generator may miss is that of the quoted post. -/
theorem deterministicBrief_valid (checked : Checked request) {opportunityId briefId : String}
    (opportunity : isUuid opportunityId = true) (brief : isUuid briefId = true) :
    (deterministicBrief d.runtime request opportunityId briefId d.now.toISOString).valid
        d.runtime.isUrl = true ↔ quotesShort request = true := by
  have focus : ∀ s, s ≠ "" → isFilled (icpContext request ++ s) = true := fun s => suffixed_filled
  cases triggered : request.trigger with
  | none =>
    have base := baselineOpportunity_valid opportunity (primaryMotionOf request)
    have filled := focus _ (bne_iff_ne.mp (suffixed_filled (a := "Focus on " ++
      (primaryMotionOf request).spoken) (by decide :
      " while collecting source-backed market signals." ≠ "")))
    simp [deterministicBrief, IntelBriefV1.valid, signalBackedBriefFields, quotesShort, triggered,
      checked.tenant, checked.experiment, checked.from_, checked.to_, brief, d.now.datetime, base,
      filled]
  | some trigger =>
    have opened := triggeredOpportunity_valid opportunity trigger (primaryMotionOf request)
    by_cases competitor : startsWith trigger.kind "competitor." = true
    · have filled := focus _ (bne_iff_ne.mp (suffixed_filled (a := "Respond to the verified " ++
        sentenceCase trigger.kind ++ " signal with evidence-backed " ++
        (primaryMotionOf request).spoken) (by decide : " content." ≠ "")))
      simp [deterministicBrief, IntelBriefV1.valid, signalBackedBriefFields, quotesShort, triggered, competitor,
        checked.tenant, checked.experiment, checked.from_, checked.to_, brief, d.now.datetime,
        opened, filled, competitiveSignal_valid]
    · have filled := focus _ (bne_iff_ne.mp (suffixed_filled (a :=
        "Address the observed audience signal through " ++ (primaryMotionOf request).spoken)
        (by decide : " with the source context retained for review." ≠ "")))
      have community := communitySignal_valid (checked.source trigger triggered)
        (primaryMotionOf request)
      simp [deterministicBrief, IntelBriefV1.valid, signalBackedBriefFields, quotesShort, triggered, competitor,
        checked.tenant, checked.experiment, checked.from_, checked.to_, brief, d.now.datetime,
        opened, filled, community]

/-- Two uuids are drawn and the built brief is checked. -/
theorem generate_run (d : Deployment) (request : IntelBriefRequestedV1) (w : World) :
    (generateDeterministicBrief d request).run w =
      let brief := deterministicBrief d.runtime request (d.uuids.text (w.drawn + 1))
        (d.uuids.text (w.drawn + 2)) d.now.toISOString
      (if brief.valid d.runtime.isUrl = true then .ok brief else .error .zod,
        { w with drawn := w.drawn + 2 }) := by
  unfold generateDeterministicBrief randomUUID checked
  simp only [Store.run_bind, Store.run_read, Store.run_modify, Store.run_pure]
  split <;> rfl

/-- A brief comes from an accepted request only where the post it quotes fits. -/
theorem generates_short {d : Deployment} {input : Payload}
    (accepted : intelBriefRequestedV1Schema input = some request) (generates : Generates d request) :
    quotesShort request = true := by
  have valid := deterministicBrief_valid (accepted_checked accepted) (d.uuids.uuid 1)
    (d.uuids.uuid 2) (d := d)
  obtain ⟨brief, w', run, _⟩ := generates ⟨.empty, 0, 0⟩
  refine valid.mp ?_
  by_contra refused
  rw [generate_run] at run
  simp only [Nat.zero_add, refused, Bool.false_eq_true, ↓reduceIte, Prod.mk.injEq, reduceCtorEq,
    false_and] at run

/-- The fallback produces a brief from an accepted request exactly where the
post it quotes of a signal fits, or the signal is about a competitor. -/
theorem fallback_generates_iff (d : Deployment) {input : Payload}
    (accepted : intelBriefRequestedV1Schema input = some request) :
    Generates d request ↔ quotesShort request = true := by
  constructor
  · exact generates_short accepted
  · intro fits w
    have valid := deterministicBrief_valid (accepted_checked accepted)
      (d.uuids.uuid (w.drawn + 1)) (d.uuids.uuid (w.drawn + 2)) (d := d)
    have admitted := valid.mpr fits
    have run := generate_run d request w
    simp only [admitted, ↓reduceIte] at run
    exact ⟨_, _, run, admitted⟩

end

/-- A runtime as it treats texts without capitals, JSON or links. -/
def plainRuntime : Runtime where
  toLowerCase s := s
  jsonParse _ := none
  numberText n := Text.decimal n.num.toNat
  sha256 s := s
  urlText _ := none
  urlText_again _ _ h := by cases h

def sameUuid : Uuids where
  text _ := "33333333-3333-4333-8333-333333333333"
  uuid _ := by decide

def today : Moment where
  time := 1784462400000
  past := by decide
  early := by decide

def plain : Deployment := { runtime := plainRuntime, uuids := sameUuid, now := today }

def post (text : String) : Payload :=
  [("schema_version", .str "intel_brief_requested.v1"),
    ("request_id", .str "44444444-4444-4444-8444-444444444444"),
    ("tenant_id", .str "11111111-1111-4111-8111-111111111111"),
    ("period_from", .str "2026-07-19"), ("period_to", .str "2026-07-19"),
    ("trigger", .obj [("signal_id", .str "7"), ("signal_type", .str "community"),
      ("source", .str "reddit"), ("kind", .str "community.question"), ("priority", .str "P2"),
      ("payload", .obj [("text", .str text)]), ("occurred_at", .str "2026-07-19T12:00:00Z")])]

theorem short_post_generates : ∃ request,
    intelBriefRequestedV1Schema (post "How do you price pilots?") = some request ∧
      Generates plain request := by
  have short : ((intelBriefRequestedV1Schema (post "How do you price pilots?")).any quotesShort) =
      true := by
    decide
  obtain ⟨request, accepted, fits⟩ := (Option.any_eq_true _ _).mp short
  exact ⟨request, accepted, (fallback_generates_iff plain accepted).mpr fits⟩

/-- A post of 281 letters. -/
def longPost : Payload := post (String.ofList (List.replicate 281 'a'))

/-- What is read of a post with a text that has nothing to trim and does not fit. -/
theorem post_long {text : String} (trimmed : jsTrim text = text) (long : 280 < jsLength text) :
    ∃ request, intelBriefRequestedV1Schema (post text) = some request ∧
      quotesShort request = false := by
  obtain ⟨request, trigger, accepted, triggered, kind, payload⟩ : ∃ request trigger,
      intelBriefRequestedV1Schema (post text) = some request ∧ request.trigger = some trigger ∧
        trigger.kind = "community.question" ∧ trigger.payload = [("text", .str text)] :=
    ⟨_, _, rfl, rfl, rfl, rfl⟩
  have filled : text ≠ "" := jsLength_pos.mp (by omega)
  have quotes : quoted trigger = some text := by
    rw [quoted, payload]
    simp [nullish, nonEmptyString, trimmed, filled]
  have other : startsWith trigger.kind "competitor." = false := by
    rw [kind]
    decide
  refine ⟨request, accepted, ?_⟩
  rw [quotesShort, triggered, Option.all_some, other, postLength, quotes]
  simpa using long

theorem long_post_throws : ¬ ∀ (d : Deployment) (input : Payload) (request : IntelBriefRequestedV1),
    intelBriefRequestedV1Schema input = some request → Generates d request := by
  intro claim
  have trimmed : jsTrim (String.ofList (List.replicate 281 'a')) =
      String.ofList (List.replicate 281 'a') := by
    refine jsTrim_plain fun c member => ?_
    rw [String.toList_ofList] at member
    rw [List.eq_of_mem_replicate member]
    decide
  have long : 280 < jsLength (String.ofList (List.replicate 281 'a')) := by
    rw [jsLength_ofList, List.map_replicate, List.sum_replicate]
    decide
  obtain ⟨request, accepted, refused⟩ := post_long trimmed long
  have short := generates_short accepted (claim plain longPost request accepted)
  rw [refused] at short
  cases short

end VantGrowth.Proofs.FallbackBriefs
