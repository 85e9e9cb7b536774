import VantGrowth.Content.BlogDraft
import VantGrowth.Content.Critique
import VantGrowth.Proofs.FallbackBriefs

namespace VantGrowth.Proofs.DraftFallbacks
open Core Db Lib Lib.Text Content FallbackBriefs

/-- One delivery of a brief, which counts its own calls of the model. -/
def deliver (d : Deployment) (input : Payload) : Work BlogDraftV1 := do
  Store.modify fun w => { w with calls := 0 }
  BlogDraftWorker.processBrief d input

/-- The delivery returns a draft the critique takes, and the outbox then holds
one event for the brief and iteration. -/
def Survives (d : Deployment) (input : Payload) (w : World) : Prop :=
  ∃ draft w', (deliver d input).run w = (.ok draft, w') ∧
    (createBlogDraftCritiqueRequest d.runtime draft.toPayload).isSome = true ∧
    w'.outbox.Consistent ∧
    (eventsAt w'.outbox draft.tenant_id "blog_draft.v1"
      (join "blog-draft" (join draft.brief_id (d.runtime.numberText draft.iteration)))).length = 1

/-- Every delivery in turn survives. -/
def AllSurvive (input : Payload) : List Deployment → World → Prop
  | [], _ => True
  | d :: ds, w => Survives d input w ∧ AllSurvive input ds ((deliver d input).run w).2

/-- What the model says of a delivery, trimmed: nothing at all, or at least 100
code units. -/
def saysEnough (d : Deployment) : Bool :=
  ((d.llmCallRunner.bind (· 0)).map jsTrim).all fun body => body == "" || 100 ≤ jsLength body

section
variable {d : Deployment} {brief : ContentBriefV1}

theorem meta_fits (hook : String) :
    jsLength (jsTrimEnd (jsSlice 157 hook) ++ if 157 < jsLength hook then "..." else "") ≤ 160 := by
  have cut := jsLength_trimEnd (jsSlice 157 hook)
  have dots : jsLength "..." = 3 := by decide
  have none_ : jsLength "" = 0 := by decide
  rw [jsLength_slice] at cut
  rw [jsLength_append]
  split
  · omega
  · omega

/-- Around a valid brief only the body can break the bounds of a draft. -/
theorem draftOf_valid (r : Runtime) (valid : brief.valid = true) {draftId : String}
    (id : isUuid draftId = true) (now : Moment) {body : String} (said : 0 < countWords body) :
    (draftOf brief draftId now.toISOString body).valid r.isUrl = true ↔ 100 ≤ jsLength body := by
  have positive : ∀ n : Nat, 0 < n → isPositiveInt (n : ℚ) = true := by
    intro n hn
    simp [isPositiveInt, hn]
  have one : isPositiveInt 1 = true := by decide
  have time : isPositiveInt (max 1 ((countWords body + 199) / 200 : Nat)) = true := by
    exact_mod_cast positive (max 1 ((countWords body + 199) / 200)) (by omega)
  have counted := positive _ said
  have indicators : ∀ a b (n : Nat), DraftQualityIndicators.valid ⟨none, none, a, b, n⟩ = true := by
    intro a b n
    simp [DraftQualityIndicators.valid]
  have fits := meta_fits brief.hook
  simp only [ContentBriefV1.valid, Bool.and_eq_true] at valid
  simp only [BlogDraftV1.valid, draftOf, valid, id, now.datetime, one, time, counted, indicators,
    fits, decide_true, List.all_nil, Bool.and_true, Bool.true_and]
  exact decide_eq_true_iff

theorem trimmed_words {body : String} (filled : jsTrim body ≠ "") : 0 < countWords (jsTrim body) := by
  refine List.length_pos_iff.mpr (words_filled.mpr ?_)
  cases chars : (jsTrim body).toList with
  | nil => exact absurd (String.toList_eq_nil_iff.mp chars) filled
  | cons c cs => exact ⟨c, by simp, jsTrim_head (s := body) (by simp [chars])⟩

/-- The placeholder paragraph of a key point alone is long enough. -/
theorem bodyMarkdown_long (r : Runtime) (valid : brief.valid = true) :
    100 ≤ jsLength (bodyMarkdown r brief) := by
  simp only [ContentBriefV1.valid, Bool.and_eq_true, decide_eq_true_eq, List.all_eq_true] at valid
  obtain ⟨s, inside⟩ : ∃ s, s ∈ brief.outline := List.exists_mem_of_length_pos (by omega)
  have shape := valid.1.1.1.1.1.1.1.2 s inside
  simp only [BriefOutlineSection.valid, Bool.and_eq_true, Bool.not_eq_true',
    List.isEmpty_eq_false_iff] at shape
  obtain ⟨point, said⟩ := List.exists_mem_of_ne_nil _ shape.1.2
  have paragraph : 100 ≤ jsLength
      ((if point.toList.getLast? = some '.' then point else point ++ ".") ++ PLACEHOLDER) := by
    have placeholder : 100 ≤ jsLength PLACEHOLDER := by decide
    rw [jsLength_append]
    omega
  have line : 100 ≤ jsLength (renderSection r s) := by
    refine paragraph.trans (jsLength_intercalate _ ?_)
    have rendered : (if point.toList.getLast? = some '.' then point else point ++ ".") ++ PLACEHOLDER ∈
        s.key_points.flatMap renderPoint := List.mem_flatMap.mpr ⟨point, said, by simp [renderPoint]⟩
    simp [rendered]
  have sections := jsLength_intercalate "\n" (List.mem_map_of_mem (f := renderSection r) inside)
  simp only [bodyMarkdown, jsLength_append]
  omega

theorem bodyMarkdown_words (r : Runtime) (brief : ContentBriefV1) :
    0 < countWords (bodyMarkdown r brief) := by
  refine List.length_pos_iff.mpr (words_filled.mpr ⟨'#', ?_, by decide⟩)
  simp [bodyMarkdown, String.toList_append]

theorem generate_run (d : Deployment) (valid : brief.valid = true) (w : World) :
    (generateBlogDraft d brief).Ends w fun x w' => w'.outbox = w.outbox ∧
      ∃ draft, x = .ok draft ∧ draft.valid d.runtime.isUrl = true := by
  have built := (draftOf_valid d.runtime valid (d.uuids.uuid (w.drawn + 1)) d.now
    (bodyMarkdown_words d.runtime brief)).mpr (bodyMarkdown_long d.runtime valid)
  simp [Store.Ends, generateBlogDraft, Store.run_bind, built]

/-- The model's draft stands in only where it is long enough; a shorter one
throws. -/
theorem generateLlm_run (d : Deployment) (valid : brief.valid = true) (runner : LlmCallRunner)
    (w : World) :
    (generateLlmBlogDraft d brief runner).Ends w fun x w' => w'.outbox = w.outbox ∧
      match (runner w.calls).map jsTrim with
      | none => x = .ok none
      | some body =>
        if body = "" then x = .ok none
        else if 100 ≤ jsLength body then
          ∃ draft, x = .ok (some draft) ∧ draft.valid d.runtime.isUrl = true
        else x = .error .zod := by
  simp only [Store.Ends, generateLlmBlogDraft, Store.run_bind, callRunner_run]
  cases said : runner w.calls with
  | none => simp
  | some answer =>
    simp only [Option.map_some]
    by_cases blank : jsTrim answer = ""
    · simp [blank]
    · have built := draftOf_valid d.runtime valid (d.uuids.uuid (w.drawn + 1)) d.now
        (trimmed_words blank)
      simp only [blank, ↓reduceIte, Store.run_bind, randomUUID_run, checked_run, built]
      by_cases long : 100 ≤ jsLength (jsTrim answer)
      · simp [long, built]
      · simp [long]

theorem draftFor_run (d : Deployment) (valid : brief.valid = true) (w : World)
    (fresh : w.calls = 0) :
    (draftFor d brief).Ends w fun x w' => w'.outbox = w.outbox ∧
      ((∃ draft, x = .ok draft ∧ draft.valid d.runtime.isUrl = true) ∧ saysEnough d = true ∨
        x = .error .zod ∧ saysEnough d = false) := by
  unfold draftFor
  cases wired : d.llmCallRunner with
  | none =>
    refine (generate_run d valid w).weaken fun x w' ⟨same, drafted⟩ => ⟨same, Or.inl ⟨drafted, ?_⟩⟩
    simp [saysEnough, wired]
  | some runner =>
    have said : saysEnough d =
        ((runner w.calls).map jsTrim).all fun body => body == "" || 100 ≤ jsLength body := by
      simp [saysEnough, wired, fresh]
    rw [said]
    refine (generateLlm_run d valid runner w).bind ?_ ?_
    · intro e w' ⟨same, ended⟩
      refine ⟨same, Or.inr ?_⟩
      cases answer : (runner w.calls).map jsTrim with
      | none => simp [answer] at ended
      | some body =>
        rw [answer] at ended
        by_cases blank : body = ""
        · simp [blank] at ended
        · by_cases long : 100 ≤ jsLength body
          · simp [blank, long] at ended
          · simp only [blank, long, ↓reduceIte] at ended
            cases ended
            exact ⟨rfl, by simp [blank, long]⟩
    · intro drafted w' ⟨same, ended⟩
      cases answer : (runner w.calls).map jsTrim with
      | none =>
        rw [answer] at ended
        cases ended
        exact (generate_run d valid w').weaken fun x w'' ⟨kept, done⟩ =>
          ⟨kept.trans same, Or.inl ⟨done, rfl⟩⟩
      | some body =>
        rw [answer] at ended
        by_cases blank : body = ""
        · simp only [blank, ↓reduceIte] at ended
          cases ended
          exact (generate_run d valid w').weaken fun x w'' ⟨kept, done⟩ =>
            ⟨kept.trans same, Or.inl ⟨done, by simp [blank]⟩⟩
        · by_cases long : 100 ≤ jsLength body
          · simp only [blank, long, ↓reduceIte] at ended
            obtain ⟨draft, written, fits⟩ := ended
            cases written
            exact ⟨same, Or.inl ⟨⟨draft, rfl, fits⟩, by simp [long]⟩⟩
          · simp [blank, long] at ended

/-- The critique takes every draft of the contract. -/
theorem critiqueRequest_made (r : Runtime) {draft : BlogDraftV1} (valid : draft.valid r.isUrl = true) :
    (createBlogDraftCritiqueRequest r draft.toPayload).isSome = true := by
  have read := blogDraft_accepted r.isUrl draft valid
  have id := deterministicUuid_filled r.sha256 ("critique:blog-draft:" ++ draft.draft_id)
  simp only [BlogDraftV1.valid, Bool.and_eq_true, decide_eq_true_eq] at valid
  obtain ⟨⟨⟨⟨⟨⟨⟨⟨⟨⟨⟨⟨tenant, experiment⟩, draftId⟩, _⟩, _⟩, _⟩, _⟩, _⟩, body⟩, _⟩, _⟩, _⟩, _⟩ := valid
  have artifact : draft.draft_id ≠ "" := by
    intro empty
    rw [empty] at draftId
    exact absurd draftId (by decide)
  have candidate : draft.body_markdown ≠ "" := jsLength_pos.mp (by omega)
  simp [createBlogDraftCritiqueRequest, read, CritiqueRequest.valid, isFilled, tenant, experiment,
    id, artifact, candidate]

theorem draftCommand_valid (r : Runtime) {draft : BlogDraftV1} (valid : draft.valid r.isUrl = true)
    (iteration : ℚ) : (createBlogDraftOutboxCommand r draft iteration).valid = true := by
  have named : isOutboxEventType "blog_draft.v1" = true := by decide
  simp only [BlogDraftV1.valid, Bool.and_eq_true] at valid
  simp [EnqueueOutboxEvent.valid, createBlogDraftOutboxCommand, named, join, valid]

theorem deliver_run (d : Deployment) {input : Payload} (accepted : contentBriefV1Schema input = some brief)
    {w : World} (h : w.outbox.Consistent) :
    (deliver d input).Ends w fun x w' =>
      (∃ draft, x = .ok draft ∧ draft.valid d.runtime.isUrl = true ∧
        InMemoryOutboxRepository.Sends (createBlogDraftOutboxCommand d.runtime draft draft.iteration)
          w.outbox w'.outbox) ∧ saysEnough d = true ∨
      x = .error .zod ∧ saysEnough d = false := by
  have valid := (Option.filter_eq_some_iff.mp accepted).2
  refine Store.Ends.modify_bind ?_
  rw [BlogDraftWorker.processBrief, accepted]
  refine Store.Ends.pure_bind ((draftFor_run d valid _ rfl).bind ?_ ?_)
  · intro e w' ⟨_, ended⟩
    rcases ended with ⟨⟨_, done, _⟩, _⟩ | refused
    · cases done
    · exact Or.inr refused
  · intro draft w' ⟨same, ended⟩
    rcases ended with ⟨⟨_, done, fits⟩, enough⟩ | ⟨refused, _⟩
    · cases done
      refine (enqueue_sends d (same ▸ h) (draftCommand_valid d.runtime fits draft.iteration)).bind
        ?_ ?_
      · rintro e w'' ⟨⟨_, done⟩, _⟩
        cases done
      · rintro event w'' ⟨_, sends, _⟩
        rw [same] at sends
        exact Store.Ends.pure (Or.inl ⟨⟨draft, rfl, fits, sends⟩, enough⟩)
    · cases refused

theorem survives_iff (d : Deployment) {input : Payload} (accepted : contentBriefV1Schema input = some brief)
    {w : World} (h : w.outbox.Consistent) : Survives d input w ↔ saysEnough d = true := by
  have ended := deliver_run d accepted h
  unfold Store.Ends at ended
  constructor
  · rintro ⟨draft, w', run, _⟩
    rw [run] at ended
    rcases ended with ⟨_, enough⟩ | ⟨refused, _⟩
    · exact enough
    · cases refused
  · intro enough
    rcases ended with ⟨⟨draft, done, fits, sends⟩, _⟩ | ⟨_, short⟩
    · obtain ⟨e, stored, same⟩ := sends.holds
      exact ⟨draft, _, Prod.ext done rfl, critiqueRequest_made d.runtime fits, sends.consistent,
        congrArg List.length (eventsAt_single sends.consistent _ stored same)⟩
    · rw [enough] at short
      cases short

/-- Every delivery of an accepted brief survives exactly where the model, where
it says anything at all, says at least 100 code units. -/
theorem deliveries_survive_iff {input : Payload} {w : World} (ds : List Deployment)
    (accepted : contentBriefV1Schema input = some brief) (h : w.outbox.Consistent) :
    AllSurvive input ds w ↔ ∀ d ∈ ds, saysEnough d = true := by
  induction ds generalizing w with
  | nil => simp [AllSurvive]
  | cons d ds ih =>
    rw [AllSurvive, List.forall_mem_cons, survives_iff d accepted h]
    refine and_congr_right fun enough => ?_
    obtain ⟨draft, w', run, _, kept, _⟩ := (survives_iff d accepted h).mpr enough
    rw [run]
    exact ih kept

end

/-- Four sections of one point each. -/
def pricing : ContentBriefV1 where
  tenant_id := "11111111-1111-4111-8111-111111111111"
  experiment_id := none
  brief_id := "22222222-2222-4222-8222-222222222222"
  opportunity_id := "44444444-4444-4444-8444-444444444444"
  generated_at := "2026-07-19T12:00:00.000Z"
  title := "Pricing"
  hook := "Pilots need prices"
  target_audience := ["founders"]
  search_intent := .informational
  primary_keyword := "pricing"
  secondary_keywords := []
  outline := List.replicate 4 { section_title := "Why", key_points := ["Price early"] }
  tone_notes := "plain"
  claims_to_avoid := []
  internal_links_suggested := []
  cta := "Book a call"
  estimated_word_count := 800
  motion_fit := [.inbound_content]
  confidence_score := 1 / 2

theorem pricing_accepted : contentBriefV1Schema pricing.toPayload = some pricing :=
  contentBrief_accepted pricing (by decide +kernel)

/-- A model that answers every call with a text. -/
def saying (answer : Option String) : Deployment := { plain with llmCallRunner := some fun _ => answer }

theorem quiet_models_survive :
    AllSurvive pricing.toPayload [plain, saying none, saying (some " ")] ⟨.empty, 0, 0⟩ :=
  (deliveries_survive_iff _ pricing_accepted InMemoryOutboxRepository.empty_consistent).mpr
    (by decide)

/-- A draft of one word is thrown out and nothing stands in for it. -/
theorem short_answer_throws : ¬ ∀ (input : Payload) (brief : ContentBriefV1) (ds : List Deployment)
    (w : World), contentBriefV1Schema input = some brief → w.outbox.Consistent →
      AllSurvive input ds w := by
  intro claim
  have survived := claim pricing.toPayload pricing [saying (some "Soon.")] ⟨.empty, 0, 0⟩
    pricing_accepted InMemoryOutboxRepository.empty_consistent
  have enough := (survives_iff _ pricing_accepted InMemoryOutboxRepository.empty_consistent).mp
    survived.1
  exact absurd enough (by decide)

end VantGrowth.Proofs.DraftFallbacks
