import Mathlib.Tactic.NormNum
import VantGrowth.Content.Strategist
import VantGrowth.Proofs.FallbackBriefs

namespace VantGrowth.Proofs.OpportunityFanOut
open Core Db Lib Lib.Text Content FallbackBriefs ContentStrategistWorker

/-- A writing brief can be had for an opportunity at a call of the model: the
model's own, or one whose keyword is a slug. -/
def admits (d : Deployment) (opportunity : ContentOpportunityV1) (call : Nat) : Bool :=
  ((d.llmCallRunner.bind (· call)).bind (readLlmContentBrief d opportunity)).isSome ||
    (d.runtime.toLowerCase opportunity.title).toList.any isSlugChar

/-- One can be had for each opportunity in turn, from a call of the model on. -/
def clears (d : Deployment) (brief : IntelBriefV1) : Nat → List BriefOpportunityRef → Bool
  | _, [] => true
  | call, ref :: refs =>
    admits d (opportunityOf d brief ref) call && clears d brief (call + 1) refs

/-- An event of the content queues holds what their schemas take. -/
def contractual (r : Runtime) (e : StoredOutboxEvent) : Bool :=
  (e.eventType != "content_opportunity.v1" ||
    (contentOpportunityV1Schema r.isUrl e.payload).isSome) &&
  (e.eventType != "content_brief.v1" || (contentBriefV1Schema e.payload).isSome)

/-- What the strategist keeps true of the outbox. -/
structure Sound (r : Runtime) (o : InMemoryOutboxRepository) : Prop where
  consistent : o.Consistent
  contractual : ∀ e ∈ o.events, contractual r e = true

def opportunityKey (brief : IntelBriefV1) (ref : BriefOpportunityRef) : String :=
  join "content-opportunity" (join brief.brief_id ref.opportunity_id)

def briefKey (brief : IntelBriefV1) (ref : BriefOpportunityRef) : String :=
  join "content-brief" (join brief.brief_id ref.opportunity_id)

/-- The outbox holds one event of each queue for an opportunity, and the queues'
schemas take them. -/
def HoldsBoth (r : Runtime) (o : InMemoryOutboxRepository) (brief : IntelBriefV1)
    (ref : BriefOpportunityRef) : Prop :=
  (∃ e, eventsAt o brief.tenant_id "content_opportunity.v1" (opportunityKey brief ref) = [e] ∧
    (contentOpportunityV1Schema r.isUrl e.payload).isSome = true) ∧
  ∃ e, eventsAt o brief.tenant_id "content_brief.v1" (briefKey brief ref) = [e] ∧
    (contentBriefV1Schema e.payload).isSome = true

/-- The strategist gets through the brief, every opportunity of which then has
its two events, and whatever it is wired to it adds nothing the next time. -/
def FansOut (d : Deployment) (input : Payload) (brief : IntelBriefV1) (w : World) : Prop :=
  ∃ result w', (processBrief d input).run w = (.ok result, w') ∧
    (∀ ref ∈ brief.content_opportunities, HoldsBoth d.runtime w'.outbox brief ref) ∧
    ∀ again : Deployment, again.runtime = d.runtime → ∀ v : World, v.outbox = w'.outbox →
      ((processBrief again input).run v).2.outbox = w'.outbox

theorem slugChar_not_space {c : Char} (h : isSlugChar c = true) : isSpaceChar c = false := by
  have small : ∀ n < 123, isSlugChar (Char.ofNat n) = true → isSpaceChar (Char.ofNat n) = false := by
    decide
  have bound : c.toNat < 123 := by
    simp only [isSlugChar, Bool.or_eq_true, Bool.and_eq_true, decide_eq_true_eq, Char.le_def,
      UInt32.le_iff_toNat_le] at h
    have upper : 'z'.val.toNat = 122 := rfl
    have digit : '9'.val.toNat = 57 := rfl
    show c.val.toNat < 123
    omega
  have named : Char.ofNat c.toNat = c := Char.ofNat_toNat c
  exact named ▸ small c.toNat bound (named.symm ▸ h)

/-- A slug is empty exactly where the lowercased title holds no ASCII letter or
digit. -/
theorem slug_filled_iff (r : Runtime) (title : String) :
    isFilled (titleSlug r title) = true ↔ (r.toLowerCase title).toList.any isSlugChar = true := by
  have said : words ((r.toLowerCase title).toList.filter fun c => isSlugChar c || isSpaceChar c) ≠ [] ↔
      (r.toLowerCase title).toList.any isSlugChar = true := by
    rw [words_filled, List.any_eq_true]
    constructor
    · rintro ⟨c, member, filled⟩
      obtain ⟨inside, kept⟩ := List.mem_filter.mp member
      rw [filled, Bool.or_false] at kept
      exact ⟨c, inside, kept⟩
    · rintro ⟨c, inside, slug⟩
      exact ⟨c, List.mem_filter.mpr ⟨inside, by simp [slug]⟩, slugChar_not_space slug⟩
  rw [← said]
  unfold titleSlug isFilled
  dsimp only
  cases split_ : words ((r.toLowerCase title).toList.filter fun c => isSlugChar c || isSpaceChar c) with
  | nil => simp
  | cons first rest =>
    have filled : first ≠ [] := words_ne_nil (split_ ▸ List.mem_cons_self)
    have inside : String.ofList first ∈ ((first :: rest).take 4).map String.ofList := by simp
    have long := jsLength_intercalate "-" inside
    have letters : 0 < jsLength (String.ofList first) := jsLength_pos.mpr fun empty =>
      filled (by simpa using congrArg String.toList empty)
    have whole := jsLength_pos.mp (letters.trans_le long)
    exact ⟨fun _ => List.cons_ne_nil _ _, fun _ => bne_iff_ne.mpr whole⟩

section
variable {d : Deployment} {brief : IntelBriefV1} {ref : BriefOpportunityRef}

theorem evidenceOf_valid (valid : brief.valid d.runtime.isUrl = true) :
    (evidenceOf brief).all (·.valid d.runtime.isUrl) = true := by
  simp only [IntelBriefV1.valid, Bool.and_eq_true, List.all_eq_true] at valid
  refine List.all_eq_true.mpr fun e member => ?_
  have said : ∀ a b : String, isFilled (a ++ ": " ++ b) = true := fun a b =>
    prefixed_filled (bne_iff_ne.mp (suffixed_filled (by decide : ": " ≠ "")))
  rcases List.mem_append.mp member with there | there
  · obtain ⟨signal, inside, rfl⟩ := List.mem_map.mp there
    have bounds := valid.1.1.1.1.2 signal inside
    simp only [CompetitiveSignal.valid, Bool.and_eq_true] at bounds
    have url : (signal.source_url.filter (· != "")).all d.runtime.isUrl = true := by
      cases link : signal.source_url with
      | none => rfl
      | some link_ =>
        have checked := bounds.1.2
        rw [link] at checked
        by_cases empty : link_ = ""
        · simp [empty]
        · simpa [empty] using checked
    simp [OpportunityEvidence.valid, said, url]
  · obtain ⟨signal, inside, rfl⟩ := List.mem_map.mp there
    simp [OpportunityEvidence.valid, said]

/-- Every opportunity of a brief expands. -/
theorem opportunityOf_valid (valid : brief.valid d.runtime.isUrl = true)
    (inside : ref ∈ brief.content_opportunities) :
    (opportunityOf d brief ref).valid d.runtime.isUrl = true := by
  have evidence := evidenceOf_valid valid
  simp only [IntelBriefV1.valid, Bool.and_eq_true, List.all_eq_true] at valid
  have bounds := valid.1.1.2 ref inside
  simp only [BriefOpportunityRef.valid, Bool.and_eq_true] at bounds
  have hypothesis : OpportunityEvidence.valid d.runtime.isUrl unsupported = true := by
    simp [OpportunityEvidence.valid, isFilled, unsupported]
  have hook : 10 ≤ jsLength (opportunityOf d brief ref).hook := by
    have start : jsLength "Learn why " = 10 := by decide
    simp only [opportunityOf, jsLength_append, start]
    omega
  have dated : isDatetime (opportunityOf d brief ref).created_at = true := d.now.datetime
  have motion : (opportunityOf d brief ref).motion_fit.isEmpty = false := by
    unfold opportunityOf
    dsimp only
    split
    · rfl
    · rename_i named
      exact List.isEmpty_eq_false_iff.mpr named
  have backed : (opportunityOf d brief ref).evidence.all (·.valid d.runtime.isUrl) = true ∧
      (opportunityOf d brief ref).evidence.isEmpty = false := by
    unfold opportunityOf
    dsimp only
    split
    · exact ⟨by simp [hypothesis], rfl⟩
    · rename_i some_
      exact ⟨evidence, List.isEmpty_eq_false_iff.mpr some_⟩
  have audience : (opportunityOf d brief ref).target_audience.all isFilled = true ∧
      (opportunityOf d brief ref).target_audience.isEmpty = false :=
    ⟨rfl, rfl⟩
  simp only [ContentOpportunityV1.valid, dated, motion, backed, audience, hook, decide_true,
    Bool.not_false, Bool.and_true]
  simp only [opportunityOf, valid, bounds, Bool.and_self]

/-- Around an expanded opportunity only the keyword can break the bounds of a
writing brief. -/
theorem contentBriefOf_valid {opportunity : ContentOpportunityV1}
    (valid : opportunity.valid d.runtime.isUrl = true) {briefId : String}
    (id : isUuid briefId = true) :
    (contentBriefOf d opportunity briefId).valid = true ↔
      isFilled (titleSlug d.runtime opportunity.title) = true := by
  simp only [ContentOpportunityV1.valid, Bool.and_eq_true, isWithin, decide_eq_true_eq] at valid
  have said : ∀ a b : String, b ≠ "" → isFilled (a ++ b) = true := fun a b => suffixed_filled
  have outline : ∀ motion, (briefOutline opportunity.title motion).all (·.valid) = true ∧
      (briefOutline opportunity.title motion).length = 5 := by
    intro motion
    have counts : isPositiveInt 200 = true ∧ isPositiveInt 400 = true ∧ isPositiveInt 350 = true ∧
        isPositiveInt 300 = true ∧ isPositiveInt 150 = true := by
      decide
    refine ⟨?_, rfl⟩
    simp [briefOutline, BriefOutlineSection.valid, isFilled, counts]
  have keywords : ∀ motion : MotionLabel,
      [motion.spoken, "growth strategy"].all isFilled = true := by
    intro motion
    cases motion <;> decide
  have tone : ∀ motion, isFilled (toneNotes motion) = true := by
    intro motion
    cases motion <;> decide
  have cta : ∀ motion : MotionLabel, isFilled ("Start your " ++ motion.spoken ++
      " motion — book a strategy session.") = true := by
    intro motion
    exact said _ _ (by decide)
  have words_ : isPositiveInt 1400 = true := by decide
  have confidence : isWithin 0 1 (min (opportunity.score / 2) 1) = true := by
    have least : 0 ≤ opportunity.score / 2 := div_nonneg valid.1.2.1 (by norm_num)
    simp [isWithin, least]
  simp only [ContentBriefV1.valid, contentBriefOf, valid, id, d.now.datetime, outline, keywords,
    tone, cta, words_, confidence]
  simp

theorem read_ids {p : Payload} {b : ContentBriefV1} (read : ContentBriefV1.read p = some b) :
    Zod.required p "tenant_id" Zod.text = some b.tenant_id ∧
      Zod.required p "opportunity_id" Zod.text = some b.opportunity_id := by
  unfold ContentBriefV1.read at read
  obtain ⟨_, _, read⟩ := Option.bind_eq_some_iff.mp read
  obtain ⟨tenant_id, tenant, read⟩ := Option.bind_eq_some_iff.mp read
  obtain ⟨_, _, read⟩ := Option.bind_eq_some_iff.mp read
  obtain ⟨_, _, read⟩ := Option.bind_eq_some_iff.mp read
  obtain ⟨opportunity_id, opportunity, read⟩ := Option.bind_eq_some_iff.mp read
  iterate 15 obtain ⟨_, _, read⟩ := Option.bind_eq_some_iff.mp read
  cases read
  exact ⟨tenant, opportunity⟩

/-- The model decides neither the tenant nor the opportunity. -/
theorem readLlm_spec {opportunity : ContentOpportunityV1} {content : String} {b : ContentBriefV1}
    (h : readLlmContentBrief d opportunity content = some b) :
    b.valid = true ∧ b.tenant_id = opportunity.tenant_id ∧
      b.opportunity_id = opportunity.opportunity_id := by
  unfold readLlmContentBrief at h
  split at h
  · rename_i raw _
    obtain ⟨read, valid⟩ := Option.filter_eq_some_iff.mp h
    have tenantThere : (augmentContentBrief opportunity d.now raw).lookup "tenant_id" =
        some (.str opportunity.tenant_id) := rfl
    have opportunityThere : (augmentContentBrief opportunity d.now raw).lookup "opportunity_id" =
        some (.str opportunity.opportunity_id) := by
      unfold augmentContentBrief
      cases opportunity.experiment_id <;> rfl
    obtain ⟨tenant, opportunity_⟩ := read_ids read
    simp only [Zod.required, tenantThere, opportunityThere, Option.bind_some, Zod.text,
      Option.some.injEq] at tenant opportunity_
    exact ⟨valid, tenant.symm, opportunity_.symm⟩
  · cases h

theorem generate_run {opportunity : ContentOpportunityV1}
    (valid : opportunity.valid d.runtime.isUrl = true) (w : World) :
    (generateContentBrief d opportunity).Ends w fun x w' => w'.outbox = w.outbox ∧
      w'.calls = w.calls ∧
      if (d.runtime.toLowerCase opportunity.title).toList.any isSlugChar then
        ∃ b, x = .ok b ∧ b.valid = true ∧ b.tenant_id = opportunity.tenant_id ∧
          b.opportunity_id = opportunity.opportunity_id
      else x = .error .zod := by
  have built := (contentBriefOf_valid valid (d.uuids.uuid (w.drawn + 1))).trans
    (slug_filled_iff d.runtime opportunity.title)
  simp only [Store.Ends, generateContentBrief, Store.run_bind, randomUUID_run, checked_run, built]
  refine ⟨trivial, trivial, ?_⟩
  split
  · rename_i slug
    exact ⟨_, rfl, built.mpr slug, rfl, rfl⟩
  · rfl

theorem contentBriefFor_run {opportunity : ContentOpportunityV1}
    (valid : opportunity.valid d.runtime.isUrl = true) (w : World) :
    (contentBriefFor d opportunity).Ends w fun x w' => w'.outbox = w.outbox ∧
      (d.llmCallRunner = none ∨ w'.calls = w.calls + 1) ∧
      if admits d opportunity w.calls then
        ∃ b, x = .ok b ∧ b.valid = true ∧ b.tenant_id = opportunity.tenant_id ∧
          b.opportunity_id = opportunity.opportunity_id
      else x = .error .zod := by
  unfold contentBriefFor admits
  cases d.llmCallRunner with
  | none =>
    refine (generate_run valid w).weaken fun x w' ⟨same, _, ended⟩ => ⟨same, Or.inl rfl, ?_⟩
    simpa only [Option.bind_none, Option.isSome_none, Bool.false_or] using ended
  | some runner =>
    have asked : (generateLlmContentBrief d opportunity runner).Ends w fun x w' =>
        x = .ok ((runner w.calls).bind (readLlmContentBrief d opportunity)) ∧
          w'.outbox = w.outbox ∧ w'.calls = w.calls + 1 := ⟨rfl, rfl, rfl⟩
    refine asked.bind ?_ ?_
    · rintro e t ⟨thrown, _⟩
      cases thrown
    · rintro answer t ⟨done, same, called⟩
      cases done
      rw [Option.bind_some]
      cases read : (runner w.calls).bind (readLlmContentBrief d opportunity) with
      | some b =>
        obtain ⟨content, _, stated⟩ := Option.bind_eq_some_iff.mp read
        refine Store.Ends.pure ⟨same, Or.inr called, ?_⟩
        simpa using readLlm_spec stated
      | none =>
        refine (generate_run valid t).weaken fun x w' ⟨kept, counted, ended⟩ =>
          ⟨kept.trans same, Or.inr (counted.trans called), ?_⟩
        simpa only [Option.isSome_none, Bool.false_or] using ended

theorem opportunityCommand_valid {opportunity : ContentOpportunityV1} {isUrl : String → Bool}
    (valid : opportunity.valid isUrl = true) (briefId : String) :
    (createContentOpportunityOutboxCommand opportunity briefId).valid = true := by
  have named : isOutboxEventType "content_opportunity.v1" = true := by decide
  simp only [ContentOpportunityV1.valid, Bool.and_eq_true] at valid
  simp [EnqueueOutboxEvent.valid, createContentOpportunityOutboxCommand, named, join, valid]

theorem briefCommand_valid {b : ContentBriefV1} (valid : b.valid = true) (intelBriefId : String) :
    (createContentBriefOutboxCommand b intelBriefId).valid = true := by
  have named : isOutboxEventType "content_brief.v1" = true := by decide
  simp only [ContentBriefV1.valid, Bool.and_eq_true] at valid
  simp [EnqueueOutboxEvent.valid, createContentBriefOutboxCommand, named, join, valid]

/-- The outbox holds an event under a key. -/
def Present (o : InMemoryOutboxRepository) (tenantId eventType idempotencyKey : String) : Prop :=
  ∃ e ∈ o.events, e.tenantId = tenantId ∧ e.eventType = eventType ∧
    e.idempotencyKey = idempotencyKey

/-- The outbox has an event of each queue for an opportunity. -/
def Served (brief : IntelBriefV1) (ref : BriefOpportunityRef) (o : InMemoryOutboxRepository) : Prop :=
  Present o brief.tenant_id "content_opportunity.v1" (opportunityKey brief ref) ∧
    Present o brief.tenant_id "content_brief.v1" (briefKey brief ref)

def Grows (o p : InMemoryOutboxRepository) : Prop := ∀ e ∈ o.events, e ∈ p.events

theorem Served.mono {o p : InMemoryOutboxRepository} (h : Served brief ref o) (grows : Grows o p) :
    Served brief ref p := by
  obtain ⟨⟨e, there, at_⟩, f, stored, key⟩ := h
  exact ⟨⟨e, grows e there, at_⟩, f, grows f stored, key⟩

/-- A command of the queues leaves the outbox sound, and as it was where its key
is held already. -/
theorem enqueue_run {command : EnqueueOutboxEvent} {w : World} (sound : Sound d.runtime w.outbox)
    (valid : command.valid = true)
    (fits : ∀ e : StoredOutboxEvent, e.toEnqueueOutboxEvent = command →
      contractual d.runtime e = true) :
    (enqueue d command).Ends w fun x w' => (∃ e, x = .ok e) ∧ w'.calls = w.calls ∧
      Sound d.runtime w'.outbox ∧ Grows w.outbox w'.outbox ∧
      Present w'.outbox command.tenantId command.eventType command.idempotencyKey ∧
      (Present w.outbox command.tenantId command.eventType command.idempotencyKey →
        w'.outbox = w.outbox) := by
  refine (enqueue_sends d sound.consistent valid).weaken fun x w' ⟨done, sends, rest⟩ => ?_
  have calls : w'.calls = w.calls := (congrArg World.calls rest).trans rfl
  obtain ⟨e, stored, same⟩ := sends.holds
  rcases sends.events with ⟨unchanged, _⟩ | ⟨f, grown, written, _, fresh⟩
  · rw [unchanged] at stored ⊢
    exact ⟨done, calls, sound, fun _ there => there, ⟨e, stored, same⟩, fun _ => rfl⟩
  · refine ⟨done, calls, ⟨sends.consistent, fun g there => ?_⟩, fun g there => ?_, ⟨e, stored, same⟩,
      ?_⟩
    · rw [grown] at there
      rcases List.mem_append.mp there with old | new
      · exact sound.contractual g old
      · exact fits g (List.mem_singleton.mp new ▸ written)
    · rw [grown]
      exact List.mem_append_left _ there
    · rintro ⟨g, there, key⟩
      exact absurd key (fresh g there)

/-- One turn of the loop. -/
theorem turn_run (valid : brief.valid d.runtime.isUrl = true) (inside : ref ∈ brief.content_opportunities)
    {w : World} (sound : Sound d.runtime w.outbox) :
    (processOpportunity d brief ref).Ends w fun x w' => Sound d.runtime w'.outbox ∧
      Grows w.outbox w'.outbox ∧ (d.llmCallRunner = none ∨ w'.calls = w.calls + 1) ∧
      (Served brief ref w.outbox → w'.outbox = w.outbox) ∧
      if admits d (opportunityOf d brief ref) w.calls then
        (∃ made, x = .ok made) ∧ Served brief ref w'.outbox
      else x = .error .zod := by
  have expanded := opportunityOf_valid (d := d) valid inside
  unfold processOpportunity expandOpportunity
  rw [checked, if_pos expanded]
  refine Store.Ends.pure_bind ((contentBriefFor_run expanded w).bind ?_ ?_)
  · rintro e t ⟨same, called, ended⟩
    split at ended
    · obtain ⟨_, thrown, _⟩ := ended
      cases thrown
    · rename_i refused
      cases ended
      rw [if_neg refused, same]
      exact ⟨sound, fun _ there => there, called, fun _ => rfl, rfl⟩
  · rintro b t ⟨same, called, ended⟩
    split at ended
    · rename_i admitted
      obtain ⟨_, done, written, tenant, named⟩ := ended
      cases done
      simp only [admitted, ↓reduceIte]
      have first := enqueue_run (d := d) (same ▸ sound)
        (opportunityCommand_valid expanded brief.brief_id) fun e made => by
          have type : e.eventType = "content_opportunity.v1" :=
            congrArg EnqueueOutboxEvent.eventType made
          have payload : e.payload = (opportunityOf d brief ref).toPayload :=
            congrArg EnqueueOutboxEvent.payload made
          simp [contractual, type, payload, contentOpportunity_accepted, expanded]
      refine first.bind ?_ ?_
      · rintro e u ⟨⟨_, thrown⟩, _⟩
        cases thrown
      · rintro _ u ⟨_, counted, soundU, growsU, presentU, keptU⟩
        have second := enqueue_run (d := d) soundU (briefCommand_valid written brief.brief_id)
          fun e made => by
            have type : e.eventType = "content_brief.v1" :=
              congrArg EnqueueOutboxEvent.eventType made
            have payload : e.payload = b.toPayload := congrArg EnqueueOutboxEvent.payload made
            simp [contractual, type, payload, contentBrief_accepted, written]
        refine second.bind ?_ ?_
        · rintro e v ⟨⟨_, thrown⟩, _⟩
          cases thrown
        · rintro _ v ⟨_, countedV, soundV, growsV, presentV, keptV⟩
          have opened : Present v.outbox brief.tenant_id "content_opportunity.v1"
              (opportunityKey brief ref) := by
            obtain ⟨e, there, at_⟩ := presentU
            exact ⟨e, growsV e there, at_⟩
          have briefed : createContentBriefOutboxCommand b brief.brief_id =
              { tenantId := brief.tenant_id, eventType := "content_brief.v1",
                idempotencyKey := briefKey brief ref, payload := b.toPayload } := by
            simp only [createContentBriefOutboxCommand, briefKey, tenant, named, opportunityOf]
          rw [briefed] at presentV keptV
          refine Store.Ends.pure ⟨soundV, fun e there => growsV e (growsU e (same ▸ there)), ?_, ?_,
            ⟨_, rfl⟩, opened, presentV⟩
          · exact called.imp id fun once => (countedV.trans counted).trans once
          · rintro ⟨openedBefore, briefedBefore⟩
            have unchanged := (keptU (same ▸ openedBefore)).trans same
            exact (keptV (unchanged ▸ briefedBefore)).trans unchanged
    · cases ended

theorem admits_call {opportunity : ContentOpportunityV1} {m n : Nat}
    (same : d.llmCallRunner = none ∨ m = n) : admits d opportunity m = admits d opportunity n := by
  rcases same with quiet | rfl
  · simp [admits, quiet]
  · rfl

/-- The loop, from a call of the model on. -/
theorem loop_run (valid : brief.valid d.runtime.isUrl = true) {refs : List BriefOpportunityRef}
    (inside : ∀ ref ∈ refs, ref ∈ brief.content_opportunities) {w : World} {n : Nat}
    (sound : Sound d.runtime w.outbox) (called : d.llmCallRunner = none ∨ w.calls = n) :
    (refs.mapM (processOpportunity d brief)).Ends w fun x w' => Sound d.runtime w'.outbox ∧
      Grows w.outbox w'.outbox ∧
      ((∀ ref ∈ refs, Served brief ref w.outbox) → w'.outbox = w.outbox) ∧
      if clears d brief n refs then
        (∃ made, x = .ok made) ∧ ∀ ref ∈ refs, Served brief ref w'.outbox
      else x = .error .zod := by
  induction refs generalizing w n with
  | nil => exact Store.Ends.pure ⟨sound, fun _ there => there, fun _ => rfl, ⟨[], rfl⟩, by simp⟩
  | cons ref refs ih =>
    have := Store.lawful (ε := DbError) (σ := World)
    rw [List.mapM_cons]
    have first := turn_run valid (inside ref (by simp)) sound
    rw [admits_call called] at first
    refine first.bind ?_ ?_
    · rintro e t ⟨soundT, growsT, _, keptT, ended⟩
      refine ⟨soundT, growsT, fun served => keptT (served ref (by simp)), ?_⟩
      split at ended
      · obtain ⟨⟨_, thrown⟩, _⟩ := ended
        cases thrown
      · rename_i refused
        cases ended
        simp [clears, refused]
    · rintro made t ⟨soundT, growsT, calledT, keptT, ended⟩
      split at ended
      · rename_i admitted
        have turns : d.llmCallRunner = none ∨ t.calls = n + 1 := by
          rcases calledT with quiet | once
          · exact Or.inl quiet
          · exact called.imp id fun at_ => once.trans (congrArg (· + 1) at_)
        refine (ih (fun r member => inside r (List.mem_cons_of_mem _ member)) soundT turns).bind
          ?_ ?_
        · rintro e u ⟨soundU, growsU, keptU, endedU⟩
          refine ⟨soundU, fun e there => growsU e (growsT e there), fun served => ?_, ?_⟩
          · have unchanged := keptT (served ref (by simp))
            exact (keptU fun r member => unchanged ▸ served r (List.mem_cons_of_mem _ member)).trans
              unchanged
          · split at endedU
            · obtain ⟨⟨_, thrown⟩, _⟩ := endedU
              cases thrown
            · rename_i refused
              cases endedU
              simp [clears, refused]
        · rintro rest u ⟨soundU, growsU, keptU, endedU⟩
          refine Store.Ends.pure ⟨soundU, fun e there => growsU e (growsT e there),
            fun served => ?_, ?_⟩
          · have unchanged := keptT (served ref (by simp))
            exact (keptU fun r member => unchanged ▸ served r (List.mem_cons_of_mem _ member)).trans
              unchanged
          · split at endedU
            · rename_i cleared
              simp only [clears, admitted, cleared, Bool.and_self, ↓reduceIte]
              refine ⟨⟨_, rfl⟩, fun r member => ?_⟩
              rcases List.mem_cons.mp member with rfl | later
              · exact ended.2.mono growsU
              · exact endedU.2 r later
            · cases endedU
      · cases ended

/-- A served opportunity is held once in each queue of a sound outbox. -/
theorem Sound.holds {o : InMemoryOutboxRepository} (sound : Sound d.runtime o)
    (served : Served brief ref o) : HoldsBoth d.runtime o brief ref := by
  obtain ⟨⟨e, there, tenant, type, key⟩, f, stored, tenantF, typeF, keyF⟩ := served
  have one := eventsAt_single sound.consistent e.toEnqueueOutboxEvent there ⟨rfl, rfl, rfl⟩
  have two := eventsAt_single sound.consistent f.toEnqueueOutboxEvent stored ⟨rfl, rfl, rfl⟩
  have fits := sound.contractual e there
  have fitsF := sound.contractual f stored
  rw [tenant, type, key] at one
  rw [tenantF, typeF, keyF] at two
  exact ⟨⟨e, one, by simpa [OpportunityFanOut.contractual, type] using fits⟩,
    f, two, by simpa [OpportunityFanOut.contractual, typeF] using fitsF⟩

end

theorem process_run (d : Deployment) {input : Payload} {brief : IntelBriefV1} {w : World}
    (accepted : intelBriefV1Schema d.runtime.isUrl input = some brief)
    (sound : Sound d.runtime w.outbox) :
    (processBrief d input).Ends w fun x w' => Sound d.runtime w'.outbox ∧
      Grows w.outbox w'.outbox ∧
      ((∀ ref ∈ brief.content_opportunities, Served brief ref w.outbox) → w'.outbox = w.outbox) ∧
      if clears d brief w.calls brief.content_opportunities then
        (∃ result, x = .ok result) ∧
          ∀ ref ∈ brief.content_opportunities, Served brief ref w'.outbox
      else x = .error .zod := by
  have valid := (Option.filter_eq_some_iff.mp accepted).2
  unfold processBrief
  rw [accepted]
  refine Store.Ends.pure_bind ((loop_run valid (fun _ member => member) sound (Or.inr rfl)).bind
    ?_ ?_)
  · rintro e t ⟨soundT, grows, kept, ended⟩
    refine ⟨soundT, grows, kept, ?_⟩
    split at ended
    · obtain ⟨⟨_, thrown⟩, _⟩ := ended
      cases thrown
    · rename_i refused
      cases ended
      simp [refused]
  · rintro made t ⟨soundT, grows, kept, ended⟩
    refine Store.Ends.pure ⟨soundT, grows, kept, ?_⟩
    split at ended
    · rename_i cleared
      simp only [cleared, ↓reduceIte]
      exact ⟨⟨_, rfl⟩, ended.2⟩
    · cases ended

/-- A brief fans out exactly where the model states a writing brief for each of
its opportunities or the lowercased title holds an ASCII letter or digit. -/
theorem fans_out_iff (d : Deployment) {input : Payload} {brief : IntelBriefV1} {w : World}
    (accepted : intelBriefV1Schema d.runtime.isUrl input = some brief)
    (sound : Sound d.runtime w.outbox) :
    FansOut d input brief w ↔ clears d brief w.calls brief.content_opportunities = true := by
  obtain ⟨soundW, _, _, ended⟩ := process_run d accepted sound
  constructor
  · rintro ⟨result, w', run, _⟩
    by_contra refused
    rw [if_neg refused, run] at ended
    cases ended
  · intro cleared
    rw [if_pos cleared] at ended
    obtain ⟨⟨result, done⟩, served⟩ := ended
    refine ⟨result, _, Prod.ext done rfl, fun ref member => soundW.holds (served ref member), ?_⟩
    intro again same v there
    have next := process_run again (w := v) (same ▸ accepted) (by rw [same, there]; exact soundW)
    exact (next.2.2.1 fun ref member => there ▸ served ref member).trans there

/-- One opportunity under a title. -/
def briefTitled (title : String) : IntelBriefV1 where
  tenant_id := "11111111-1111-4111-8111-111111111111"
  experiment_id := none
  brief_id := "22222222-2222-4222-8222-222222222222"
  generated_at := "2026-07-19T12:00:00.000Z"
  period := ⟨"2026-07-19", "2026-07-19"⟩
  competitive_signals := []
  community_signals := []
  content_opportunities := [{
    opportunity_id := "44444444-4444-4444-8444-444444444444"
    title
    rationale := "Asked often"
    urgency := .this_week
    motion_fit := []
    score := 1 }]
  recommended_focus := "Pilots"

theorem empty_sound (r : Runtime) : Sound r .empty :=
  ⟨InMemoryOutboxRepository.empty_consistent, fun _ member => by cases member⟩

theorem latin_title_fans_out :
    FansOut plain (briefTitled "pilots").toPayload (briefTitled "pilots") ⟨.empty, 0, 0⟩ :=
  (fans_out_iff plain (intelBrief_accepted _ _ (by decide)) (empty_sound _)).mpr
    (by decide)

/-- A title of another script leaves no keyword, and the brief is lost. -/
theorem other_script_throws : ¬ ∀ (d : Deployment) (input : Payload) (brief : IntelBriefV1) (w : World),
    intelBriefV1Schema d.runtime.isUrl input = some brief → Sound d.runtime w.outbox →
      FansOut d input brief w := by
  intro claim
  have accepted : intelBriefV1Schema plain.runtime.isUrl (briefTitled "価格").toPayload =
      some (briefTitled "価格") := intelBrief_accepted _ _ (by decide)
  obtain ⟨result, w', run, _⟩ := claim plain _ _ ⟨.empty, 0, 0⟩ accepted (empty_sound _)
  obtain ⟨_, _, _, ended⟩ := process_run plain (w := ⟨.empty, 0, 0⟩) accepted (empty_sound _)
  rw [run, if_neg (by decide)] at ended
  cases ended

end VantGrowth.Proofs.OpportunityFanOut
