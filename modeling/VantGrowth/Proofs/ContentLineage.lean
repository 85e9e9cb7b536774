import VantGrowth.Content.Pipeline
import VantGrowth.Lib.Along
import VantGrowth.Proofs.CritiqueFallbacks
import VantGrowth.Proofs.DraftFallbacks
import VantGrowth.Proofs.RequestContent

namespace VantGrowth.Proofs.ContentLineage
open Core Db Lib Lib.Store Lib.Text Content Pipeline
open Learning (critiqueCompletedPayloadSchema)
open Signals (IntelBriefRequestedV1 intelBriefRequestedV1Schema)

/-- What the stages of the content pipeline hand on. -/
inductive Stage where
  | request | intelBrief | opportunity | contentBrief | draft | critique

namespace Stage

def eventType : Stage → String
  | .request => "intel_brief.requested.v1"
  | .intelBrief => "intel_brief.v1"
  | .opportunity => "content_opportunity.v1"
  | .contentBrief => "content_brief.v1"
  | .draft => "blog_draft.v1"
  | .critique => "critique.completed.v1"

theorem eventType_inj {s t : Stage} (same : s.eventType = t.eventType) : s = t := by
  cases s <;> cases t <;> simp [eventType] at same ⊢

/-- The stage whose events are worked into those of another. -/
def parent : Stage → Option Stage
  | .request => none
  | .intelBrief => some .request
  | .opportunity | .contentBrief => some .intelBrief
  | .draft => some .contentBrief
  | .critique => some .draft

end Stage

/-- Whose an event is, for which experiment it is made and under which id. -/
structure Handoff where
  tenantId : String
  experimentId : Option String
  id : String

/-- What the next worker's schema reads in the event of a stage. The tenant of a
critique is that of its subject. -/
def Stage.read (r : Runtime) (c : EnqueueOutboxEvent) : Stage → Option Handoff
  | .request => (intelBriefRequestedV1Schema c.payload).map fun q => ⟨q.tenant_id, q.experiment_id, q.request_id⟩
  | .intelBrief =>
    (intelBriefV1Schema r.isUrl c.payload).map fun b => ⟨b.tenant_id, b.experiment_id, b.brief_id⟩
  | .opportunity =>
    (contentOpportunityV1Schema r.isUrl c.payload).map fun o => ⟨o.tenant_id, o.experiment_id, o.opportunity_id⟩
  | .contentBrief => (contentBriefV1Schema c.payload).map fun b => ⟨b.tenant_id, b.experiment_id, b.brief_id⟩
  | .draft =>
    (createBlogDraftCritiqueRequest r c.payload).map fun q => ⟨q.tenantId, q.experimentId, q.artifactId⟩
  | .critique =>
    (critiqueCompletedPayloadSchema (fun _ => 0) (.obj c.payload)).map fun p =>
      ⟨c.tenantId, p.experiment_id, p.critique_id⟩

/-- How the key of an event begins that was made from the one with an id. -/
def Stage.keyed (id : String) : Stage → String
  | .request => ""
  | .intelBrief => join "intel-brief" id
  | .opportunity => join "content-opportunity" id
  | .contentBrief => join "content-brief" id
  | .draft => join "blog-draft" id
  | .critique => "critique:blog-draft:" ++ id

/-- The event `c` is one of `stage`, made from one that reads `from_`: for the
same tenant and experiment, and under a key that names it. -/
structure Made (r : Runtime) (parent : Stage) (from_ : Handoff) (stage : Stage) (c : EnqueueOutboxEvent)
    (h : Handoff) : Prop where
  next : stage.parent = some parent
  type : c.eventType = stage.eventType
  read : stage.read r c = some h
  tenant : h.tenantId = from_.tenantId ∧ c.tenantId = from_.tenantId
  experiment : h.experimentId = from_.experimentId
  keyed : (stage.keyed from_.id).toList <+: c.idempotencyKey.toList

/-- Among the stored events, one of a stage that goes back to a request for a
brief. -/
inductive Traced (r : Runtime) (sent : List EnqueueOutboxEvent) : Stage → EnqueueOutboxEvent → Handoff → Prop where
  | request {c h} (stored : c ∈ sent) (type : c.eventType = Stage.request.eventType)
      (read : Stage.request.read r c = some h) : Traced r sent .request c h
  | made {parent p from_ stage c h} (stored : c ∈ sent) (earlier : Traced r sent parent p from_)
      (made : Made r parent from_ stage c h) : Traced r sent stage c h

theorem Traced.mono {sent later : List EnqueueOutboxEvent} (grown : ∀ c ∈ sent, c ∈ later)
    (traced : Traced r sent stage c h) : Traced r later stage c h := by
  induction traced with
  | request stored type read => exact .request (grown _ stored) type read
  | made stored _ made ih => exact .made (grown _ stored) ih made

theorem Traced.read (traced : Traced r sent stage c h) : stage.read r c = some h := by
  cases traced with
  | request _ _ read => exact read
  | made _ _ made => exact made.read

/-- Every stored event of a later stage is traced, and its schema reads it as
its tenant's. -/
def Sound (r : Runtime) (sent : List EnqueueOutboxEvent) : Prop :=
  ∀ stage : Stage, stage ≠ .request → ∀ c ∈ sent, c.eventType = stage.eventType →
    ∃ h, Traced r sent stage c h ∧ h.tenantId = c.tenantId

/-- The outbox keeps its events, and those that are new are `G`. -/
def Adds (G : EnqueueOutboxEvent → Prop) (o p : InMemoryOutboxRepository) : Prop :=
  o.Consistent → p.Consistent ∧ (∀ c ∈ commands o, c ∈ commands p) ∧ ∀ c ∈ commands p, c ∈ commands o ∨ G c

section
variable {G : EnqueueOutboxEvent → Prop}

instance : IsPreorder World (fun w v => Adds G w.outbox v.outbox) where
  refl _ consistent := ⟨consistent, fun _ => id, fun _ => Or.inl⟩
  trans w v u first second consistent := by
    obtain ⟨consistent, grown, new⟩ := first consistent
    obtain ⟨consistent', grown', new'⟩ := second consistent
    refine ⟨consistent', fun c member => grown' c (grown c member), fun c member => ?_⟩
    rcases new' c member with old | made
    · exact new c old
    · exact Or.inr made

/-- Of a computation of the workers: it stores nothing but what is `G`. -/
abbrev Stores (G : EnqueueOutboxEvent → Prop) (m : Work α) : Prop :=
  Along (fun w v => Adds G w.outbox v.outbox) m

/-- It stores nothing but what is `G`, and answers with what has `P`. -/
abbrev Answers (G : EnqueueOutboxEvent → Prop) (P : α → Prop) (m : Work α) : Prop :=
  Giving (fun w v => Adds G w.outbox v.outbox) P m

theorem adds_same (o : InMemoryOutboxRepository) : Adds G o o :=
  fun consistent => ⟨consistent, fun _ => id, fun _ => Or.inl⟩

theorem enqueue_adds (now : Instant) {command : EnqueueOutboxEvent} (made : G command)
    (o : InMemoryOutboxRepository) : Adds G o ((InMemoryOutboxRepository.enqueue now command).run o).2 := by
  intro consistent
  have ended := InMemoryOutboxRepository.enqueue_ends consistent now command
  unfold Store.Ends at ended
  rcases ended with unchanged | sends
  · rw [unchanged]
    exact adds_same o consistent
  · refine ⟨sends.consistent, ?_⟩
    rcases sends.events with ⟨unchanged, _⟩ | ⟨e, grown, written, _, _⟩
    · rw [unchanged]
      exact (adds_same o consistent).2
    · simp only [commands, grown, List.map_append, List.map_cons, List.map_nil, written]
      refine ⟨fun c member => List.mem_append_left _ member, fun c member => ?_⟩
      rcases List.mem_append.mp member with old | new
      · exact Or.inl old
      · rw [List.mem_singleton.mp new]
        exact Or.inr made

theorem enqueue_stores (d : Deployment) {command : EnqueueOutboxEvent} (made : G command) :
    Stores G (enqueue d command) :=
  fun w => Store.Ends.zoom (show Store.Ends (InMemoryOutboxRepository.enqueue d.now.time command) w.outbox
    (fun _ p => Adds G w.outbox p) from enqueue_adds d.now.time made w.outbox) fun _ _ added => added

theorem parse_answers (value : Option α) : Answers G (fun a => value = some a) (parse value) := by
  cases value with
  | none => exact fun w => ⟨adds_same w.outbox, fun _ thrown => by cases thrown⟩
  | some a => exact Giving.pure rfl

theorem checked_answers (valid : α → Bool) (value : α) :
    Answers G (fun a => a = value ∧ valid a = true) (checked valid value) := by
  unfold checked
  by_cases fits : valid value = true
  · rw [if_pos fits]
    exact Giving.pure ⟨rfl, fits⟩
  · rw [if_neg fits]
    exact fun w => ⟨adds_same w.outbox, fun _ thrown => by cases thrown⟩

theorem randomUUID_stores (d : Deployment) : Stores G (randomUUID d) := fun w => adds_same w.outbox

theorem callRunner_stores (runner : LlmCallRunner) : Stores G (callRunner runner) := fun w => adds_same w.outbox

end

/-- What a handler may store: what is made from the event it was given, as its
schema reads it. -/
def Onward (r : Runtime) (parent : Stage) (c made : EnqueueOutboxEvent) : Prop :=
  ∃ from_ stage h, parent.read r c = some from_ ∧ Made r parent from_ stage made h

section
variable {d : Deployment} {G : EnqueueOutboxEvent → Prop}

theorem join_begins (head id rest : String) :
    (join head id).toList <+: (join head (join id rest)).toList := by
  refine ⟨":".toList ++ rest.toList, ?_⟩
  simp only [join, String.toList_append, List.append_assoc]

/-- The experiment a brief is read for. -/
theorem read_experiment {p : Payload} {b : IntelBriefV1} (read : IntelBriefV1.read p = some b) :
    Zod.optional p "experiment_id" Zod.text = some b.experiment_id := by
  unfold IntelBriefV1.read at read
  iterate 2 obtain ⟨_, _, read⟩ := Option.bind_eq_some_iff.mp read
  obtain ⟨experiment_id, experiment, read⟩ := Option.bind_eq_some_iff.mp read
  iterate 7 obtain ⟨_, _, read⟩ := Option.bind_eq_some_iff.mp read
  cases read
  exact experiment

theorem content_experiment {p : Payload} {b : ContentBriefV1} (read : ContentBriefV1.read p = some b) :
    Zod.optional p "experiment_id" Zod.text = some b.experiment_id := by
  unfold ContentBriefV1.read at read
  iterate 2 obtain ⟨_, _, read⟩ := Option.bind_eq_some_iff.mp read
  obtain ⟨experiment_id, experiment, read⟩ := Option.bind_eq_some_iff.mp read
  iterate 17 obtain ⟨_, _, read⟩ := Option.bind_eq_some_iff.mp read
  cases read
  exact experiment

/-- A field that the rest of an object may not set. -/
theorem own_field {front middle rest : Payload} {key : String} {value : Option String}
    (before : front.lookup key = none) (after : middle.lookup key = none) :
    Zod.optional (front ++ optionalEntry key (value.map .str) ++ middle ++ rest.filter (·.1 != key)) key
      Zod.text = some value := by
  have without : (rest.filter (·.1 != key)).lookup key = none := by
    rw [List.lookup_eq_none_iff]
    intro e member
    exact bne_iff_ne.mpr (Ne.symm (bne_iff_ne.mp (List.mem_filter.mp member).2))
  cases value with
  | none => simp [Zod.optional, optionalEntry, List.lookup_append, before, after, without]
  | some id => simp [Zod.optional, optionalEntry, List.lookup_append, before, Zod.text]

section
variable {request : IntelBriefRequestedV1}

/-- The brief of a request: valid, and for its tenant and experiment. -/
structure BriefOf (d : Deployment) (request : IntelBriefRequestedV1) (b : IntelBriefV1) : Prop where
  valid : b.valid d.runtime.isUrl = true
  tenant : b.tenant_id = request.tenant_id
  experiment : b.experiment_id = request.experiment_id

theorem llmBrief_of {content : String} {b : IntelBriefV1}
    (stated : readLlmBrief d request content = some b) : BriefOf d request b := by
  obtain ⟨valid, tenant⟩ := RequestContent.readLlmBrief_spec stated
  refine ⟨valid, tenant, ?_⟩
  unfold readLlmBrief at stated
  split at stated
  · have own := read_experiment (Option.filter_eq_some_iff.mp stated).1
    rw [augmentBrief, own_field (by simp [List.lookup_cons]) (by simp [List.lookup_cons])] at own
    exact (Option.some.inj own).symm
  · cases stated

theorem deterministic_answers (request : IntelBriefRequestedV1) :
    Answers G (BriefOf d request) (generateDeterministicBrief d request) := by
  refine Giving.bind (Giving.of_along (randomUUID_stores d)) fun opportunityId _ => ?_
  refine Giving.bind (Giving.of_along (randomUUID_stores d)) fun briefId _ => ?_
  refine (checked_answers _ _).weaken fun b checked => ?_
  obtain ⟨rfl, valid⟩ := checked
  exact ⟨valid, rfl, rfl⟩

theorem briefFor_answers (request : IntelBriefRequestedV1) :
    Answers G (BriefOf d request) (briefFor d request) := by
  unfold briefFor
  cases d.llmCallRunner with
  | none => exact deterministic_answers request
  | some runner =>
    have asked : Answers G (fun answer => ∀ b, answer = some b → BriefOf d request b)
        (generateLlmBrief d request runner) := by
      refine Giving.bind (Giving.of_along (callRunner_stores runner)) fun answer _ => ?_
      refine Giving.pure fun b stated => ?_
      obtain ⟨content, _, read⟩ := Option.bind_eq_some_iff.mp stated
      exact llmBrief_of read
    refine Giving.bind asked fun answer known => ?_
    cases answer with
    | some b => exact Giving.pure (known b rfl)
    | none => exact deterministic_answers request

/-- The director stores a brief of the request it was given. -/
theorem director_stores (d : Deployment) (c : EnqueueOutboxEvent) :
    Stores (Onward d.runtime .request c) (IntelDirectorWorker.processBriefRequest d c.payload) := by
  refine Along.bind_giving (parse_answers _) fun request accepted => ?_
  refine Along.bind_giving (briefFor_answers request) fun b made => ?_
  have read : Stage.request.read d.runtime c =
      some ⟨request.tenant_id, request.experiment_id, request.request_id⟩ := by
    simp only [Stage.read, accepted, Option.map_some]
  refine Along.bind (enqueue_stores d ⟨_, .intelBrief, ⟨b.tenant_id, b.experiment_id, b.brief_id⟩, read, ?_⟩)
    fun _ => Along.pure _
  exact
    { next := rfl
      type := rfl
      read := by simp [Stage.read, createIntelBriefOutboxCommand, intelBrief_accepted _ b made.valid]
      tenant := ⟨made.tenant, rfl⟩
      experiment := made.experiment
      keyed := List.prefix_refl _ }

end

section
variable {opportunity : ContentOpportunityV1}

/-- The writing brief of an opportunity: valid, and for its tenant and experiment. -/
structure ContentBriefOf (opportunity : ContentOpportunityV1) (b : ContentBriefV1) : Prop where
  valid : b.valid = true
  tenant : b.tenant_id = opportunity.tenant_id
  experiment : b.experiment_id = opportunity.experiment_id

theorem llmContentBrief_of {content : String} {b : ContentBriefV1}
    (stated : readLlmContentBrief d opportunity content = some b) : ContentBriefOf opportunity b := by
  obtain ⟨valid, tenant, _⟩ := OpportunityFanOut.readLlm_spec stated
  refine ⟨valid, tenant, ?_⟩
  unfold readLlmContentBrief at stated
  split at stated
  · have own := content_experiment (Option.filter_eq_some_iff.mp stated).1
    rw [augmentContentBrief, own_field (by simp [List.lookup_cons]) (by simp [List.lookup_cons])] at own
    exact (Option.some.inj own).symm
  · cases stated

theorem generate_answers (opportunity : ContentOpportunityV1) :
    Answers G (ContentBriefOf opportunity) (generateContentBrief d opportunity) := by
  refine Giving.bind (Giving.of_along (randomUUID_stores d)) fun briefId _ => ?_
  refine (checked_answers _ _).weaken fun b checked => ?_
  obtain ⟨rfl, valid⟩ := checked
  exact ⟨valid, rfl, rfl⟩

theorem contentBriefFor_answers (opportunity : ContentOpportunityV1) :
    Answers G (ContentBriefOf opportunity) (contentBriefFor d opportunity) := by
  unfold contentBriefFor
  cases d.llmCallRunner with
  | none => exact generate_answers opportunity
  | some runner =>
    have asked : Answers G (fun answer => ∀ b, answer = some b → ContentBriefOf opportunity b)
        (generateLlmContentBrief d opportunity runner) := by
      refine Giving.bind (Giving.of_along (callRunner_stores runner)) fun answer _ => ?_
      refine Giving.pure fun b stated => ?_
      obtain ⟨content, _, read⟩ := Option.bind_eq_some_iff.mp stated
      exact llmContentBrief_of read
    refine Giving.bind asked fun answer known => ?_
    cases answer with
    | some b => exact Giving.pure (known b rfl)
    | none => exact generate_answers opportunity

/-- The strategist stores an opportunity and a writing brief for each
opportunity of the brief it was given. -/
theorem strategist_stores (d : Deployment) (c : EnqueueOutboxEvent) :
    Stores (Onward d.runtime .intelBrief c) (ContentStrategistWorker.processBrief d c.payload) := by
  refine Along.bind_giving (parse_answers _) fun brief accepted => ?_
  have read : Stage.intelBrief.read d.runtime c =
      some ⟨brief.tenant_id, brief.experiment_id, brief.brief_id⟩ := by
    simp only [Stage.read, accepted, Option.map_some]
  refine Along.bind (Along.mapM fun ref _ => ?_) fun _ => Along.pure _
  refine Along.bind_giving (checked_answers _ _) fun opportunity expanded => ?_
  obtain ⟨rfl, valid⟩ := expanded
  refine Along.bind_giving (contentBriefFor_answers _) fun b made => ?_
  have first : Onward d.runtime .intelBrief c
      (createContentOpportunityOutboxCommand (opportunityOf d brief ref) brief.brief_id) := by
    refine ⟨_, .opportunity, ⟨brief.tenant_id, brief.experiment_id, ref.opportunity_id⟩, read, ?_⟩
    exact
      { next := rfl
        type := rfl
        read := by
          simp only [Stage.read, createContentOpportunityOutboxCommand, contentOpportunity_accepted _ _ valid,
            Option.map_some]
          rfl
        tenant := ⟨rfl, rfl⟩
        experiment := rfl
        keyed := join_begins _ _ _ }
  have second : Onward d.runtime .intelBrief c (createContentBriefOutboxCommand b brief.brief_id) := by
    refine ⟨_, .contentBrief, ⟨b.tenant_id, b.experiment_id, b.brief_id⟩, read, ?_⟩
    exact
      { next := rfl
        type := rfl
        read := by simp [Stage.read, createContentBriefOutboxCommand, contentBrief_accepted b made.valid]
        tenant := ⟨made.tenant, made.tenant⟩
        experiment := made.experiment
        keyed := join_begins _ _ _ }
  exact Along.bind (enqueue_stores d first) fun _ => Along.bind (enqueue_stores d second) fun _ => Along.pure _

end

section
variable {brief : ContentBriefV1}

/-- The draft of a brief. -/
structure DraftOf (d : Deployment) (brief : ContentBriefV1) (draft : BlogDraftV1) : Prop where
  valid : draft.valid d.runtime.isUrl = true
  tenant : draft.tenant_id = brief.tenant_id
  experiment : draft.experiment_id = brief.experiment_id
  brief : draft.brief_id = brief.brief_id

theorem drafted_answers (brief : ContentBriefV1) (body : String) :
    Answers G (DraftOf d brief) (do
      let draftId ← randomUUID d
      checked (·.valid d.runtime.isUrl) (draftOf brief draftId d.now.toISOString body)) := by
  refine Giving.bind (Giving.of_along (randomUUID_stores d)) fun draftId _ => ?_
  refine (checked_answers _ _).weaken fun draft checked => ?_
  obtain ⟨rfl, valid⟩ := checked
  exact ⟨valid, rfl, rfl, rfl⟩

theorem draftFor_answers (brief : ContentBriefV1) : Answers G (DraftOf d brief) (draftFor d brief) := by
  unfold draftFor
  cases d.llmCallRunner with
  | none => exact drafted_answers brief _
  | some runner =>
    have asked : Answers G (fun answer => ∀ draft, answer = some draft → DraftOf d brief draft)
        (generateLlmBlogDraft d brief runner) := by
      refine Giving.bind (Giving.of_along (callRunner_stores runner)) fun answer _ => ?_
      split
      · exact Giving.pure fun _ none_ => by cases none_
      · rename_i body _
        by_cases blank : body = ""
        · rw [if_pos blank]
          exact Giving.pure fun _ none_ => by cases none_
        · rw [if_neg blank]
          refine Giving.bind (Giving.of_along (randomUUID_stores d)) fun draftId _ => ?_
          refine Giving.bind (checked_answers _ _) fun draft checked => ?_
          obtain ⟨rfl, valid⟩ := checked
          refine Giving.pure fun draft same => ?_
          cases same
          exact ⟨valid, rfl, rfl, rfl⟩
    refine Giving.bind asked fun answer known => ?_
    cases answer with
    | some draft => exact Giving.pure (known draft rfl)
    | none => exact drafted_answers brief _

/-- What the critique makes of a draft. -/
theorem draft_read (r : Runtime) {draft : BlogDraftV1} (valid : draft.valid r.isUrl = true)
    {c : EnqueueOutboxEvent} (payload : c.payload = draft.toPayload) :
    Stage.draft.read r c = some ⟨draft.tenant_id, draft.experiment_id, draft.draft_id⟩ := by
  obtain ⟨request, made⟩ := Option.isSome_iff_exists.mp (DraftFallbacks.critiqueRequest_made r valid)
  simp only [Stage.read, payload, made, Option.map_some]
  simp only [createBlogDraftCritiqueRequest, blogDraft_accepted _ draft valid, Option.bind_eq_bind,
    Option.bind_some] at made
  split at made
  · cases made
    rfl
  · cases made

/-- The writer stores a draft of the brief it was given. -/
theorem writer_stores (d : Deployment) (c : EnqueueOutboxEvent) :
    Stores (Onward d.runtime .contentBrief c) (BlogDraftWorker.processBrief d c.payload) := by
  refine Along.bind_giving (parse_answers _) fun brief accepted => ?_
  have read : Stage.contentBrief.read d.runtime c =
      some ⟨brief.tenant_id, brief.experiment_id, brief.brief_id⟩ := by
    simp only [Stage.read, accepted, Option.map_some]
  refine Along.bind_giving (draftFor_answers brief) fun draft made => ?_
  refine Along.bind (enqueue_stores d
    ⟨_, .draft, ⟨draft.tenant_id, draft.experiment_id, draft.draft_id⟩, read, ?_⟩) fun _ => Along.pure _
  exact
    { next := rfl
      type := rfl
      read := draft_read d.runtime made.valid rfl
      tenant := ⟨made.tenant, made.tenant⟩
      experiment := made.experiment
      keyed := by
        rw [← made.brief]
        exact join_begins _ _ _ }

end

theorem critiqueRequest_parts {r : Runtime} {p : Payload} {q : CritiqueRequest}
    (made : createBlogDraftCritiqueRequest r p = some q) :
    q.valid = true ∧ ∃ rest, q.dedupeKey = "critique:blog-draft:" ++ q.artifactId ++ rest := by
  unfold createBlogDraftCritiqueRequest at made
  obtain ⟨draft, _, made⟩ := Option.bind_eq_some_iff.mp made
  dsimp only at made
  split at made
  · rename_i valid
    cases made
    exact ⟨valid, ":iteration:" ++ r.numberText draft.iteration, by simp only [String.append_assoc]⟩
  · cases made

/-- The critic stores its verdict on the draft it was given. -/
theorem critic_stores (d : CritiqueDeployment) (c : EnqueueOutboxEvent) :
    Stores (Onward d.runtime .draft c) (Consumer.handle d c.payload .critique) := by
  refine Along.bind_giving (parse_answers _) fun request accepted => ?_
  have read : Stage.draft.read d.runtime c =
      some ⟨request.tenantId, request.experimentId, request.artifactId⟩ := by
    simp only [Stage.read, accepted, Option.map_some]
  obtain ⟨valid, rest, key⟩ := critiqueRequest_parts accepted
  have named : (Stage.critique.keyed request.artifactId).toList ++ rest.toList = request.dedupeKey.toList := by
    rw [key, ← String.toList_append]
    rfl
  refine Along.bind (Along.bind_giving (checked_answers _ _) fun q checked => ?_) fun _ => Along.pure _
  rw [checked.1]
  have tenant : isUuid request.tenantId = true := by
    simp only [CritiqueRequest.valid, Bool.and_eq_true] at valid
    exact valid.1.1.1.1.1.1.1.1.1
  refine Along.bind (fun w => (CritiqueFallbacks.scoring_run d tenant w).weaken fun _ v ended => ?_)
    fun scoring => ?_
  · rw [ended.1]
    exact adds_same w.outbox
  refine Along.bind_giving (checked_answers _ _) fun result checked => ?_
  obtain ⟨rfl, fits⟩ := checked
  refine Along.bind (enqueue_stores d.toDeployment
    ⟨_, .critique, ⟨request.tenantId, request.experimentId, request.critiqueId⟩, read, ?_⟩) fun _ => Along.pure _
  exact
    { next := rfl
      type := rfl
      read := by
        simp only [Stage.read, completedCommand, CritiqueFallbacks.completed_read fits, Option.map_some]
        rfl
      tenant := ⟨rfl, rfl⟩
      experiment := rfl
      keyed := ⟨rest.toList, named⟩ }

end

/-- The stage a consumer takes the events of. -/
def stageOf : Consumer → Stage
  | .intelDirector => .request
  | .contentStrategist => .intelBrief
  | .blogDraft => .contentBrief
  | .critique => .draft

/-- A consumer stores what is made from the event it is given. -/
theorem handle_stores (d : CritiqueDeployment) (c : EnqueueOutboxEvent) (consumer : Consumer) :
    Stores (Onward d.runtime (stageOf consumer) c) (consumer.handle d c.payload) := by
  cases consumer with
  | intelDirector => exact Along.bind (director_stores d.toDeployment c) fun _ => Along.pure _
  | contentStrategist => exact Along.bind (strategist_stores d.toDeployment c) fun _ => Along.pure _
  | blogDraft => exact Along.bind (writer_stores d.toDeployment c) fun _ => Along.pure _
  | critique => exact critic_stores d c

theorem consumer_type {eventType : String} {consumer : Consumer} (named : Consumer.of eventType = some consumer) :
    eventType = (stageOf consumer).eventType := by
  have same := List.find?_some named
  rw [beq_iff_eq] at same
  rw [← same]
  cases consumer <;> rfl

section
variable {r : Runtime} {o p : InMemoryOutboxRepository}

/-- A later event is traced where the one it was made from is. -/
theorem Onward.traced {sent : List EnqueueOutboxEvent} {parent : Stage} {c made : EnqueueOutboxEvent}
    (onward : Onward r parent c made) (sound : Sound r sent) (stored : c ∈ sent)
    (type : c.eventType = parent.eventType) {later : List EnqueueOutboxEvent}
    (grown : ∀ c ∈ sent, c ∈ later) (new : made ∈ later) {stage : Stage} (named : made.eventType = stage.eventType) :
    ∃ h, Traced r later stage made h ∧ h.tenantId = made.tenantId := by
  obtain ⟨from_, stage', h, read, making⟩ := onward
  obtain rfl : stage' = stage := Stage.eventType_inj (making.type.symm.trans named)
  have earlier : Traced r sent parent c from_ := by
    by_cases first : parent = .request
    · subst first
      exact .request stored type read
    · obtain ⟨g, traced, _⟩ := sound parent first c stored type
      cases traced.read.symm.trans read
      exact traced
  exact ⟨h, .made new (earlier.mono grown) making, making.tenant.1.trans making.tenant.2.symm⟩

theorem Sound.adds {G : EnqueueOutboxEvent → Prop} (sound : Sound r (commands o)) (consistent : o.Consistent)
    (adds : Adds G o p) (new : ∀ c, G c → ∀ stage : Stage, stage ≠ .request → c ∈ commands p →
      c.eventType = stage.eventType → ∃ h, Traced r (commands p) stage c h ∧ h.tenantId = c.tenantId) :
    p.Consistent ∧ Sound r (commands p) := by
  obtain ⟨consistent', grown, origin⟩ := adds consistent
  refine ⟨consistent', fun stage later c stored type => ?_⟩
  rcases origin c stored with old | made
  · obtain ⟨h, traced, tenant⟩ := sound stage later c old type
    exact ⟨h, traced.mono grown, tenant⟩
  · exact new c made stage later stored type

/-- Marking an event leaves what it was made from. -/
theorem consume_commands (consistent : o.Consistent) (tenantId : String) (eventId : Nat) (consumedAt : Instant) :
    (InMemoryOutboxRepository.markConsumed tenantId eventId consumedAt).Ends o fun _ p =>
      p.Consistent ∧ commands p = commands o := by
  refine (InMemoryOutboxRepository.markConsumed_ends consistent tenantId eventId consumedAt).weaken ?_
  intro _ p ended
  rcases ended with rfl | ⟨consistent', e, time, stored, _, rows⟩
  · exact ⟨consistent, rfl⟩
  · refine ⟨consistent', ?_⟩
    have marked := InsertionMap.values_set_stored (fun k v at_ => (consistent.stored k v at_).1) stored
      { e with consumedAt := some time }
    simp only [commands, InMemoryOutboxRepository.events, rows, marked, List.map_map]
    refine List.map_congr_left fun f member => ?_
    by_cases target : f.id = eventId
    · obtain ⟨k, at_⟩ := (o.eventsById.mem_values f).mp member
      have here := (consistent.stored k f at_).1
      rw [← here, target, stored] at at_
      cases at_
      simp [target]
    · simp [target]

end

theorem handoff_type {stage : Stage} (later : stage ≠ .request) : stage.eventType ∈ handoffs := by
  cases stage <;> simp [Stage.eventType, handoffs] at later ⊢

theorem perform_sound (d : CritiqueDeployment) {w : World} (consistent : w.outbox.Consistent)
    (sound : Sound d.runtime (commands w.outbox)) (operation : Operation)
    (own : ∀ now command, operation = .store now command → command.eventType ∉ handoffs) :
    (perform d w operation).outbox.Consistent ∧ Sound d.runtime (commands (perform d w operation).outbox) := by
  cases operation with
  | store now command =>
    refine sound.adds consistent (enqueue_adds (G := (· = command)) now.time rfl w.outbox) ?_
    intro c same stage later _ type
    rw [same] at type
    exact absurd (type ▸ handoff_type later) (own now command rfl)
  | deliver index now llmCallRunner playbookRepository =>
    simp only [perform]
    cases at_ : (commands w.outbox)[index]? with
    | none => exact ⟨consistent, sound⟩
    | some c =>
      have stored : c ∈ commands w.outbox := List.mem_of_getElem? at_
      simp only [deliver]
      cases named : Consumer.of c.eventType with
      | none => exact ⟨consistent, sound⟩
      | some consumer =>
        have adds := handle_stores (wired d now llmCallRunner playbookRepository) c consumer w
        refine sound.adds consistent adds fun made onward stage _ new type => ?_
        exact onward.traced sound stored (consumer_type named) (adds consistent).2.1 new type
  | consume tenantId eventId consumedAt =>
    obtain ⟨consistent', same⟩ := consume_commands consistent tenantId eventId consumedAt
    refine ⟨consistent', ?_⟩
    simp only [perform, same]
    exact sound

/-- Whatever is delivered, in whatever order and however often, and whatever
the models answer: every event the content workers stored is accepted by the
schema of the worker it goes to, as its tenant's, and goes back over stored
events for one tenant and experiment to a request for a brief. -/
theorem handoffs_traced (d : CritiqueDeployment) (operations : List Operation)
    (own : ∀ now command, .store now command ∈ operations → command.eventType ∉ handoffs) :
    let sent := commands (runs (perform d) ⟨.empty, 0, 0⟩ operations).outbox
    ∀ stage : Stage, stage ≠ .request → ∀ c ∈ sent, c.eventType = stage.eventType → ∃ h,
      stage.read d.runtime c = some h ∧ h.tenantId = c.tenantId ∧ Traced d.runtime sent stage c h := by
  have run : ∀ w : World, w.outbox.Consistent → Sound d.runtime (commands w.outbox) →
      Sound d.runtime (commands (runs (perform d) w operations).outbox) := by
    induction operations with
    | nil => exact fun _ _ sound => sound
    | cons operation operations ih =>
      intro w consistent sound
      have stepped := perform_sound d consistent sound operation fun now command same =>
        own now command (same ▸ List.mem_cons_self)
      exact ih (fun now command member => own now command (List.mem_cons_of_mem _ member)) _ stepped.1 stepped.2
  intro sent stage later c stored type
  have start : Sound d.runtime (commands InMemoryOutboxRepository.empty) := fun _ _ _ member => by cases member
  obtain ⟨h, traced, tenant⟩ :=
    run ⟨.empty, 0, 0⟩ InMemoryOutboxRepository.empty_consistent start stage later c stored type
  exact ⟨h, traced.read, tenant, traced⟩

/-- A request for a brief on nothing in particular. -/
def asked : EnqueueOutboxEvent where
  tenantId := "11111111-1111-4111-8111-111111111111"
  eventType := "intel_brief.requested.v1"
  idempotencyKey := "r"
  payload :=
    [("schema_version", .str "intel_brief_requested.v1"),
      ("request_id", .str "44444444-4444-4444-8444-444444444444"),
      ("tenant_id", .str "11111111-1111-4111-8111-111111111111"), ("period_from", .str "2026-07-19"),
      ("period_to", .str "2026-07-19")]

/-- The request and its brief are delivered. -/
def planned : List Operation :=
  [.store FallbackBriefs.today asked, .deliver 0 FallbackBriefs.today none none,
    .deliver 1 FallbackBriefs.today none none]

def quiet : CritiqueDeployment where
  toDeployment := FallbackBriefs.plain

theorem planned_traced :
    let sent := commands (runs (perform quiet) ⟨.empty, 0, 0⟩ planned).outbox
    ∃ c, sent[3]? = some c ∧ c.eventType = "content_brief.v1" ∧ ∃ h, Traced quiet.runtime sent .contentBrief c h := by
  intro sent
  have stored : sent[3]?.map (·.eventType) = some "content_brief.v1" := by decide +kernel
  obtain ⟨c, at_, type⟩ := Option.map_eq_some_iff.mp stored
  obtain ⟨h, _, _, traced⟩ := handoffs_traced quiet planned (by
    intro now command member
    simp only [planned, List.mem_cons, Operation.store.injEq, reduceCtorEq, List.not_mem_nil, or_false] at member
    rw [member.2]
    decide) .contentBrief (by simp) c (List.mem_of_getElem? at_) type
  exact ⟨c, at_, type, h, traced⟩

end VantGrowth.Proofs.ContentLineage
