import VantGrowth.Lib.Runs
import VantGrowth.Proofs.OpportunityFanOut

namespace VantGrowth.Proofs.RequestContent
open Core Db Lib Lib.Text Content FallbackBriefs OpportunityFanOut
open Signals (IntelBriefRequestedV1 intelBriefRequestedV1Schema)

/-- What happens to the outbox that the two workers share. -/
inductive Operation where
  | request (now : Moment) (llmCallRunner : Option LlmCallRunner) (input : Payload)
  | plan (now : Moment) (llmCallRunner : Option LlmCallRunner) (input : Payload)
  | consume (tenantId : String) (eventId : Nat) (consumedAt : Instant)

/-- The deployment at a moment, with the model it has then. -/
def at_ (d : Deployment) (now : Moment) (llmCallRunner : Option LlmCallRunner) : Deployment :=
  { d with
    now
    llmCallRunner }

def perform (d : Deployment) (w : World) : Operation → World
  | .request now runner input =>
    ((IntelDirectorWorker.processBriefRequest (at_ d now runner) input).run w).2
  | .plan now runner input =>
    ((ContentStrategistWorker.processBrief (at_ d now runner) input).run w).2
  | .consume tenantId eventId consumedAt =>
    { w with
      outbox := ((InMemoryOutboxRepository.markConsumed tenantId eventId consumedAt).run w.outbox).2 }

/-- The ids content is keyed by. -/
structure ContentIds where
  briefId : String
  opportunityIds : List String

def idsOf (brief : IntelBriefV1) : ContentIds :=
  ⟨brief.brief_id, brief.content_opportunities.map (·.opportunity_id)⟩

/-- The ids the model states for a request or, where it states no brief, those
that are drawn. -/
def idsFor (d : Deployment) (request : IntelBriefRequestedV1) (w : World) : ContentIds :=
  match (d.llmCallRunner.bind (· w.calls)).bind (readLlmBrief d request) with
  | some brief => idsOf brief
  | none => ⟨d.uuids.text (w.drawn + 2), [d.uuids.text (w.drawn + 1)]⟩

/-- Two requests got one brief id and one opportunity id in common. -/
def collide (ids others : ContentIds) : Bool :=
  ids.briefId == others.briefId && ids.opportunityIds.any others.opportunityIds.contains

/-- In the course of a log a request got its ids and its brief, which the
strategist then got through. -/
structure WentThrough (d : Deployment) (w : World) (log : List Operation)
    (request : IntelBriefRequestedV1) (ids : ContentIds) (brief : IntelBriefV1) : Prop where
  directed : ∃ a b now runner input, log = a ++ .request now runner input :: b ∧
    intelBriefRequestedV1Schema input = some request ∧
    ids = idsFor (at_ d now runner) request (runs (perform d) w a) ∧
    ((IntelDirectorWorker.processBriefRequest (at_ d now runner) input).run
      (runs (perform d) w a)).1 = .ok brief
  planned : ∃ a b now runner result, log = a ++ .plan now runner brief.toPayload :: b ∧
    ((ContentStrategistWorker.processBrief (at_ d now runner) brief.toPayload).run
      (runs (perform d) w a)).1 = .ok result

/-- Each opportunity of two briefs has an event of its own in either queue. -/
def Apart (o : InMemoryOutboxRepository) (brief other : IntelBriefV1) : Prop :=
  ∀ ref ∈ brief.content_opportunities, ∀ ref' ∈ other.content_opportunities, ∃ e f e' f',
    eventsAt o brief.tenant_id "content_opportunity.v1" (opportunityKey brief ref) = [e] ∧
    eventsAt o brief.tenant_id "content_brief.v1" (briefKey brief ref) = [f] ∧
    eventsAt o other.tenant_id "content_opportunity.v1" (opportunityKey other ref') = [e'] ∧
    eventsAt o other.tenant_id "content_brief.v1" (briefKey other ref') = [f'] ∧ e ≠ e' ∧ f ≠ f'

section
variable {d : Deployment}

/-- What may happen to a sound outbox. -/
structure Onward (r : Runtime) (o p : InMemoryOutboxRepository) : Prop where
  sound : Sound r p
  present : ∀ tenantId eventType key, Present o tenantId eventType key →
    Present p tenantId eventType key

theorem read_tenant {p : Payload} {b : IntelBriefV1} (read : IntelBriefV1.read p = some b) :
    Zod.required p "tenant_id" Zod.text = some b.tenant_id := by
  unfold IntelBriefV1.read at read
  obtain ⟨_, _, read⟩ := Option.bind_eq_some_iff.mp read
  obtain ⟨tenant_id, tenant, read⟩ := Option.bind_eq_some_iff.mp read
  iterate 8 obtain ⟨_, _, read⟩ := Option.bind_eq_some_iff.mp read
  cases read
  exact tenant

/-- The model does not decide the tenant. -/
theorem readLlmBrief_spec {request : IntelBriefRequestedV1} {content : String} {b : IntelBriefV1}
    (h : readLlmBrief d request content = some b) :
    b.valid d.runtime.isUrl = true ∧ b.tenant_id = request.tenant_id := by
  unfold readLlmBrief at h
  split at h
  · rename_i raw _
    obtain ⟨read, valid⟩ := Option.filter_eq_some_iff.mp h
    have there : (augmentBrief request d.now raw).lookup "tenant_id" =
        some (.str request.tenant_id) := rfl
    have tenant := read_tenant read
    simp only [Zod.required, there, Option.bind_some, Zod.text, Option.some.injEq] at tenant
    exact ⟨valid, tenant.symm⟩
  · cases h

theorem deterministic_ids (r : Runtime) (request : IntelBriefRequestedV1)
    (opportunityId briefId generatedAt : String) :
    idsOf (deterministicBrief r request opportunityId briefId generatedAt) =
      ⟨briefId, [opportunityId]⟩ := by
  unfold idsOf deterministicBrief signalBackedBriefFields
  cases request.trigger with
  | none => rfl
  | some trigger =>
    by_cases competitor : startsWith trigger.kind "competitor." = true
    · simp [competitor, triggeredOpportunity]
    · simp [competitor, triggeredOpportunity]

theorem briefFor_run (request : IntelBriefRequestedV1) (w : World) :
    (briefFor d request).Ends w fun x w' => w'.outbox = w.outbox ∧ ∀ b, x = .ok b →
      b.valid d.runtime.isUrl = true ∧ b.tenant_id = request.tenant_id ∧
        idsOf b = idsFor d request w := by
  have drawn : ∀ v : World, v.outbox = w.outbox → v.drawn = w.drawn →
      (generateDeterministicBrief d request).Ends v fun x w' => w'.outbox = w.outbox ∧
        ∀ b, x = .ok b → b.valid d.runtime.isUrl = true ∧ b.tenant_id = request.tenant_id ∧
          idsOf b = ⟨d.uuids.text (w.drawn + 2), [d.uuids.text (w.drawn + 1)]⟩ := by
    intro v same fresh
    unfold Store.Ends
    rw [FallbackBriefs.generate_run, fresh]
    dsimp only
    refine ⟨same, fun b made => ?_⟩
    split at made
    · rename_i valid
      cases made
      exact ⟨valid, rfl, deterministic_ids _ _ _ _ _⟩
    · cases made
  unfold briefFor idsFor
  cases d.llmCallRunner with
  | none => exact drawn w rfl rfl
  | some runner =>
    have asked : (generateLlmBrief d request runner).Ends w fun x w' =>
        x = .ok ((runner w.calls).bind (readLlmBrief d request)) ∧ w'.outbox = w.outbox ∧
          w'.drawn = w.drawn := ⟨rfl, rfl, rfl⟩
    refine asked.bind ?_ ?_
    · rintro e t ⟨thrown, _⟩
      cases thrown
    · rintro answer t ⟨done, same, fresh⟩
      cases done
      rw [Option.bind_some]
      cases read : (runner w.calls).bind (readLlmBrief d request) with
      | some b =>
        obtain ⟨content, _, stated⟩ := Option.bind_eq_some_iff.mp read
        obtain ⟨valid, tenant⟩ := readLlmBrief_spec stated
        refine Store.Ends.pure ⟨same, fun c made => ?_⟩
        cases made
        exact ⟨valid, tenant, rfl⟩
      | none => exact drawn t same fresh

/-- An event of another queue, whether or not it is let in. -/
theorem enqueue_onward {command : EnqueueOutboxEvent} {w : World} (sound : Sound d.runtime w.outbox)
    (foreign : command.eventType ≠ "content_opportunity.v1" ∧
      command.eventType ≠ "content_brief.v1") :
    (enqueue d command).Ends w fun _ w' => Onward d.runtime w.outbox w'.outbox := by
  refine Store.Ends.zoom (InMemoryOutboxRepository.enqueue_ends sound.consistent d.now.time command)
    fun x p ended => ?_
  rcases ended with unchanged | sends
  · rw [unchanged]
    exact ⟨sound, fun _ _ _ there => there⟩
  · rcases sends.events with ⟨unchanged, _⟩ | ⟨f, grown, written, _, _⟩
    · rw [unchanged]
      exact ⟨sound, fun _ _ _ there => there⟩
    · refine ⟨⟨sends.consistent, fun g there => ?_⟩, fun _ _ _ ⟨e, there, key⟩ =>
        ⟨e, grown ▸ List.mem_append_left _ there, key⟩⟩
      rw [grown] at there
      rcases List.mem_append.mp there with old | new
      · exact sound.contractual g old
      · have type : g.eventType = command.eventType :=
          congrArg EnqueueOutboxEvent.eventType (List.mem_singleton.mp new ▸ written)
        simp [contractual, type, foreign]

/-- What the director answers with and leaves. -/
theorem request_run {w : World} (sound : Sound d.runtime w.outbox) (input : Payload) :
    (IntelDirectorWorker.processBriefRequest d input).Ends w fun x w' =>
      Onward d.runtime w.outbox w'.outbox ∧
      ∀ b request, x = .ok b → intelBriefRequestedV1Schema input = some request →
        b.valid d.runtime.isUrl = true ∧ b.tenant_id = request.tenant_id ∧
          idsOf b = idsFor d request w := by
  unfold IntelDirectorWorker.processBriefRequest
  cases accepted : intelBriefRequestedV1Schema input with
  | none => exact ⟨⟨sound, fun _ _ _ there => there⟩, fun _ _ thrown => by cases thrown⟩
  | some request =>
    refine Store.Ends.pure_bind ((briefFor_run request w).bind ?_ ?_)
    · rintro e t ⟨same, _⟩
      rw [same]
      exact ⟨⟨sound, fun _ _ _ there => there⟩, fun _ _ thrown => by cases thrown⟩
    · rintro b t ⟨same, made⟩
      have sent : (enqueue d (createIntelBriefOutboxCommand request.tenant_id request.request_id
          b)).Ends t fun _ w' => Onward d.runtime w.outbox w'.outbox := by
        rw [← same] at sound ⊢
        have foreign : "intel_brief.v1" ≠ "content_opportunity.v1" ∧
            "intel_brief.v1" ≠ "content_brief.v1" := by decide
        exact enqueue_onward sound foreign
      refine sent.bind ?_ ?_
      · rintro e u onward
        exact ⟨onward, fun _ _ thrown => by cases thrown⟩
      · rintro e u onward
        refine Store.Ends.pure ⟨onward, fun c other done same_ => ?_⟩
        cases done
        cases same_
        exact made b rfl

theorem plan_onward {w : World} (sound : Sound d.runtime w.outbox) (input : Payload) :
    Onward d.runtime w.outbox ((ContentStrategistWorker.processBrief d input).run w).2.outbox := by
  cases accepted : intelBriefV1Schema d.runtime.isUrl input with
  | none =>
    have refused : (ContentStrategistWorker.processBrief d input).run w = (.error .zod, w) := by
      unfold ContentStrategistWorker.processBrief
      rw [accepted]
      rfl
    rw [refused]
    exact ⟨sound, fun _ _ _ there => there⟩
  | some brief =>
    obtain ⟨after, grows, _⟩ := process_run d accepted sound
    exact ⟨after, fun _ _ _ ⟨e, there, key⟩ => ⟨e, grows e there, key⟩⟩

theorem consume_onward {o : InMemoryOutboxRepository} {r : Runtime} (sound : Sound r o)
    (tenantId : String) (eventId : Nat) (consumedAt : Instant) :
    Onward r o ((InMemoryOutboxRepository.markConsumed tenantId eventId consumedAt).run o).2 := by
  have ended := InMemoryOutboxRepository.markConsumed_ends sound.consistent tenantId eventId consumedAt
  rcases ended with unchanged | ⟨consistent, e, time, stored, _, rows⟩
  · rw [unchanged]
    exact ⟨sound, fun _ _ _ there => there⟩
  · generalize ((InMemoryOutboxRepository.markConsumed tenantId eventId consumedAt).run o).2 = p at *
    have kept : ∀ f ∈ o.events, ∃ g ∈ p.events, g.toEnqueueOutboxEvent = f.toEnqueueOutboxEvent := by
      intro f there
      have at_ := sound.consistent.event there
      by_cases target : f.id = eventId
      · refine ⟨{ e with consumedAt := some time }, (p.eventsById.mem_values _).mpr ⟨eventId, ?_⟩, ?_⟩
        · rw [rows, InsertionMap.get_set_self]
        · rw [target, stored] at at_
          cases at_
          rfl
      · refine ⟨f, (p.eventsById.mem_values f).mpr ⟨f.id, ?_⟩, rfl⟩
        rw [rows, InsertionMap.get_set, if_neg target, at_]
    have origin : ∀ g ∈ p.events, ∃ f ∈ o.events, g.toEnqueueOutboxEvent = f.toEnqueueOutboxEvent := by
      intro g there
      obtain ⟨i, found⟩ := (p.eventsById.mem_values g).mp there
      rw [rows, InsertionMap.get_set] at found
      split at found
      · cases found
        exact ⟨e, (o.eventsById.mem_values e).mpr ⟨eventId, stored⟩, rfl⟩
      · exact ⟨g, (o.eventsById.mem_values g).mpr ⟨i, found⟩, rfl⟩
    refine ⟨⟨consistent, fun g there => ?_⟩, ?_⟩
    · obtain ⟨f, inside, same⟩ := origin g there
      have fits := sound.contractual f inside
      have type : g.eventType = f.eventType := congrArg EnqueueOutboxEvent.eventType same
      have payload : g.payload = f.payload := congrArg EnqueueOutboxEvent.payload same
      unfold contractual at fits ⊢
      rwa [type, payload]
    · rintro tenantId_ eventType key ⟨f, there, tenant, type, text⟩
      obtain ⟨g, inside, same⟩ := kept f there
      exact ⟨g, inside, (congrArg EnqueueOutboxEvent.tenantId same).trans tenant,
        (congrArg EnqueueOutboxEvent.eventType same).trans type,
        (congrArg EnqueueOutboxEvent.idempotencyKey same).trans text⟩

theorem perform_onward {w : World} (sound : Sound d.runtime w.outbox) (e : Operation) :
    Onward d.runtime w.outbox (perform d w e).outbox := by
  cases e with
  | request now runner input => exact (request_run (d := at_ d now runner) sound input).1
  | plan now runner input => exact plan_onward (d := at_ d now runner) sound input
  | consume tenantId eventId consumedAt => exact consume_onward sound tenantId eventId consumedAt

theorem runs_onward {w : World} (sound : Sound d.runtime w.outbox) (log : List Operation) :
    Onward d.runtime w.outbox (runs (perform d) w log).outbox := by
  have kept : ∀ (s : World) e, Sound d.runtime s.outbox → Sound d.runtime (perform d s e).outbox :=
    fun s e h => (perform_onward h e).sound
  refine ⟨runs_invariant (I := fun s : World => Sound d.runtime s.outbox) kept sound log, ?_⟩
  refine runs_related (I := fun s : World => Sound d.runtime s.outbox)
    (R := fun s t : World => ∀ tenantId eventType key, Present s.outbox tenantId eventType key →
      Present t.outbox tenantId eventType key)
    (fun _ _ _ _ there => there) (fun _ _ _ first next _ _ _ there => next _ _ _ (first _ _ _ there))
    kept (fun s e h => (perform_onward h e).present) sound log

/-- What a request that went through comes to. -/
theorem WentThrough.served {w : World} (sound : Sound d.runtime w.outbox) {log : List Operation}
    {request : IntelBriefRequestedV1} {ids : ContentIds} {brief : IntelBriefV1}
    (went : WentThrough d w log request ids brief) :
    brief.valid d.runtime.isUrl = true ∧ brief.tenant_id = request.tenant_id ∧ idsOf brief = ids ∧
      ∀ ref ∈ brief.content_opportunities, Served brief ref (runs (perform d) w log).outbox := by
  obtain ⟨⟨a, b, now, runner, input, _, accepted, rfl, made⟩,
    ⟨a', b', now', runner', result, split_, done⟩⟩ := went
  have before := (runs_onward sound a).sound
  obtain ⟨valid, tenant, ids⟩ :=
    (request_run (d := at_ d now runner) before input).2 brief request made accepted
  refine ⟨valid, tenant, ids, fun ref member => ?_⟩
  have then_ := (runs_onward sound a').sound
  obtain ⟨after, _, _, ended⟩ := process_run (at_ d now' runner')
    (intelBrief_accepted _ brief valid) then_
  rw [done] at ended
  split at ended
  · have served := ended.2 ref member
    have onward := (runs_onward after b').present
    rw [split_, runs_append, runs_cons]
    exact ⟨onward _ _ _ served.1, onward _ _ _ served.2⟩
  · cases ended

theorem eventsAt_present {o : InMemoryOutboxRepository} (h : o.Consistent)
    {tenantId eventType key : String} (present : Present o tenantId eventType key) :
    ∃ e, eventsAt o tenantId eventType key = [e] ∧ e.idempotencyKey = key := by
  obtain ⟨e, there, tenant, type, text⟩ := present
  have one := eventsAt_single h e.toEnqueueOutboxEvent there ⟨rfl, rfl, rfl⟩
  rw [tenant, type, text] at one
  exact ⟨e, one, text⟩

/-- Keys of two briefs meet only where both ids do. -/
theorem keys_apart {brief other : IntelBriefV1} (ref ref' : BriefOpportunityRef)
    (uuid : isUuid brief.brief_id = true) (uuid' : isUuid other.brief_id = true)
    (apart : ¬ (brief.brief_id = other.brief_id ∧ ref.opportunity_id = ref'.opportunity_id)) :
    opportunityKey brief ref ≠ opportunityKey other ref' ∧ briefKey brief ref ≠ briefKey other ref' :=
  ⟨fun same => apart (join_inj (uuid_no_colon uuid) (uuid_no_colon uuid') (join_right_inj same)),
    fun same => apart (join_inj (uuid_no_colon uuid) (uuid_no_colon uuid') (join_right_inj same))⟩

theorem collide_iff (brief other : IntelBriefV1) :
    collide (idsOf brief) (idsOf other) = true ↔ brief.brief_id = other.brief_id ∧
      ∃ ref ∈ brief.content_opportunities, ∃ ref' ∈ other.content_opportunities,
        ref'.opportunity_id = ref.opportunity_id := by
  simp [collide, idsOf]

/-- Briefs with both ids in common share an event. -/
theorem shared_not_apart {o : InMemoryOutboxRepository} {brief other : IntelBriefV1}
    (tenant : brief.tenant_id = other.tenant_id)
    (shared : collide (idsOf brief) (idsOf other) = true) : ¬ Apart o brief other := by
  obtain ⟨briefId, ref, member, ref', member', opportunityId⟩ := (collide_iff brief other).mp shared
  intro apart
  obtain ⟨e, f, e', f', he, hf, he', hf', events, _⟩ := apart ref member ref' member'
  have key : opportunityKey brief ref = opportunityKey other ref' := by
    simp only [opportunityKey, briefId, opportunityId]
  rw [tenant, key, he'] at he
  exact events (List.singleton_inj.mp he).symm

/-- Two requests of a tenant keep their content apart exactly where they were
not given a brief id and an opportunity id in common. -/
theorem content_apart_iff {w : World} (sound : Sound d.runtime w.outbox) {log : List Operation}
    {request request' : IntelBriefRequestedV1} {ids ids' : ContentIds} {brief brief' : IntelBriefV1}
    (one : WentThrough d w log request ids brief) (two : WentThrough d w log request' ids' brief')
    (tenant : request.tenant_id = request'.tenant_id) :
    Apart (runs (perform d) w log).outbox brief brief' ↔ collide ids ids' = false := by
  obtain ⟨valid, ofTenant, rfl, served⟩ := one.served sound
  obtain ⟨valid', ofTenant', rfl, served'⟩ := two.served sound
  have consistent := (runs_onward sound log).sound.consistent
  have same := ofTenant.trans (tenant.trans ofTenant'.symm)
  rw [← Bool.not_eq_true]
  constructor
  · intro apart shared
    exact shared_not_apart same shared apart
  · intro apart ref member ref' member'
    rw [collide_iff] at apart
    simp only [IntelBriefV1.valid, Bool.and_eq_true] at valid valid'
    obtain ⟨keys, keys'⟩ := keys_apart ref ref' valid.1.1.1.1.1.1.1.1.2
      valid'.1.1.1.1.1.1.1.1.2 fun both => apart ⟨both.1, ref, member, ref', member', both.2.symm⟩
    obtain ⟨e, he, textE⟩ := eventsAt_present consistent (served ref member).1
    obtain ⟨f, hf, textF⟩ := eventsAt_present consistent (served ref member).2
    obtain ⟨e', he', textE'⟩ := eventsAt_present consistent (served' ref' member').1
    obtain ⟨f', hf', textF'⟩ := eventsAt_present consistent (served' ref' member').2
    refine ⟨e, f, e', f', he, hf, he', hf', fun equal => keys ?_, fun equal => keys' ?_⟩
    · rw [← textE, ← textE', equal]
    · rw [← textF, ← textF', equal]

end

def pilots : IntelBriefV1 := briefTitled "pilots"

def prices : IntelBriefV1 :=
  { briefTitled "prices" with brief_id := "55555555-5555-4555-8555-555555555555" }

/-- A model's answers are read as one of two briefs. -/
def twoBriefs : Deployment :=
  { plain with
    runtime := { plainRuntime with
      jsonParse := fun s => some (.obj (if s = "\x7b\x7d" then pilots.toPayload else prices.toPayload)) } }

def requested (requestId : String) : Payload :=
  [("schema_version", .str "intel_brief_requested.v1"), ("request_id", .str requestId),
    ("tenant_id", .str "11111111-1111-4111-8111-111111111111"),
    ("period_from", .str "2026-07-19"), ("period_to", .str "2026-07-19")]

def firstRequest : Payload := requested "66666666-6666-4666-8666-666666666666"

def secondRequest : Payload := requested "77777777-7777-4777-8777-777777777777"

/-- Two requests, to which the model answers as told, and both of their briefs. -/
def bothThrough (answer : String) (brief : IntelBriefV1) : List Operation :=
  [.request today (some fun _ => some "\x7b\x7d") firstRequest,
    .request today (some fun _ => some answer) secondRequest, .plan today none pilots.toPayload,
    .plan today none brief.toPayload]

/-- A brief whose one title has a slug goes through without a model. -/
theorem plan_returns (brief : IntelBriefV1) (valid : brief.valid twoBriefs.runtime.isUrl = true)
    {ref : BriefOpportunityRef} (only : brief.content_opportunities = [ref])
    (slug : ref.title.toList.any isSlugChar = true) (log : List Operation) :
    ∃ result, ((ContentStrategistWorker.processBrief (at_ twoBriefs today none) brief.toPayload).run
      (runs (perform twoBriefs) ⟨.empty, 0, 0⟩ log)).1 = .ok result := by
  have sound := (runs_onward (d := twoBriefs) (w := ⟨.empty, 0, 0⟩) (empty_sound _) log).sound
  obtain ⟨_, _, _, ended⟩ := process_run (at_ twoBriefs today none)
    (intelBrief_accepted _ brief valid) sound
  have cleared : ∀ n, clears (at_ twoBriefs today none) brief n brief.content_opportunities = true := by
    intro n
    rw [only]
    simp only [clears, Bool.and_true, admits, Bool.or_eq_true]
    exact Or.inr slug
  rw [if_pos (cleared _)] at ended
  exact ended.1

/-- Both requests are of one tenant and go through. -/
theorem both_through (answer : String) (brief : IntelBriefV1)
    (second : ((IntelDirectorWorker.processBriefRequest
      (at_ twoBriefs today (some fun _ => some answer)) secondRequest).run
        (runs (perform twoBriefs) ⟨.empty, 0, 0⟩ ((bothThrough answer brief).take 1))).1 = .ok brief)
    (valid : brief.valid twoBriefs.runtime.isUrl = true) {ref : BriefOpportunityRef}
    (only : brief.content_opportunities = [ref]) (slug : ref.title.toList.any isSlugChar = true) :
    ∃ request request' ids ids',
      WentThrough twoBriefs ⟨.empty, 0, 0⟩ (bothThrough answer brief) request ids pilots ∧
      WentThrough twoBriefs ⟨.empty, 0, 0⟩ (bothThrough answer brief) request' ids' brief ∧
      request.tenant_id = request'.tenant_id ∧ request.request_id ≠ request'.request_id := by
  have one : (intelBriefRequestedV1Schema firstRequest).any (fun request =>
      request.tenant_id == "11111111-1111-4111-8111-111111111111" &&
        request.request_id == "66666666-6666-4666-8666-666666666666") = true := by
    decide
  have two : (intelBriefRequestedV1Schema secondRequest).any (fun request =>
      request.tenant_id == "11111111-1111-4111-8111-111111111111" &&
        request.request_id == "77777777-7777-4777-8777-777777777777") = true := by
    decide
  obtain ⟨request, accepted, named⟩ := (Option.any_eq_true _ _).mp one
  obtain ⟨request', accepted', named'⟩ := (Option.any_eq_true _ _).mp two
  simp only [Bool.and_eq_true, beq_iff_eq] at named named'
  obtain ⟨result, done⟩ := plan_returns pilots (by decide) rfl (by decide)
    ((bothThrough answer brief).take 2)
  obtain ⟨result', done'⟩ := plan_returns brief valid only slug ((bothThrough answer brief).take 3)
  have directed : ((IntelDirectorWorker.processBriefRequest
      (at_ twoBriefs today (some fun _ => some "\x7b\x7d")) firstRequest).run ⟨.empty, 0, 0⟩).1 =
        .ok pilots := by
    decide
  refine ⟨request, request', _, _,
    ⟨⟨[], _, today, _, firstRequest, rfl, accepted, rfl, directed⟩,
      ⟨(bothThrough answer brief).take 2, _, today, none, result, rfl, done⟩⟩,
    ⟨⟨(bothThrough answer brief).take 1, _, today, _, secondRequest, rfl, accepted', rfl, second⟩,
      ⟨(bothThrough answer brief).take 3, _, today, none, result', rfl, done'⟩⟩,
    named.1.trans named'.1.symm, ?_⟩
  rw [named.2, named'.2]
  decide

theorem other_brief_apart : Apart
    (runs (perform twoBriefs) ⟨.empty, 0, 0⟩ (bothThrough "\x7b \x7d" prices)).outbox pilots prices := by
  obtain ⟨request, request', ids, ids', one, two, tenant, _⟩ :=
    both_through "\x7b \x7d" prices (by decide) (by decide) rfl (by decide)
  have sound := empty_sound twoBriefs.runtime
  obtain ⟨_, _, same, _⟩ := one.served (w := ⟨.empty, 0, 0⟩) sound
  obtain ⟨_, _, same', _⟩ := two.served (w := ⟨.empty, 0, 0⟩) sound
  refine (content_apart_iff (w := ⟨.empty, 0, 0⟩) sound one two tenant).mpr ?_
  rw [← same, ← same']
  decide

/-- A model that answers both requests alike leaves the second no content of its
own. -/
theorem repeated_answer_shadows : ¬ ∀ (d : Deployment) (w : World) (log : List Operation)
    (request request' : IntelBriefRequestedV1) (ids ids' : ContentIds) (brief brief' : IntelBriefV1),
    Sound d.runtime w.outbox → WentThrough d w log request ids brief →
      WentThrough d w log request' ids' brief' → request.tenant_id = request'.tenant_id →
        request.request_id ≠ request'.request_id →
          Apart (runs (perform d) w log).outbox brief brief' := by
  intro claim
  obtain ⟨request, request', ids, ids', one, two, tenant, differ⟩ :=
    both_through "\x7b\x7d" pilots (by decide) (by decide) rfl (by decide)
  have apart := claim _ _ _ request request' ids ids' pilots pilots (empty_sound _) one two tenant differ
  exact shared_not_apart rfl (by decide) apart

end VantGrowth.Proofs.RequestContent
