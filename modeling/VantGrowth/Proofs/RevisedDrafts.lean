import VantGrowth.Learning.Revisions
import VantGrowth.Proofs.CritiqueFallbacks
import VantGrowth.Proofs.HandlerCalls
import VantGrowth.Proofs.HumanApproval
import VantGrowth.Proofs.RequestedEvents
import VantGrowth.Proofs.SubjectTenants

namespace VantGrowth.Proofs.RevisedDrafts
open Core Db Db.InMemoryOutboxRepository Db.LearningProposalStore Lib Lib.Text Learning
open Content (CritiqueDeployment CritiqueResult completedCommand createBlogDraftCritiqueRequest)
open ProposalEffects ProposalKeys WorldSteps HandlerCalls CritiqueFallbacks
open SubjectTenants (plainRuntime emptyWorld)

section
variable {o p : InMemoryOutboxRepository}

theorem completedEvents_eq (o : InMemoryOutboxRepository) :
    completedEvents o = (o.events.map (·.toEnqueueOutboxEvent)).filter
      (·.eventType == critiqueCompletedEventType) := by
  rw [List.filter_map]
  rfl

theorem completed_appended {e : StoredOutboxEvent} (grown : p.events = o.events ++ [e]) :
    completedEvents p = completedEvents o ++
      if e.eventType = critiqueCompletedEventType then [e.toEnqueueOutboxEvent] else [] := by
  rw [completedEvents_eq, completedEvents_eq, grown, List.map_append, List.filter_append]
  congr 1
  by_cases own : e.eventType = critiqueCompletedEventType <;> simp [own]

/-- Whatever else is sent, the critiques stay as they are. -/
theorem completed_other {command : EnqueueOutboxEvent} (sends : Sends command o p)
    (other : command.eventType ≠ critiqueCompletedEventType) :
    completedEvents p = completedEvents o := by
  rcases sends.events with ⟨rfl, _⟩ | ⟨e, grown, written, _, _⟩
  · rfl
  · rw [completed_appended grown, if_neg, List.append_nil]
    exact fun own => other ((congrArg EnqueueOutboxEvent.eventType written).symm.trans own)

theorem completed_own {command : EnqueueOutboxEvent} (sends : Sends command o p)
    (own : command.eventType = critiqueCompletedEventType) :
    completedEvents p = completedEvents o ∨ completedEvents p = completedEvents o ++ [command] := by
  rcases sends.events with ⟨rfl, _⟩ | ⟨e, grown, written, _, _⟩
  · exact Or.inl rfl
  · right
    rw [completed_appended grown, if_pos, written]
    exact (congrArg EnqueueOutboxEvent.eventType written).trans own

/-- An event that is marked consumed is the same command. -/
theorem completed_consumed (h : o.Consistent) {tenantId : String} {id : Nat}
    (consumes : Consumes tenantId id o p) : completedEvents p = completedEvents o := by
  obtain ⟨e, at_, stored, _, rows⟩ := consumes.event
  have named : ∀ k v, o.eventsById.get k = some v → v.id = k := fun k v found => (h.stored k v found).1
  have events : p.events =
      o.events.map fun u => if u.id = id then { e with consumedAt := some at_ } else u := by
    unfold events
    rw [rows]
    exact InsertionMap.values_set_stored named stored _
  rw [completedEvents_eq, completedEvents_eq, events, List.map_map]
  congr 1
  apply List.map_congr_left
  intro u member
  simp only [Function.comp_apply]
  split
  · rename_i same
    have found := h.event member
    rw [same, stored] at found
    rw [Option.some.inj found]
  · rfl

end

/-- The critiques and the origins of the proposals are what they were. -/
structure Still (w w' : World) : Prop where
  completed : completedEvents w'.proposals.outboxRepository =
    completedEvents w.proposals.outboxRepository
  rows : ∀ i q, w'.proposals.recordsById.get i = some q →
    ∃ p, w.proposals.recordsById.get i = some p ∧ origin q = origin p
  persists : Persists w.proposals w'.proposals

theorem Still.refl (w : World) : Still w w := ⟨rfl, fun _ q stored => ⟨q, stored, rfl⟩, .refl _⟩

theorem Still.trans {u v w : World} (first : Still u v) (second : Still v w) : Still u w := by
  refine ⟨second.completed.trans first.completed, ?_, first.persists.trans second.persists⟩
  intro i q stored
  obtain ⟨p, held, same⟩ := second.rows i q stored
  obtain ⟨o, before, again⟩ := first.rows i p held
  exact ⟨o, before, same.trans again⟩

theorem Still.of_rows {w w' : World} (same : SameRows w.proposals w'.proposals)
    (completed : completedEvents w'.proposals.outboxRepository =
      completedEvents w.proposals.outboxRepository) : Still w w' := by
  refine ⟨completed, ?_, ?_⟩
  · intro i q stored
    rw [same.records] at stored
    exact ⟨q, stored, rfl⟩
  · intro i q stored
    exact ⟨q, by rw [same.records, stored], rfl⟩

section
variable {d : Deployment} {w : World}

/-- What is no creation and announces no critique leaves both alone. -/
theorem exec_still (h : WorldSound d w) {op : Op} (foreign : op.foreign = true) :
    Still w ((exec d op).run w).2 := by
  cases calls : asCall op with
  | none =>
    obtain ⟨same, outbox⟩ := exec_quiet d w h.proposals.outbox calls
    refine .of_rows same ?_
    cases op with
    | enqueue command =>
      rcases outbox with kept | sends
      · rw [kept]
      · exact completed_other sends (bne_iff_ne.mp foreign)
    | markConsumed tenantId id =>
      rcases outbox with kept | consumes
      · rw [kept]
      · exact completed_consumed h.proposals.outbox consumes
    | _ => rw [show _ = _ from outbox]
  | some call =>
    have effect := (exec_effect d w h.proposals.outbox calls).1
    generalize leaseReport op ((exec d op).run w).1 = report at effect
    refine ⟨?_, ?_, effect_persists h.proposals effect⟩
    · cases effect with
      | kept records drawn outbox => rw [outbox]
      | created params tenantId tenant drawn records outbox => rw [outbox]
      | changed id p q e _ stored change records drawn outbox =>
        rcases outbox with kept | sends
        · rw [kept]
        · have other : learningProposalApprovedEventType ≠ critiqueCompletedEventType := by
            decide
          exact completed_other sends other
    · intro i q stored
      cases effect with
      | kept records =>
        rw [records] at stored
        exact ⟨q, stored, rfl⟩
      | created params tenantId tenant drawn records outbox index vacant asked =>
        obtain ⟨raw, rfl, _⟩ := asked
        cases op with
        | createProposal => cases foreign
        | _ => cases calls
      | changed id p q' e _ held change records =>
        rw [records, InsertionMap.get_set] at stored
        split at stored
        · rename_i same
          cases stored
          exact ⟨p, same ▸ held, change_origin change⟩
        · exact ⟨q, stored, rfl⟩

theorem promotes_foreign {tenantId : String} {op : Op} (promotes : Promotes tenantId op) :
    op.foreign = true := by
  cases op with
  | createProposal => exact promotes.elim
  | enqueue command =>
    have type := promotes.2
    simp only [Op.foreign, type]
    decide
  | _ => rfl

theorem runAlone_await {op : Op} {f : Res op → Worker α} :
    Prog.runAlone (exec d) (await op >>= f) = exec d op >>= fun r => Prog.runAlone (exec d) (f r) :=
  rfl

/-- A program of such operations leaves them alone as well. -/
theorem runAlone_still {P : Op → Prop} (quiet : ∀ op, P op → op.foreign = true) {m : Worker α}
    (performs : Performs P m) (h : WorldSound d w) :
    (Prog.runAlone (exec d) m).Ends w fun _ w' => WorldSound d w' ∧ Still w w' := by
  have each : ∀ (k : List (Did Res)) op s, P op → WorldSound d s →
      (exec d op).Ends s fun _ t => WorldSound d t ∧ Still s t :=
    fun _ op s within sound => ⟨exec_sound d op sound, exec_still sound (quiet op within)⟩
  refine (Prog.runAlone_ends Still.refl (fun _ _ _ => Still.trans) each performs h).weaken ?_
  exact fun _ _ ended => ⟨ended.1, ended.2.1⟩

/-- A creation leaves a row of its key, and every row that is new holds what it
was asked to create. -/
structure Made (tenantId : String) (params : CreateLearningProposalParams CritiqueProposalPayload)
    (w w' : World) : Prop where
  sound : WorldSound d w'
  completed : completedEvents w'.proposals.outboxRepository =
    completedEvents w.proposals.outboxRepository
  persists : Persists w.proposals w'.proposals
  held : ∃ i q, w'.proposals.recordsById.get i = some q ∧ q.tenantId = tenantId ∧
    q.proposalKey = params.proposalKey
  rows : ∀ i q, w'.proposals.recordsById.get i = some q →
    (∃ p, w.proposals.recordsById.get i = some p ∧ origin q = origin p) ∨
      ∃ j, q = newRecord params j tenantId w.clock

theorem creation_ends (h : WorldSound d w) {tenantId : String}
    {raw params : CreateLearningProposalParams CritiqueProposalPayload}
    (tenant : isUuid tenantId = true) (parsed : raw.parse = some params) :
    (exec d (.createProposal tenantId raw)).Ends w fun x w' =>
      (∃ p, x = .ok p) ∧ Made (d := d) tenantId params w w' := by
  have answers : (exec d (.createProposal tenantId raw)).Ends w fun x _ => ∃ p, x = .ok p :=
    (onProposals_ends (Q := fun x _ => ∃ p, x = .ok p)
      (choose_ends (inMemory_answers tenant parsed) (postgres_answers h.indexed tenant parsed))).1
  obtain ⟨created, _⟩ := creation_step d w tenantId raw
  obtain ⟨p, answered⟩ := answers
  have sound := exec_sound d (.createProposal tenantId raw) h
  have effect := created.effect
  refine ⟨⟨p, answered⟩, sound, ?_, effect_persists h.proposals effect, ?_, ?_⟩
  · cases effect with
    | kept records drawn outbox => rw [outbox]
    | created params tenantId tenant drawn records outbox => rw [outbox]
    | changed id p q e _ stored change => cases change <;> simp at *
  · obtain ⟨params', i, parses, _, index, stored⟩ := created.answered p answered
    cases parsed.symm.trans parses
    obtain ⟨q, found, owner, keyed⟩ := sound.indexed.row_of_key tenant index
    exact ⟨i, q, found, owner, keyed⟩
  · intro i q stored
    cases effect with
    | kept records =>
      rw [records] at stored
      exact Or.inl ⟨q, stored, rfl⟩
    | created params' tenantId' _ _ records _ _ _ asked =>
      obtain ⟨raw', same, parses⟩ := asked
      cases same
      cases parsed.symm.trans parses
      rw [records, InsertionMap.get_set] at stored
      split at stored
      · exact Or.inr ⟨_, (Option.some.inj stored).symm⟩
      · exact Or.inl ⟨q, stored, rfl⟩
    | changed id p q e _ held change => cases change <;> simp at *

end

/-- A proposal that was made of a critique of a tenant. -/
structure Told (tenantId : String) (critique : CritiqueCompletedPayload) (q : Proposal) : Prop where
  tenant : q.tenantId = tenantId
  key : nonEmptyText (createdByOf critique) = some q.proposalKey
  id : q.proposalPayload.critique_id = critique.critique_id
  artifact : q.proposalPayload.artifact_id = critique.artifact_id
  reasons : q.proposalPayload.failure_reasons = critique.reasons

theorem Told.of_origin {tenantId : String} {critique : CritiqueCompletedPayload} {p q : Proposal}
    (told : Told tenantId critique p) (same : origin q = origin p) : Told tenantId critique q := by
  have payload : q.proposalPayload = p.proposalPayload := congrArg Origin.proposalPayload same
  refine ⟨?_, ?_, ?_, ?_, ?_⟩
  · exact (congrArg Origin.tenantId same).trans told.tenant
  · exact told.key.trans (congrArg some (congrArg Origin.proposalKey same).symm)
  · rw [payload, told.id]
  · rw [payload, told.artifact]
  · rw [payload, told.reasons]

/-- A critique that the learner took leaves a row of its key, and every row that
is new is made of it. -/
structure Learned (d : Deployment) (tenantId : String) (critique : CritiqueCompletedPayload)
    (w w' : World) : Prop where
  sound : WorldSound d w'
  completed : completedEvents w'.proposals.outboxRepository =
    completedEvents w.proposals.outboxRepository
  persists : Persists w.proposals w'.proposals
  held : ∃ i q, w'.proposals.recordsById.get i = some q ∧ q.tenantId = tenantId ∧
    nonEmptyText (createdByOf critique) = some q.proposalKey
  rows : ∀ i q, w'.proposals.recordsById.get i = some q →
    (∃ p, w.proposals.recordsById.get i = some p ∧ origin q = origin p) ∨ Told tenantId critique q

section
variable {d : Deployment} {w : World} {tenantId : String} {critique : CritiqueCompletedPayload}
  {playbookType : PlaybookType}

theorem uuid_plain {s : String} (h : isUuid s = true) : ∀ c ∈ s.toList, isSpaceChar c = false := by
  have small : ∀ n < 103, isHexDigit (Char.ofNat n) = true → isSpaceChar (Char.ofNat n) = false := by
    decide
  intro c member
  rcases uuid_char h member with rfl | hex
  · decide
  · have low : c.toNat < 103 := by
      simp only [isHexDigit, Char.isDigit, Bool.or_eq_true, Bool.and_eq_true, decide_eq_true_eq,
        Char.le_def, UInt32.le_iff_toNat_le] at hex
      simp only [Char.toNat]
      have nine : '9'.val.toNat = 57 := rfl
      have f : 'f'.val.toNat = 102 := rfl
      have upper : 'F'.val.toNat = 70 := rfl
      have limit : (57 : UInt32).toNat = 57 := rfl
      omega
    have plain := small c.toNat low
    rw [Char.ofNat_toNat] at plain
    exact plain hex

theorem uuid_trimmed {s : String} (h : isUuid s = true) : nonEmptyText s = some s := by
  have plain : jsTrim s = s := jsTrim_plain (uuid_plain h)
  have filled : s ≠ "" := by
    rintro rfl
    cases h
  simp [nonEmptyText, plain, filled]

theorem createdBy_filled (critique : CritiqueCompletedPayload) :
    nonEmptyText (createdByOf critique) = some (jsTrim (createdByOf critique)) := by
  have first : (createdByOf critique).toList.head? = some 'c' := by
    rw [createdByOf, join_toList]
    rfl
  exact if_neg (jsTrim_ne_empty first (by decide))

theorem persist_parses (tenantId : String) (valid : critique.valid = true) (artifact : isUuid critique.artifact_id = true)
    (proposedAt : Instant) : ∃ params,
      (persistParams tenantId critique .blog_draft proposedAt).parse = some params ∧
      params.proposalKey = jsTrim (createdByOf critique) ∧
      params.proposalPayload = proposedPayload tenantId critique .blog_draft proposedAt := by
  have key : nonEmptyText (join "critique" critique.critique_id) =
      some (jsTrim (createdByOf critique)) := createdBy_filled critique
  have lineage : optionalField uuidText critique.experiment_id = some critique.experiment_id := by
    simp only [CritiqueCompletedPayload.valid, Bool.and_eq_true] at valid
    have uuid := valid.1.1.1.2
    cases named : critique.experiment_id with
    | none => rfl
    | some id =>
      rw [named] at uuid
      simp [optionalField, uuidText, show isUuid id = true from uuid]
  have target : nonEmptyText PlaybookType.blog_draft.text = some "blog_draft" := by decide
  refine ⟨{ persistParams tenantId critique .blog_draft proposedAt with
    proposalKey := jsTrim (createdByOf critique), createdBy := jsTrim (createdByOf critique) },
    ?_, rfl, rfl⟩
  have absent : optionalField nonEmptyText none = some none := rfl
  simp only [CreateLearningProposalParams.parse, persistParams, createdByOf, key, lineage, target,
    uuid_trimmed artifact, absent, Option.bind_eq_bind, Option.bind_some]
  rfl

/-- What follows the creation of the proposal. -/
def afterCreation (d : Deployment) (tenantId : String) (critique : CritiqueCompletedPayload)
    (playbookType : PlaybookType) (proposedAt : Instant) (persisted : Proposal) :
    Worker (Option PlaybookVersionRecord) := do
  let _ ← await (.enqueue (changeProposedCommand tenantId
    (proposedPayload tenantId critique playbookType proposedAt) persisted))
  evaluateAndPromote d tenantId (proposalOf tenantId critique playbookType) critique playbookType
    persisted

theorem process_eq (valid : critique.valid = true) (corrective : critique.verdict ≠ .approve)
    (known : resolvePlaybookType critique.artifact_kind = .known playbookType) :
    processFromCritique d tenantId critique = (do
      let proposedAt : Instant ← await .now
      let persisted : Proposal ← await
        (.createProposal tenantId (persistParams tenantId critique playbookType proposedAt))
      afterCreation d tenantId critique playbookType proposedAt persisted) := by
  have passed : (Prog.require (critique.valid = true) .zod : Worker Unit) = pure () := if_pos valid
  unfold processFromCritique
  rw [if_neg corrective, known, passed]
  rfl

theorem afterCreation_foreign (proposedAt : Instant) (persisted : Proposal) :
    Performs (fun op => op.foreign = true)
      (afterCreation d tenantId critique playbookType proposedAt persisted) := by
  have other : "learning.playbook.change.proposed.v1" ≠ critiqueCompletedEventType := by
    decide
  refine performs_await (bne_iff_ne.mpr other) fun _ => ?_
  exact (evaluateAndPromote_performs _ critique _ persisted).sub fun op => promotes_foreign

/-- What is left of a creation is left after what follows it. -/
theorem Made.learned {t u : World} {params : CreateLearningProposalParams CritiqueProposalPayload}
    {proposedAt : Instant} (made : Made (d := d) tenantId params w t)
    (key : params.proposalKey = jsTrim (createdByOf critique))
    (payload : params.proposalPayload = proposedPayload tenantId critique playbookType proposedAt)
    (sound : WorldSound d u) (still : Still t u) : Learned d tenantId critique w u := by
  obtain ⟨i, q, stored, owner, keyed⟩ := made.held
  obtain ⟨q', later, same⟩ := still.persists i q stored
  refine ⟨sound, still.completed.trans made.completed, made.persists.trans still.persists, ?_, ?_⟩
  · refine ⟨i, q', later, (congrArg Origin.tenantId same).trans owner, ?_⟩
    have kept : q'.proposalKey = q.proposalKey := congrArg Origin.proposalKey same
    rw [createdBy_filled, kept, keyed, key]
  · intro j r found
    obtain ⟨r', before, origin'⟩ := still.rows j r found
    rcases made.rows j r' before with ⟨p, old, again⟩ | ⟨k, new⟩
    · exact Or.inl ⟨p, old, origin'.trans again⟩
    · right
      apply Told.of_origin (p := r') ?_ origin'
      rw [new]
      refine ⟨rfl, ?_, ?_, ?_, ?_⟩
      · rw [createdBy_filled]
        exact congrArg some key.symm
      · exact congrArg CritiqueProposalPayload.critique_id payload
      · exact congrArg CritiqueProposalPayload.artifact_id payload
      · exact congrArg CritiqueProposalPayload.failure_reasons payload

theorem learned_ends (h : WorldSound d w) (tenant : isUuid tenantId = true)
    (valid : critique.valid = true) (artifact : isUuid critique.artifact_id = true)
    (corrective : critique.verdict ≠ .approve)
    (known : resolvePlaybookType critique.artifact_kind = .known .blog_draft) :
    (Prog.runAlone (exec d) (processFromCritique d tenantId critique)).Ends w
      fun _ w' => Learned d tenantId critique w w' := by
  obtain ⟨params, parsed, key, payload⟩ := persist_parses tenantId valid artifact w.clock
  rw [process_eq valid corrective known, runAlone_await]
  refine Store.Ends.read_bind ?_
  rw [runAlone_await]
  refine Store.Ends.bind (creation_ends h tenant parsed) ?_ ?_
  · rintro e t ⟨⟨p, thrown⟩, _⟩
    cases thrown
  · rintro persisted t ⟨_, made⟩
    refine (runAlone_still (fun _ foreign => foreign) (afterCreation_foreign w.clock persisted)
      made.sound).weaken ?_
    rintro x u ⟨sound, still⟩
    exact made.learned key payload sound still

end

section
variable (runtime : Content.Runtime)

/-- The id a draft's critique gets, whatever the iteration. -/
def draftCritiqueId (draft : BlogDraftV1) : String :=
  deterministicUuid runtime.sha256 ("critique:blog-draft:" ++ draft.draft_id)

/-- A result the gate came to over a draft. -/
structure Graded (draft : BlogDraftV1) (result : CritiqueResult) : Prop where
  valid : result.valid = true
  tenant : result.tenantId = draft.tenant_id
  id : result.critiqueId = draftCritiqueId runtime draft
  kind : result.artifactKind = "blog_draft.v1"
  artifact : result.artifactId = draft.draft_id
  uuid : isUuid draft.draft_id = true

theorem request_made {payload : Payload} {request : Content.CritiqueRequest}
    (made : createBlogDraftCritiqueRequest runtime payload = some request) :
    ∃ draft, blogDraftV1Schema runtime.isUrl payload = some draft ∧ request.valid = true ∧
      ∀ result : CritiqueResult, result.valid = true → result.toCritiqueRequest = request →
        Graded runtime draft result := by
  obtain ⟨draft, read, rest⟩ := Option.bind_eq_some_iff.mp made
  have accepted := (Option.filter_eq_some_iff.mp read).2
  simp only [BlogDraftV1.valid, Bool.and_eq_true] at accepted
  have uuid := accepted.1.1.1.1.1.1.1.1.1.1.2
  dsimp only at rest
  split at rest
  · rename_i valid
    cases rest
    refine ⟨draft, read, valid, fun result admitted same => ?_⟩
    obtain ⟨request, scoring, at_⟩ := result
    cases same
    exact ⟨admitted, rfl, rfl, rfl, rfl, uuid⟩
  · cases rest

/-- A draft that reaches the gate adds at most one critique, its own. -/
theorem graded_ends (d : CritiqueDeployment) (payload : Payload) {w : Content.World}
    (h : w.outbox.Consistent) :
    (gradeDraft runtime d payload).Ends w fun _ w' => w'.outbox.Consistent ∧
      (completedEvents w'.outbox = completedEvents w.outbox ∨
        ∃ draft result, blogDraftV1Schema runtime.isUrl payload = some draft ∧
          Graded runtime draft result ∧
          completedEvents w'.outbox = completedEvents w.outbox ++ [completedCommand result]) := by
  unfold gradeDraft
  cases made : createBlogDraftCritiqueRequest runtime payload with
  | none => exact Store.Ends.throw_bind ⟨h, Or.inl rfl⟩
  | some request =>
    obtain ⟨draft, read, valid, graded⟩ := request_made runtime made
    refine Store.Ends.pure_bind ((critique_run { d with runtime } valid h).weaken ?_)
    rintro x w' (⟨⟨result, _, same, _, admitted, sends⟩, _⟩ | ⟨_, kept, _⟩)
    · refine ⟨sends.consistent, ?_⟩
      rcases completed_own sends rfl with unmoved | grown
      · exact Or.inl unmoved
      · exact Or.inr ⟨draft, result, read, graded result admitted same, grown⟩
    · rw [kept]
      exact ⟨h, Or.inl rfl⟩

end

section
variable (timeOf : String → Instant) (r : LearningRuntime) (runtime : Content.Runtime)
  (init : Shared) (log : List Turn)

abbrev reached : Shared := runs (Shared.turn timeOf r runtime) init log

/-- The critiques a log comes to, oldest first. -/
abbrev announced : List EnqueueOutboxEvent :=
  completedEvents (reached timeOf r runtime init log).outbox

/-- The critique at a position was made of this draft. -/
def DraftOf (position : Nat) (draft : BlogDraftV1) : Prop :=
  ∃ before d payload rest, log = before ++ .graded d payload :: rest ∧
    blogDraftV1Schema runtime.isUrl payload = some draft ∧
    (announced timeOf r runtime init before).length = position ∧
    (announced timeOf r runtime init (before ++ [.graded d payload])).length = position + 1

def Delivered (position : Nat) : Prop :=
  ∃ before streamSequence rest, log = before ++ .delivered position streamSequence :: rest ∧
    (deliverable timeOf r (reached timeOf r runtime init before) position).isSome = true

/-- A stored critique that asks for a correction and was delivered. -/
structure Corrective (position : Nat) (event : EnqueueOutboxEvent)
    (critique : CritiqueCompletedPayload) : Prop where
  stored : (announced timeOf r runtime init log)[position]? = some event
  read : critiqueCompletedPayloadSchema timeOf (.obj event.payload) = some critique
  corrective : critique.verdict ≠ .approve
  delivered : Delivered timeOf r runtime init log position

/-- Any two corrective critiques have their two proposals, each with the reasons
of its own. -/
def Kept : Prop :=
  ∀ i j e f c k, Corrective timeOf r runtime init log i e c →
    Corrective timeOf r runtime init log j f k → i ≠ j → ∃ p q,
      (reached timeOf r runtime init log).world.proposals.recordsById.get p.id = some p ∧
      (reached timeOf r runtime init log).world.proposals.recordsById.get q.id = some q ∧
      p.id ≠ q.id ∧ Told e.tenantId c p ∧ Told f.tenantId k q

/-- No two corrective critiques are of drafts of one tenant that get one critique
id: collisions of the digest apart, of two iterations of one draft. -/
def Apart : Prop :=
  ∀ i j e f c k a b, Corrective timeOf r runtime init log i e c →
    Corrective timeOf r runtime init log j f k → DraftOf timeOf r runtime init log i a →
    DraftOf timeOf r runtime init log j b → i ≠ j →
      a.tenant_id ≠ b.tenant_id ∨ draftCritiqueId runtime a ≠ draftCritiqueId runtime b

/-- What holds after every log: each critique has its draft, each proposal its
critique, and each corrective critique a proposal of its key. -/
structure Sheet : Prop where
  sound : WorldSound r.learning (reached timeOf r runtime init log).world
  drafts : ∀ i e, (announced timeOf r runtime init log)[i]? = some e →
    ∃ draft result, DraftOf timeOf r runtime init log i draft ∧ Graded runtime draft result ∧
      e = completedCommand result
  made : ∀ i draft, DraftOf timeOf r runtime init log i draft → ∃ result, Graded runtime draft result ∧
    (announced timeOf r runtime init log)[i]? = some (completedCommand result)
  bound : ∀ i, Delivered timeOf r runtime init log i →
    i < (announced timeOf r runtime init log).length
  rows : ∀ k q, (reached timeOf r runtime init log).world.proposals.recordsById.get k = some q →
    ∃ i e c, Corrective timeOf r runtime init log i e c ∧ Told e.tenantId c q
  held : ∀ i e c, Corrective timeOf r runtime init log i e c → ∃ k q,
    (reached timeOf r runtime init log).world.proposals.recordsById.get k = some q ∧
      q.tenantId = e.tenantId ∧ nonEmptyText (createdByOf c) = some q.proposalKey

end

section
variable {timeOf : String → Instant} {r : LearningRuntime} {runtime : Content.Runtime}
  {init : Shared} {log : List Turn}

theorem reached_snoc (timeOf : String → Instant) (r : LearningRuntime) (runtime : Content.Runtime)
    (init : Shared) (log : List Turn) (t : Turn) : reached timeOf r runtime init (log ++ [t]) =
    Shared.turn timeOf r runtime (reached timeOf r runtime init log) t :=
  runs_append _ _ _ _

theorem DraftOf.snoc {i : Nat} {draft : BlogDraftV1} (h : DraftOf timeOf r runtime init log i draft)
    (t : Turn) : DraftOf timeOf r runtime init (log ++ [t]) i draft := by
  obtain ⟨before, d, payload, rest, rfl, found⟩ := h
  exact ⟨before, d, payload, rest ++ [t], by simp, found⟩

theorem Delivered.snoc {i : Nat} (h : Delivered timeOf r runtime init log i) (t : Turn) :
    Delivered timeOf r runtime init (log ++ [t]) i := by
  obtain ⟨before, n, rest, rfl, found⟩ := h
  exact ⟨before, n, rest ++ [t], by simp, found⟩

/-- What was delivered by a longer log was delivered before, or just now. -/
theorem delivered_snoc {t : Turn} {i : Nat} (h : Delivered timeOf r runtime init (log ++ [t]) i) :
    Delivered timeOf r runtime init log i ∨ ∃ n event, t = .delivered i n ∧
      deliverable timeOf r (reached timeOf r runtime init log) i = some event := by
  obtain ⟨before, n, rest, split, found⟩ := h
  rcases Logs.split_snoc split with ⟨rfl, same⟩ | ⟨rest, earlier⟩
  · obtain ⟨event, there⟩ := Option.isSome_iff_exists.mp found
    exact Or.inr ⟨n, event, same.symm, there⟩
  · exact Or.inl ⟨before, n, rest, earlier, found⟩

theorem deliverable_stored {s : Shared} {i : Nat} {event : EnqueueOutboxEvent}
    (h : deliverable timeOf r s i = some event) :
    (completedEvents s.outbox)[i]? = some event :=
  (Option.filter_eq_some_iff.mp h).1

end

section
variable {timeOf : String → Instant} {r : LearningRuntime} {runtime : Content.Runtime}
  {init : Shared} {log : List Turn}

theorem stored_grows {later : List Turn}
    (grows : announced timeOf r runtime init log <+: announced timeOf r runtime init later) {i : Nat}
    {e : EnqueueOutboxEvent} (stored : (announced timeOf r runtime init log)[i]? = some e) :
    (announced timeOf r runtime init later)[i]? = some e := by
  obtain ⟨bound, rfl⟩ := List.getElem?_eq_some_iff.mp stored
  obtain ⟨more, whole⟩ := grows
  rw [← whole, List.getElem?_append_left bound, List.getElem?_eq_getElem bound]

/-- What a turn may add: critiques of a draft that reached the gate, and proposals
of critiques that were delivered. -/
structure Carries (timeOf : String → Instant) (r : LearningRuntime) (runtime : Content.Runtime)
    (init : Shared) (log : List Turn) (t : Turn) : Prop where
  sound : WorldSound r.learning (reached timeOf r runtime init (log ++ [t])).world
  grows : announced timeOf r runtime init log <+: announced timeOf r runtime init (log ++ [t])
  persists : Persists (reached timeOf r runtime init log).world.proposals
    (reached timeOf r runtime init (log ++ [t])).world.proposals
  drafts : ∀ i e, (announced timeOf r runtime init (log ++ [t]))[i]? = some e →
    (announced timeOf r runtime init log)[i]? = some e ∨
      ∃ draft result, DraftOf timeOf r runtime init (log ++ [t]) i draft ∧
        Graded runtime draft result ∧ e = completedCommand result
  made : ∀ d payload draft, t = .graded d payload →
    blogDraftV1Schema runtime.isUrl payload = some draft →
    (announced timeOf r runtime init (log ++ [t])).length =
      (announced timeOf r runtime init log).length + 1 →
    ∃ result, Graded runtime draft result ∧
      (announced timeOf r runtime init (log ++ [t]))[(announced timeOf r runtime init log).length]? =
        some (completedCommand result)
  rows : ∀ k q,
    (reached timeOf r runtime init (log ++ [t])).world.proposals.recordsById.get k = some q →
    (∃ p, (reached timeOf r runtime init log).world.proposals.recordsById.get k = some p ∧
      origin q = origin p) ∨
    ∃ i e c, Corrective timeOf r runtime init (log ++ [t]) i e c ∧ Told e.tenantId c q
  taken : ∀ i n e c, t = .delivered i n →
    deliverable timeOf r (reached timeOf r runtime init log) i = some e →
    critiqueCompletedPayloadSchema timeOf (.obj e.payload) = some c → c.verdict ≠ .approve →
    ∃ k q, (reached timeOf r runtime init (log ++ [t])).world.proposals.recordsById.get k = some q ∧
      q.tenantId = e.tenantId ∧ nonEmptyText (createdByOf c) = some q.proposalKey

theorem Sheet.snoc (h : Sheet timeOf r runtime init log) {t : Turn}
    (step : Carries timeOf r runtime init log t) : Sheet timeOf r runtime init (log ++ [t]) := by
  refine ⟨step.sound, ?_, ?_, ?_, ?_, ?_⟩
  · intro i e stored
    rcases step.drafts i e stored with before | new
    · obtain ⟨draft, result, made, graded, same⟩ := h.drafts i e before
      exact ⟨draft, result, made.snoc t, graded, same⟩
    · exact new
  · rintro i draft ⟨before, d, payload, rest, split, read, position, next⟩
    rcases Logs.split_snoc split with ⟨rfl, same⟩ | ⟨rest, earlier⟩
    · cases same
      cases position
      exact step.made d payload draft rfl read next
    · obtain ⟨result, graded, stored⟩ :=
        h.made i draft ⟨before, d, payload, rest, earlier, read, position, next⟩
      exact ⟨result, graded, stored_grows step.grows stored⟩
  · intro i delivered
    rcases delivered_snoc delivered with before | ⟨n, event, _, there⟩
    · exact Nat.lt_of_lt_of_le (h.bound i before) step.grows.length_le
    · have stored := stored_grows step.grows (deliverable_stored there)
      exact (List.getElem?_eq_some_iff.mp stored).1
  · intro k q stored
    rcases step.rows k q stored with ⟨p, before, same⟩ | new
    · obtain ⟨i, e, c, corrective, told⟩ := h.rows k p before
      exact ⟨i, e, c, ⟨stored_grows step.grows corrective.stored, corrective.read, corrective.corrective,
        corrective.delivered.snoc t⟩, told.of_origin same⟩
    · exact new
  · intro i e c corrective
    rcases delivered_snoc corrective.delivered with before | ⟨n, event, same, there⟩
    · have inside := List.getElem?_eq_getElem (h.bound i before)
      have same := (stored_grows step.grows inside).symm.trans corrective.stored
      obtain ⟨k, q, stored, owner, keyed⟩ := h.held i e c
        ⟨inside.trans same, corrective.read, corrective.corrective, before⟩
      obtain ⟨q', later, kept⟩ := step.persists k q stored
      refine ⟨k, q', later, (congrArg Origin.tenantId kept).trans owner, ?_⟩
      exact keyed.trans (congrArg some (congrArg Origin.proposalKey kept).symm)
    · have stored := stored_grows step.grows (deliverable_stored there)
      cases stored.symm.trans corrective.stored
      exact step.taken i n e c same there corrective.read corrective.corrective

/-- A turn that leaves critiques and proposals alone. -/
theorem Carries.still (t : Turn)
    (sound : WorldSound r.learning (reached timeOf r runtime init (log ++ [t])).world)
    (still : Still (reached timeOf r runtime init log).world
      (reached timeOf r runtime init (log ++ [t])).world)
    (taken : ∀ i n e c, t = .delivered i n →
      deliverable timeOf r (reached timeOf r runtime init log) i = some e →
      critiqueCompletedPayloadSchema timeOf (.obj e.payload) = some c → c.verdict = .approve) :
    Carries timeOf r runtime init log t := by
  have same : announced timeOf r runtime init (log ++ [t]) =
      announced timeOf r runtime init log := still.completed
  refine ⟨sound, ?_, still.persists, ?_, ?_, ?_, ?_⟩
  · exact ⟨[], by rw [List.append_nil, same]⟩
  · intro i e stored
    rw [same] at stored
    exact Or.inl stored
  · intro d payload draft _ _ longer
    rw [same] at longer
    omega
  · intro k q stored
    exact Or.inl (still.rows k q stored)
  · intro i n e c delivered there read corrective
    exact absurd (taken i n e c delivered there read) corrective

end

section
variable {timeOf : String → Instant} {r : LearningRuntime} {runtime : Content.Runtime}
  {init : Shared} {log : List Turn}

theorem Sheet.elsewhere (h : Sheet timeOf r runtime init log) (op : Op) :
    Carries timeOf r runtime init log (.elsewhere op) := by
  have step := reached_snoc timeOf r runtime init log (.elsewhere op)
  by_cases foreign : op.foreign = true
  · have world : (reached timeOf r runtime init (log ++ [.elsewhere op])).world =
        ((exec r.learning op).run (reached timeOf r runtime init log).world).2 := by
      rw [step, Shared.turn, if_pos foreign]
    refine .still _ ?_ ?_ (by simp)
    · rw [world]
      exact exec_sound r.learning op h.sound
    · rw [world]
      exact exec_still h.sound foreign
  · rw [Shared.turn, if_neg foreign] at step
    refine .still _ ?_ ?_ (by simp)
    · rw [step]
      exact h.sound
    · rw [step]
      exact .refl _

/-- The handler of a critique's message is what the learner does about it. -/
theorem handle_eq (event : EnqueueOutboxEvent) {critique : CritiqueCompletedPayload}
    (tenant : isUuid event.tenantId = true)
    (read : critiqueCompletedPayloadSchema timeOf (.obj event.payload) = some critique)
    (streamSequence : Nat) : handle timeOf r (critiqueMessage event streamSequence) = (do
      let _ ← processFromCritique r.learning event.tenantId critique) := by
  have owner : Publisher.tenantIdFromSubject
      ("t." ++ event.tenantId ++ "." ++ event.eventType) = .ok event.tenantId :=
    RequestedEvents.subject_names tenant event.eventType _
  unfold handle critiqueMessage
  dsimp only
  rw [owner, read]
  rfl

/-- The learner went through a corrective critique. -/
theorem Carries.learned {position streamSequence : Nat}
    {event : EnqueueOutboxEvent} {critique : CritiqueCompletedPayload}
    (learned : Learned r.learning event.tenantId critique (reached timeOf r runtime init log).world
      (reached timeOf r runtime init (log ++ [.delivered position streamSequence])).world)
    (there : deliverable timeOf r (reached timeOf r runtime init log) position = some event)
    (read : critiqueCompletedPayloadSchema timeOf (.obj event.payload) = some critique)
    (corrective : critique.verdict ≠ .approve) :
    Carries timeOf r runtime init log (.delivered position streamSequence) := by
  have same : announced timeOf r runtime init (log ++ [.delivered position streamSequence]) =
      announced timeOf r runtime init log := learned.completed
  have own : Corrective timeOf r runtime init (log ++ [.delivered position streamSequence]) position
      event critique := by
    refine ⟨?_, read, corrective, log, streamSequence, [], rfl, Option.isSome_iff_exists.mpr ⟨_, there⟩⟩
    rw [same]
    exact deliverable_stored there
  refine ⟨learned.sound, ?_, learned.persists, ?_, by simp, ?_, ?_⟩
  · exact ⟨[], by rw [List.append_nil, same]⟩
  · intro i e stored
    rw [same] at stored
    exact Or.inl stored
  · intro k q stored
    rcases learned.rows k q stored with old | told
    · exact Or.inl old
    · exact Or.inr ⟨position, event, critique, own, told⟩
  · intro i n e c delivered found read' _
    cases delivered
    cases there.symm.trans found
    cases read.symm.trans read'
    exact learned.held

theorem process_approved {d : Deployment} {tenantId : String} {critique : CritiqueCompletedPayload}
    (valid : critique.valid = true) (approved : critique.verdict = .approve) :
    processFromCritique d tenantId critique = pure none := by
  have passed : (Prog.require (critique.valid = true) .zod : Worker Unit) = pure () := if_pos valid
  unfold processFromCritique
  rw [if_pos approved, passed]
  rfl

theorem Sheet.delivered (h : Sheet timeOf r runtime init log) (position streamSequence : Nat) :
    Carries timeOf r runtime init log (.delivered position streamSequence) := by
  have step := reached_snoc timeOf r runtime init log (.delivered position streamSequence)
  rw [Shared.turn] at step
  cases there : deliverable timeOf r (reached timeOf r runtime init log) position with
  | none =>
    rw [there] at step
    refine .still _ ?_ ?_ ?_
    · rw [step]
      exact h.sound
    · rw [step]
      exact .refl _
    · intro i n e c same found
      cases same
      rw [there] at found
      cases found
  | some event =>
    rw [there] at step
    dsimp only at step
    have stored := deliverable_stored there
    obtain ⟨draft, result, made, graded, rfl⟩ := h.drafts position event stored
    have read := completed_read graded.valid timeOf
    have tenant : isUuid result.tenantId = true := by
      have valid := graded.valid
      simp only [CritiqueResult.valid, Content.CritiqueRequest.valid, Bool.and_eq_true] at valid
      exact valid.1.1.1.1.1.1.1.1.1.1.1
    have valid := SubjectTenants.critique_valid timeOf read
    rw [handle_eq (completedCommand result) tenant read streamSequence] at step
    by_cases approved : (heard timeOf result).verdict = .approve
    · rw [process_approved valid approved] at step
      refine .still _ ?_ ?_ ?_
      · rw [step]
        exact h.sound
      · rw [step]
        exact .refl _
      · intro i n e c same found read'
        cases same
        cases there.symm.trans found
        cases read.symm.trans read'
        exact approved
    · have known : resolvePlaybookType (heard timeOf result).artifact_kind = .known .blog_draft := by
        rw [show (heard timeOf result).artifact_kind = "blog_draft.v1" from graded.kind]
        decide
      have artifact : isUuid (heard timeOf result).artifact_id = true := by
        rw [show (heard timeOf result).artifact_id = draft.draft_id from graded.artifact]
        exact graded.uuid
      have handled : (Prog.runAlone (exec r.learning) (do
          let _ ← processFromCritique r.learning result.tenantId (heard timeOf result))).Ends
          (reached timeOf r runtime init log).world fun _ w' =>
            Learned r.learning result.tenantId (heard timeOf result)
              (reached timeOf r runtime init log).world w' := by
        rw [Prog.runAlone_bind]
        exact Store.Ends.bind (learned_ends h.sound tenant valid artifact approved known)
          (fun _ _ learned => learned) fun _ _ learned => Store.Ends.pure learned
      have learned : Learned r.learning result.tenantId (heard timeOf result)
          (reached timeOf r runtime init log).world
          (reached timeOf r runtime init (log ++ [.delivered position streamSequence])).world := by
        rw [step]
        exact handled
      exact .learned learned there read approved

theorem Sheet.graded (h : Sheet timeOf r runtime init log) (d : CritiqueDeployment)
    (payload : Payload) : Carries timeOf r runtime init log (.graded d payload) := by
  have step := reached_snoc timeOf r runtime init log (.graded d payload)
  rw [Shared.turn] at step
  obtain ⟨consistent, critiques⟩ := graded_ends runtime d payload
    (w := (reached timeOf r runtime init log).gate) h.sound.proposals.outbox
  generalize ((gradeDraft runtime d payload).run (reached timeOf r runtime init log).gate).2 = w
    at step consistent critiques
  have same : SameRows (reached timeOf r runtime init log).world.proposals
      (reached timeOf r runtime init (log ++ [.graded d payload])).world.proposals := by
    rw [step]
    exact ⟨rfl, rfl, rfl⟩
  have outbox : (reached timeOf r runtime init (log ++ [.graded d payload])).outbox = w.outbox := by
    rw [step]
    rfl
  have sound : WorldSound r.learning
      (reached timeOf r runtime init (log ++ [.graded d payload])).world := by
    refine ⟨same.sound ?_ h.sound.proposals, same.indexed h.sound.indexed, ?_⟩
    · rw [← outbox] at consistent
      exact consistent
    · rw [step]
      exact h.sound.playbooks
  rcases critiques with unmoved | ⟨draft, result, read, graded, grown⟩
  · rw [← outbox] at unmoved
    exact .still _ sound (.of_rows same unmoved) (by simp)
  · have appended : announced timeOf r runtime init (log ++ [.graded d payload]) =
        announced timeOf r runtime init log ++ [completedCommand result] := by
      rw [← outbox] at grown
      exact grown
    refine ⟨sound, ?_, ?_, ?_, ?_, ?_, by simp⟩
    · rw [appended]
      exact List.prefix_append _ _
    · intro i p stored
      exact ⟨p, by rw [same.records, stored], rfl⟩
    · intro i e stored
      rw [appended] at stored
      by_cases old : i < (announced timeOf r runtime init log).length
      · rw [List.getElem?_append_left old] at stored
        exact Or.inl stored
      · rw [List.getElem?_append_right (Nat.le_of_not_lt old), List.getElem?_singleton] at stored
        split at stored
        · rename_i last
          cases stored
          have position : (announced timeOf r runtime init log).length = i := by
            omega
          refine Or.inr ⟨draft, result, ⟨log, d, payload, [], rfl, read, position, ?_⟩, graded, rfl⟩
          rw [appended, List.length_append, position]
          rfl
        · cases stored
    · intro d' payload' draft' same' read' _
      cases same'
      cases read.symm.trans read'
      refine ⟨result, graded, ?_⟩
      rw [appended, List.getElem?_append_right (Nat.le_refl _), Nat.sub_self]
      rfl
    · intro k q stored
      rw [same.records] at stored
      exact Or.inl ⟨q, stored, rfl⟩

end

section
variable {timeOf : String → Instant} {r : LearningRuntime} {runtime : Content.Runtime}
  {init : Shared} {log : List Turn}

theorem Sheet.carries (h : Sheet timeOf r runtime init log) (t : Turn) :
    Carries timeOf r runtime init log t := by
  cases t with
  | graded d payload => exact h.graded d payload
  | delivered position streamSequence => exact h.delivered position streamSequence
  | elsewhere op => exact h.elsewhere op

theorem sheet (start : SystemLogs.Fresh r.learning init.world) (log : List Turn) :
    Sheet timeOf r runtime init log := by
  induction log using List.reverseRecOn with
  | nil =>
    have empty : announced timeOf r runtime init [] = [] := by
      show completedEvents init.world.proposals.outboxRepository = []
      rw [start.proposals]
      rfl
    have none_ : ∀ k, init.world.proposals.recordsById.get k = none := by
      intro k
      rw [start.proposals]
      rfl
    refine ⟨start.sound, ?_, ?_, ?_, ?_, ?_⟩
    · simp [empty]
    · rintro i draft ⟨before, d, payload, rest, split, _⟩
      exact absurd split (by simp)
    · rintro i ⟨before, n, rest, split, _⟩
      exact absurd split (by simp)
    · intro k q stored
      cases (none_ k).symm.trans stored
    · rintro i e c ⟨_, _, _, before, n, rest, split, _⟩
      exact absurd split (by simp)
  | append_singleton log t ih => exact ih.snoc (ih.carries t)

/-- What was announced stays announced, at its position. -/
theorem announced_grows (start : SystemLogs.Fresh r.learning init.world) (log later : List Turn) :
    announced timeOf r runtime init log <+: announced timeOf r runtime init (log ++ later) := by
  induction later using List.reverseRecOn with
  | nil =>
    exact ⟨[], by rw [List.append_nil, List.append_nil]⟩
  | append_singleton later t ih =>
    rw [← List.append_assoc]
    exact ih.trans ((sheet start (log ++ later)).carries t).grows

variable {log : List Turn}

/-- A corrective critique is of its draft's tenant and has its draft's id. -/
theorem Sheet.drafted (h : Sheet timeOf r runtime init log) {i : Nat} {e : EnqueueOutboxEvent}
    {c : CritiqueCompletedPayload} {draft : BlogDraftV1}
    (corrective : Corrective timeOf r runtime init log i e c)
    (made : DraftOf timeOf r runtime init log i draft) :
    e.tenantId = draft.tenant_id ∧ c.critique_id = draftCritiqueId runtime draft := by
  obtain ⟨result, graded, stored⟩ := h.made i draft made
  cases corrective.stored.symm.trans stored
  cases corrective.read.symm.trans (completed_read graded.valid timeOf)
  exact ⟨graded.tenant, graded.id⟩

theorem createdBy_inj {c k : CritiqueCompletedPayload} (first : isUuid c.critique_id = true)
    (second : isUuid k.critique_id = true)
    (same : nonEmptyText (createdByOf c) = nonEmptyText (createdByOf k)) :
    c.critique_id = k.critique_id := by
  have plain : ∀ critique : CritiqueCompletedPayload, isUuid critique.critique_id = true →
      jsTrim (createdByOf critique) = createdByOf critique := by
    intro critique uuid
    apply jsTrim_plain
    intro ch member
    rw [createdByOf, join_toList, List.mem_append, List.mem_cons] at member
    rcases member with tag | rfl | id
    · have all : "critique".toList.all (!isSpaceChar ·) = true := by decide
      simpa using List.all_eq_true.mp all ch tag
    · decide
    · exact uuid_plain uuid ch id
  rw [createdBy_filled, createdBy_filled, plain c first, plain k second] at same
  exact join_right_inj (Option.some.inj same)

/-- Two corrective critiques of one key are one, where drafts are apart. -/
theorem Sheet.same_position (h : Sheet timeOf r runtime init log)
    (digest : ∀ s, isDigest (runtime.sha256 s) = true) (apart : Apart timeOf r runtime init log)
    {i j : Nat} {e f : EnqueueOutboxEvent} {c k : CritiqueCompletedPayload}
    (first : Corrective timeOf r runtime init log i e c)
    (second : Corrective timeOf r runtime init log j f k) (tenant : e.tenantId = f.tenantId)
    (key : nonEmptyText (createdByOf c) = nonEmptyText (createdByOf k)) : i = j := by
  obtain ⟨a, _, madeA, _⟩ := h.drafts i e first.stored
  obtain ⟨b, _, madeB, _⟩ := h.drafts j f second.stored
  obtain ⟨ownerA, idA⟩ := h.drafted first madeA
  obtain ⟨ownerB, idB⟩ := h.drafted second madeB
  have ids : c.critique_id = k.critique_id := by
    apply createdBy_inj ?_ ?_ key
    · rw [idA]
      exact deterministicUuid_uuid (digest _)
    · rw [idB]
      exact deterministicUuid_uuid (digest _)
  by_contra ne
  rcases apart i j e f c k a b first second madeA madeB ne with owners | names
  · exact owners (ownerA.symm.trans (tenant.trans ownerB))
  · exact names (idA.symm.trans (ids.trans idB))

/-- Where drafts are apart, each corrective critique has a proposal with its own
reasons. -/
theorem Sheet.own_proposal (h : Sheet timeOf r runtime init log)
    (digest : ∀ s, isDigest (runtime.sha256 s) = true) (apart : Apart timeOf r runtime init log)
    {i : Nat} {e : EnqueueOutboxEvent} {c : CritiqueCompletedPayload}
    (corrective : Corrective timeOf r runtime init log i e c) : ∃ p,
      (reached timeOf r runtime init log).world.proposals.recordsById.get p.id = some p ∧
      Told e.tenantId c p := by
  obtain ⟨k, q, stored, owner, keyed⟩ := h.held i e c corrective
  obtain ⟨j, f, c', other, told⟩ := h.rows k q stored
  have same := h.same_position digest apart corrective other (owner.symm.trans told.tenant)
    (keyed.trans told.key.symm)
  subst same
  cases corrective.stored.symm.trans other.stored
  cases corrective.read.symm.trans other.read
  have id := (h.sound.proposals.ids k q stored).1
  exact ⟨q, id.symm ▸ stored, told⟩

/-- Two critiques of drafts with one id would share their proposal. -/
theorem Sheet.apart (h : Sheet timeOf r runtime init log) (kept : Kept timeOf r runtime init log) :
    Apart timeOf r runtime init log := by
  intro i j e f c k a b first second madeA madeB ne
  by_contra both
  rw [not_or, not_not, not_not] at both
  obtain ⟨p, q, storedP, storedQ, distinct, toldP, toldQ⟩ := kept i j e f c k first second ne
  obtain ⟨ownerA, idA⟩ := h.drafted first madeA
  obtain ⟨ownerB, idB⟩ := h.drafted second madeB
  have ids : c.critique_id = k.critique_id := idA.trans (both.2.trans idB.symm)
  have tenant : p.tenantId = q.tenantId := by
    rw [toldP.tenant, toldQ.tenant, ownerA, ownerB, both.1]
  have key : p.proposalKey = q.proposalKey := by
    have same := toldP.key.symm.trans ((congrArg (fun id => nonEmptyText (join "critique" id))
      ids).trans toldQ.key)
    exact Option.some.inj same
  exact distinct (h.sound.indexed.one_row storedP storedQ tenant key)

theorem Sheet.kept (h : Sheet timeOf r runtime init log)
    (digest : ∀ s, isDigest (runtime.sha256 s) = true) (apart : Apart timeOf r runtime init log) :
    Kept timeOf r runtime init log := by
  intro i j e f c k first second ne
  obtain ⟨p, storedP, toldP⟩ := h.own_proposal digest apart first
  obtain ⟨q, storedQ, toldQ⟩ := h.own_proposal digest apart second
  refine ⟨p, q, storedP, storedQ, ?_, toldP, toldQ⟩
  intro same
  rw [same, storedQ] at storedP
  cases storedP
  exact ne (h.same_position digest apart first second (toldP.tenant.symm.trans toldQ.tenant)
    (toldP.key.trans toldQ.key.symm))

/-- Whatever the drafts, their critiques and their deliveries, every corrective
critique has its own proposal exactly where no two of them are of drafts that get
one critique id. -/
theorem reasons_kept_iff (digest : ∀ s, isDigest (runtime.sha256 s) = true)
    (start : SystemLogs.Fresh r.learning init.world) (log : List Turn) :
    Kept timeOf r runtime init log ↔ Apart timeOf r runtime init log :=
  ⟨(sheet start log).apart, (sheet start log).kept digest⟩

end

section
variable {timeOf : String → Instant} {r : LearningRuntime} {runtime : Content.Runtime}
  {init : Shared} {log : List Turn}

/-- The drafts that reached the gate, in turn. -/
def gradedDrafts (runtime : Content.Runtime) (log : List Turn) : List BlogDraftV1 :=
  log.filterMap fun
    | .graded _ payload => blogDraftV1Schema runtime.isUrl payload
    | _ => none

theorem DraftOf.graded {i : Nat} {draft : BlogDraftV1}
    (made : DraftOf timeOf r runtime init log i draft) : draft ∈ gradedDrafts runtime log := by
  obtain ⟨before, d, payload, rest, rfl, read, _⟩ := made
  simp [gradedDrafts, read]

/-- Drafts that reach the gate once each are apart. -/
theorem apart_of_once (once : (gradedDrafts runtime log).Pairwise fun a b =>
    draftCritiqueId runtime a ≠ draftCritiqueId runtime b) : Apart timeOf r runtime init log := by
  rintro i j e f c k a b first second ⟨x, d, payload, x', splitA, readA, startA, _⟩
    ⟨y, d', payload', y', splitB, readB, startB, _⟩ ne
  right
  have listed : ∀ {u m v : List Turn} {g g' : CritiqueDeployment} {p p' : Payload}
      {s t : BlogDraftV1}, log = u ++ .graded g p :: (m ++ .graded g' p' :: v) →
      blogDraftV1Schema runtime.isUrl p = some s → blogDraftV1Schema runtime.isUrl p' = some t →
      draftCritiqueId runtime s ≠ draftCritiqueId runtime t := by
    rintro u m v g g' p p' s t rfl readS readT
    simp only [gradedDrafts, List.filterMap_append, List.filterMap_cons, readS, readT] at once
    have later := (List.pairwise_append.mp once).2.1
    exact (List.pairwise_cons.mp later).1 t (by simp)
  rcases Logs.split_order (splitA.symm.trans splitB) with ⟨rfl, _, _⟩ | ⟨m, _, tail⟩ | ⟨m, _, tail⟩
  · exact absurd (startA.symm.trans startB) ne
  · rw [tail] at splitA
    exact listed splitA readA readB
  · rw [tail] at splitB
    exact (listed splitB readB readA).symm

/-- A stored critique whose verdict is known and that was delivered. -/
theorem Sheet.corrective_at (h : Sheet timeOf r runtime init log) (i : Nat) (verdict : String)
    (said : (announced timeOf r runtime init log)[i]?.bind
      (·.payload.text "verdict") = some verdict) (corrective : verdict ≠ "approve")
    (delivered : Delivered timeOf r runtime init log i) :
    ∃ e c, Corrective timeOf r runtime init log i e c := by
  obtain ⟨e, stored, text⟩ := Option.bind_eq_some_iff.mp said
  obtain ⟨draft, result, _, graded, rfl⟩ := h.drafts i e stored
  refine ⟨_, _, stored, completed_read graded.valid timeOf, ?_, delivered⟩
  intro approved
  have named : (Content.completedPayload result).text "verdict" = some result.verdict.text := by
    unfold Content.completedPayload Payload.text
    cases result.experimentId <;> cases result.changeRisk <;> rfl
  rw [show result.verdict = .approve from approved] at named
  exact corrective (Option.some.inj (text.symm.trans named))

end

def answer (verdict reason : String) : String :=
  "\x7b\"verdict\":\"" ++ verdict ++ "\",\"reasons\":[\"" ++ reason ++ "\"]\x7d"

def answerJson (verdict reason : String) : Json :=
  .obj [("verdict", .str verdict), ("reasons", texts [reason])]

/-- A runtime that reads two answers and digests two names. -/
def twoAnswers : Content.Runtime :=
  { FallbackBriefs.plainRuntime with
    jsonParse := fun s =>
      if s = answer "revise" "Too thin." then some (answerJson "revise" "Too thin.")
      else if s = answer "reject" "No evidence." then some (answerJson "reject" "No evidence.")
      else none
    sha256 := fun s =>
      if s = "critique:blog-draft:33333333-3333-4333-8333-333333333333" then
        "4ed2db023609e937db3c61a5c445cd954a9367db06ad447bc6f835430404b885"
      else "b9d78d63b6f014108a267bed1a3ee35f667a463c5fd54906efa5789b8e3e42cb" }

theorem twoAnswers_digest (s : String) : isDigest (twoAnswers.sha256 s) = true := by
  unfold twoAnswers
  dsimp only
  split <;> decide

def critic (content : String) : CritiqueDeployment where
  runtime := twoAnswers
  uuids := FallbackBriefs.sameUuid
  now := FallbackBriefs.today
  llmCallRunner := some fun _ => some content

def revision (draftId : String) (iteration : ℚ) : BlogDraftV1 where
  tenant_id := HumanApproval.acme
  experiment_id := none
  draft_id := draftId
  brief_id := "22222222-2222-4222-8222-222222222222"
  generated_at := "2026-07-19T12:00:00Z"
  iteration := iteration
  title := "Pricing pilots"
  meta_description := ""
  body_markdown := "".pushn 'a' 100
  word_count := 1
  reading_time_minutes := 1
  estimated_claims := []
  quality_indicators := ⟨none, none, false, false, 0⟩
  status := .draft

/-- Two drafts, each found wanting for a reason of its own. -/
def critiqued (first second : BlogDraftV1) : List Turn :=
  [.graded (critic (answer "revise" "Too thin.")) first.toPayload,
    .graded (critic (answer "reject" "No evidence.")) second.toPayload]

def opening : Shared := ⟨emptyWorld, 0, 0⟩

theorem opening_fresh : SystemLogs.Fresh plainRuntime.learning opening.world :=
  ⟨rfl, rfl, PlaybookVersionStore.empty_sound _ _⟩

/-- The verdicts a log announces. -/
def verdicts (log : List Turn) : List (Option String) :=
  (announced (fun _ => 0) plainRuntime twoAnswers opening log).map (·.payload.text "verdict")

/-- A critique with a corrective verdict that is delivered later is corrective from
then on. -/
theorem corrective_later (before : List Turn) (i : Nat) (verdict : String)
    (said : (verdicts before)[i]? = some (some verdict)) (corrective : verdict ≠ "approve")
    (between : List Turn) (n : Nat) (rest : List Turn) : ∃ e c,
      Corrective (fun _ => 0) plainRuntime twoAnswers opening
        (before ++ between ++ .delivered i n :: rest) i e c := by
  rw [verdicts, List.getElem?_map, Option.map_eq_some_iff] at said
  obtain ⟨e, stored, text⟩ := said
  have there := stored_grows (announced_grows opening_fresh before between) stored
  have later := stored_grows
    (announced_grows opening_fresh (before ++ between) (.delivered i n :: rest)) there
  refine (sheet opening_fresh _).corrective_at i verdict ?_ corrective
    ⟨before ++ between, n, rest, rfl, ?_⟩
  · rw [later]
    exact text
  · exact Option.isSome_iff_exists.mpr ⟨e, Option.filter_eq_some_iff.mpr ⟨there, rfl⟩⟩

/-- The two drafts once both critiques were told to the learner. -/
def corrected (first second : BlogDraftV1) : List Turn :=
  critiqued first second ++ [.delivered 0 1, .delivered 1 2]

theorem both_corrective {first second : BlogDraftV1}
    (said : verdicts (critiqued first second) = [some "revise", some "reject"]) :
    (∃ e c, Corrective (fun _ => 0) plainRuntime twoAnswers opening (corrected first second) 0 e c) ∧
    ∃ f k, Corrective (fun _ => 0) plainRuntime twoAnswers opening (corrected first second) 1 f k := by
  refine ⟨corrective_later (critiqued first second) 0 "revise" ?_ (by decide) [] 1 [.delivered 1 2],
    corrective_later (critiqued first second) 1 "reject" ?_ (by decide) [.delivered 0 1] 2 []⟩
  · rw [said]
    rfl
  · rw [said]
    rfl

def firstDraft : BlogDraftV1 := revision "33333333-3333-4333-8333-333333333333" 1

def secondDraft : BlogDraftV1 := revision "33333333-3333-4333-8333-333333333333" 2

def otherDraft : BlogDraftV1 := revision "44444444-4444-4444-8444-444444444444" 1

theorem firstDraft_valid : firstDraft.valid twoAnswers.isUrl = true := by decide +kernel

/-- The drafts of a log of two are those two. -/
theorem corrected_drafts {first second : BlogDraftV1} (one : first.valid twoAnswers.isUrl = true)
    (two : second.valid twoAnswers.isUrl = true) :
    gradedDrafts twoAnswers (corrected first second) = [first, second] := by
  simp [gradedDrafts, corrected, critiqued, blogDraft_accepted twoAnswers.isUrl first one,
    blogDraft_accepted twoAnswers.isUrl second two]

theorem other_draft_kept : ∃ e f c k,
    Corrective (fun _ => 0) plainRuntime twoAnswers opening (corrected firstDraft otherDraft) 0 e c ∧
    Corrective (fun _ => 0) plainRuntime twoAnswers opening (corrected firstDraft otherDraft) 1 f k ∧
    Kept (fun _ => 0) plainRuntime twoAnswers opening (corrected firstDraft otherDraft) := by
  obtain ⟨⟨e, c, first⟩, f, k, second⟩ := both_corrective
    (by decide +kernel : verdicts (critiqued firstDraft otherDraft) = [some "revise", some "reject"])
  refine ⟨e, f, c, k, first, second, (reasons_kept_iff twoAnswers_digest opening_fresh _).mpr ?_⟩
  apply apart_of_once
  rw [corrected_drafts firstDraft_valid (by decide +kernel)]
  simp only [List.pairwise_cons, List.mem_singleton, forall_eq, List.not_mem_nil, false_imp_iff,
    implies_true, List.Pairwise.nil, and_true]
  decide

/-- The second iteration of a draft fails for a reason of its own, which no
proposal has. -/
theorem second_iteration_lost : ¬ ∀ (timeOf : String → Instant) (r : LearningRuntime)
    (runtime : Content.Runtime) (init : Shared), (∀ s, isDigest (runtime.sha256 s) = true) →
    SystemLogs.Fresh r.learning init.world → ∀ log, Kept timeOf r runtime init log := by
  intro claim
  have kept := claim (fun _ => 0) plainRuntime twoAnswers opening twoAnswers_digest opening_fresh
    (corrected firstDraft secondDraft)
  obtain ⟨⟨e, c, first⟩, f, k, second⟩ := both_corrective
    (by decide +kernel : verdicts (critiqued firstDraft secondDraft) = [some "revise", some "reject"])
  have h : Sheet (fun _ => 0) plainRuntime twoAnswers opening (corrected firstDraft secondDraft) :=
    sheet opening_fresh _
  obtain ⟨a, _, madeA, _⟩ := h.drafts 0 e first.stored
  obtain ⟨b, _, madeB, _⟩ := h.drafts 1 f second.stored
  have drafts : gradedDrafts twoAnswers (corrected firstDraft secondDraft) =
      [firstDraft, secondDraft] := corrected_drafts firstDraft_valid (by decide +kernel)
  have same : ∀ {i d}, DraftOf (fun _ => 0) plainRuntime twoAnswers opening
      (corrected firstDraft secondDraft) i d →
      d.tenant_id = firstDraft.tenant_id ∧ d.draft_id = firstDraft.draft_id := by
    intro i d made
    have listed := made.graded
    rw [drafts] at listed
    simp only [List.mem_cons, List.not_mem_nil, or_false] at listed
    rcases listed with rfl | rfl <;> exact ⟨rfl, rfl⟩
  rcases h.apart kept 0 1 e f c k a b first second madeA madeB (by decide) with owners | names
  · exact owners ((same madeA).1.trans (same madeB).1.symm)
  · apply names
    rw [draftCritiqueId, draftCritiqueId, (same madeA).2, (same madeB).2]

end VantGrowth.Proofs.RevisedDrafts
