import VantGrowth.Learning.Consumers
import VantGrowth.Proofs.HandlerCalls
import VantGrowth.Proofs.SystemLogs

namespace VantGrowth.Proofs.SubjectTenants
open Core Db Db.LearningProposalStore Lib Lib.Text Learning
open Publisher (tenantIdFromSubject bodyText DeadLetterWriter)
open HandlerCalls PlaybookEffects ProposalEffects WorldSteps SystemLogs

/-- Every row that is new or changed belongs to the tenant. -/
structure Confined (tenantId : String) (w w' : World) : Prop where
  events : ∀ e ∈ w'.proposals.outboxRepository.events,
    e ∈ w.proposals.outboxRepository.events ∨ e.tenantId = tenantId
  proposals : ∀ id p, w'.proposals.recordsById.get id = some p →
    w.proposals.recordsById.get id = some p ∨ p.tenantId = tenantId
  versions : ∀ id v, w'.playbooks.records.get id = some v →
    w.playbooks.records.get id = some v ∨ v.tenantId = tenantId

/-- The operations with which a handler can write for this tenant only. A
command for a tenant that is no uuid writes nothing. -/
def Scoped (tenantId : String) : Op → Prop
  | .createProposal tenant _ | .recordEvaluation tenant _ _ | .claimPromotion tenant _
  | .markPromoted tenant _ _ _ | .createVersion tenant _ => tenant = tenantId
  | .enqueue command => isUuid command.tenantId = true → command.tenantId = tenantId
  | .now | .getProposal _ _ | .getByProposalKey _ _ | .getExperiment _ _
  | .summarizeEvidence _ _ _ _ | .listVersions _ _ | .getActiveVersion _ _ => True
  | _ => False

/-- The tenant a call on the proposals is made for. -/
def tenantOf : ProposalOperation π → String
  | .create tenantId _ | .recordEvaluation tenantId _ _ | .approve tenantId _ _
  | .approveAndEnqueue tenantId _ _ | .claimPromotion tenantId _ _ | .markPromoted tenantId _ _ _
  | .markRolledBack tenantId _ _ => tenantId

theorem change_tenant {now : Instant} {call : ProposalOperation π} {id : String}
    {p q : LearningProposalRecord π} {e : Lease.Event String Instant}
    (change : Change now call id p e q) : tenantOf call = p.tenantId ∧ q.tenantId = p.tenantId := by
  cases change with
  | evaluated params status free asked =>
    obtain ⟨raw, rfl, _⟩ := asked
    exact ⟨rfl, rfl⟩
  | approved approver status asked =>
    obtain ⟨raw, rfl | rfl, _⟩ := asked
    · exact ⟨rfl, rfl⟩
    · exact ⟨rfl, rfl⟩
  | claimed token expiresAt status free asked =>
    obtain ⟨options, rfl⟩ := asked
    exact ⟨rfl, rfl⟩
  | promoted token versionRef status held active asked =>
    obtain ⟨raw, rfl, _⟩ := asked
    exact ⟨rfl, rfl⟩
  | rolledBack versionRef status asked =>
    obtain ⟨raw, rfl, _⟩ := asked
    exact ⟨rfl, rfl⟩

section
variable (d : Deployment) {w : World} {tenantId : String}

theorem Confined.refl (tenantId : String) (w : World) : Confined tenantId w w :=
  ⟨fun _ there => Or.inl there, fun _ _ stored => Or.inl stored, fun _ _ stored => Or.inl stored⟩

/-- What a call on the proposals writes belongs to the tenant it is made for. -/
theorem effect_confined {call : ProposalOperation CritiqueProposalPayload} {t : World}
    {o : Option (String × Lease.Event String Instant)}
    (effect : Effect d.uuid w.clock call w.proposals t.proposals o)
    (playbooks : t.playbooks = w.playbooks) : Confined (tenantOf call) w t := by
  have kept : ∀ id v, t.playbooks.records.get id = some v →
      w.playbooks.records.get id = some v ∨ v.tenantId = tenantOf call := by
    intro id v stored
    exact Or.inl (playbooks ▸ stored)
  cases effect with
  | kept records drawn outbox index =>
    refine ⟨fun e there => Or.inl (outbox ▸ there), fun id p stored => Or.inl ?_, kept⟩
    exact records ▸ stored
  | created params tenantId tenant drawn records outbox index vacant asked =>
    refine ⟨fun e there => Or.inl (outbox ▸ there), fun id p stored => ?_, kept⟩
    obtain ⟨raw, rfl, _⟩ := asked
    rw [records, InsertionMap.get_set] at stored
    split at stored
    · cases stored
      exact Or.inr rfl
    · exact Or.inl stored
  | changed id p q e _ old change records drawn outbox reported index =>
    obtain ⟨asked, same⟩ := change_tenant change
    refine ⟨fun event there => ?_, fun id' p' stored => ?_, kept⟩
    · rcases outbox with outbox | sent
      · exact Or.inl (outbox ▸ there)
      · rcases sent.events with ⟨unchanged, _⟩ | ⟨e', grown, written, _, _⟩
        · exact Or.inl (unchanged ▸ there)
        · rw [grown] at there
          rcases List.mem_append.mp there with before | now
          · exact Or.inl before
          · rw [List.mem_singleton.mp now, written, asked, ← same]
            exact Or.inr rfl
    · rw [records, InsertionMap.get_set] at stored
      split at stored
      · cases stored
        exact Or.inr (same.trans asked.symm)
      · exact Or.inl stored

theorem enqueue_confined (h : w.proposals.outboxRepository.Consistent) {command : EnqueueOutboxEvent}
    (named : isUuid command.tenantId = true → command.tenantId = tenantId) :
    Confined tenantId w ((exec d (.enqueue command)).run w).2 := by
  obtain ⟨rows, _, frame⟩ := enqueue_step d w h command
  have new : ∀ e ∈ ((exec d (.enqueue command)).run w).2.proposals.outboxRepository.events,
      e ∉ w.proposals.outboxRepository.events →
      e.toEnqueueOutboxEvent = command ∧ command.valid = true :=
    InMemoryOutboxRepository.enqueue_new w.proposals.outboxRepository w.clock command
  refine ⟨fun e there => ?_, fun id p stored => Or.inl ?_, fun id v stored => Or.inl ?_⟩
  · by_cases before : e ∈ w.proposals.outboxRepository.events
    · exact Or.inl before
    · obtain ⟨written, valid⟩ := new e there before
      simp only [EnqueueOutboxEvent.valid, Bool.and_eq_true] at valid
      rw [written]
      exact Or.inr (named valid.1.1)
  · rw [← rows.records]
    exact stored
  · rw [frame] at stored
    exact stored

theorem draft_confined (h : WorldSound d w) (params : CreatePlaybookVersionParams) :
    Confined tenantId w ((exec d (.createVersion tenantId params)).run w).2 := by
  obtain ⟨drafts, _, frame⟩ := draft_step d w h.playbooks tenantId params
  generalize ((exec d (.createVersion tenantId params)).run w).1 = answer at drafts
  have same : ((exec d (.createVersion tenantId params)).run w).2.proposals = w.proposals := by
    rw [frame]
  refine ⟨fun e there => Or.inl (same ▸ there), fun id p stored => Or.inl (same ▸ stored),
    fun id v stored => ?_⟩
  cases drafts with
  | refused e records => exact Or.inl (records ▸ stored)
  | drafted version v' row fresh records newest =>
    rw [records, InsertionMap.get_set] at stored
    split at stored
    · cases stored
      rw [row]
      exact Or.inr rfl
    · exact Or.inl stored

/-- One operation of a handler that keeps to its tenant. -/
theorem exec_confined (h : WorldSound d w) {op : Op} (within : Scoped tenantId op) :
    Confined tenantId w ((exec d op).run w).2 := by
  cases calls : asCall op with
  | some call =>
    have tenant : tenantOf call = tenantId := by
      cases op <;> cases calls <;> first | exact within | cases within
    have effect := (exec_effect d w h.proposals.outbox calls).1
    have playbooks := (playbooks_step d w op h.playbooks).2 (by rintro _ _ rfl; cases calls)
    exact tenant ▸ effect_confined d effect playbooks
  | none =>
    cases op with
    | enqueue command => exact enqueue_confined d h.proposals.outbox within
    | createVersion tenant params =>
      obtain rfl : tenant = tenantId := within
      exact draft_confined d h params
    | getProposal tenant id =>
      rw [(getProposal_step d w tenant id).1]
      exact .refl tenantId w
    | getByProposalKey tenant proposalKey =>
      rw [(getByProposalKey_step d w tenant proposalKey).1]
      exact .refl tenantId w
    | createProposal | recordEvaluation | claimPromotion | markPromoted | approveAndEnqueue
    | markRolledBack => cases calls
    | now | getExperiment | summarizeEvidence | listVersions | getActiveVersion =>
      exact .refl tenantId w
    | _ => cases within

end

section
variable {d : Deployment} {tenantId : String}

/-- A program that writes for this tenant only. -/
abbrev Keeps (tenantId : String) (m : Worker α) : Prop :=
  Prog.Meets (fun _ op => Scoped tenantId op) (fun _ _ => True) [] m

theorem evaluateAndPromote_keeps (proposal : PlaybookChangeProposal)
    (critique : CritiqueCompletedPayload) (playbookType : PlaybookType) (persisted : Proposal) :
    Keeps tenantId (evaluateAndPromote d tenantId proposal critique playbookType persisted) := by
  refine (evaluateAndPromote_performs proposal critique playbookType persisted).sub ?_
  intro op promotes
  cases op with
  | enqueue command => exact fun _ => promotes.1
  | createProposal => exact promotes.elim
  | _ => exact promotes

theorem critique_keeps (critique : CritiqueCompletedPayload) :
    Keeps tenantId (processFromCritique d tenantId critique) := by
  refine Prog.meets_require_bind fun _ => Prog.meets_ite (fun _ => performs_pure) fun _ => ?_
  split
  · exact performs_pure
  · exact performs_throw
  · refine performs_await trivial fun proposedAt => performs_await rfl fun persisted =>
      performs_await (fun _ => rfl) fun _ => ?_
    exact evaluateAndPromote_keeps _ critique _ persisted

theorem approved_keeps (proposalId : String) :
    Keeps tenantId (processApprovedProposal d tenantId proposalId) := by
  refine performs_await trivial fun answer => ?_
  cases answer with
  | none => exact performs_pure
  | some persisted =>
    refine Prog.meets_ite (fun _ => performs_pure) fun _ => Prog.meets_require_bind fun _ =>
      Prog.meets_require_bind fun _ => ?_
    exact evaluateAndPromote_keeps _ _ _ persisted

end

/-- The tenant a body states. -/
def statedTenant (payload : Json) : Option String :=
  (bodyText payload "tenantId").or (bodyText payload "tenant_id")

/-- All three consumers believe the body before the subject. -/
theorem believed_tenant (consumer : Consumer) (payload : Json) (context : DurableMessageContext) :
    consumer.writer.tenantId payload context =
      match statedTenant payload with
      | some stated => .ok stated
      | none => tenantIdFromSubject context.subject := by
  cases consumer <;> rfl

section
variable (timeOf : String → Instant) (r : LearningRuntime) {message : Message} {tenantId : String}

/-- A critique that calls for no change of any playbook. -/
def inert (message : Message) : Bool :=
  message.consumer == .learning_critique &&
    (critiqueCompletedPayloadSchema timeOf message.payload).any fun critique =>
      critique.verdict == .approve || resolvePlaybookType critique.artifact_kind == .unknown

/-- The body states no tenant but this one, or is never acted upon. -/
def contained (message : Message) (tenantId : String) : Bool :=
  (statedTenant message.payload).all (fun stated => !isUuid stated || stated == tenantId) ||
    inert timeOf message

theorem filled_nonEmpty (j : Json) (text : String) (read : Zod.filled j = some text) :
    nonEmpty text = true := by
  simpa [nonEmpty] using Zod.filled_eq_some read

theorem required_filled {p : Payload} {field text : String}
    (read : Zod.required p field Zod.filled = some text) : nonEmpty text = true := by
  obtain ⟨j, _, filled⟩ := Zod.required_eq_some read
  exact filled_nonEmpty j text filled

/-- What the schema reads passes the schema. -/
theorem critique_valid {payload : Json} {critique : CritiqueCompletedPayload}
    (read : critiqueCompletedPayloadSchema timeOf payload = some critique) :
    critique.valid = true := by
  obtain ⟨p, _, read⟩ := Option.bind_eq_some_iff.mp read
  simp only [readCritiqueCompleted, Option.bind_eq_bind, Option.bind_eq_some_iff] at read
  obtain ⟨critique_id, id, source, from_, kind, kindRead, artifact, artifactRead, experiment,
    experimentRead, risk, _, version, versionRead, verdict, _, confidence, confidenceRead, reasons,
    reasonsRead, at_, _, same⟩ := read
  cases same
  obtain ⟨_, _, bounded⟩ := Zod.required_eq_some confidenceRead
  obtain ⟨_, _, listed⟩ := Zod.required_eq_some reasonsRead
  have experiments : experiment.all isUuid = true :=
    Zod.optional_all experimentRead fun _ _ => Zod.uuid_eq_some
  simp only [CritiqueCompletedPayload.valid, required_filled id, required_filled from_,
    required_filled kindRead, required_filled artifactRead, required_filled versionRead,
    experiments, Zod.array_all listed filled_nonEmpty, Zod.numberIn_eq_some bounded, decide_true, Bool.and_self]

theorem inert_returns (subject : tenantIdFromSubject message.subject = .ok tenantId)
    (still : inert timeOf message = true) : handle timeOf r message = pure () := by
  simp only [inert, Bool.and_eq_true, beq_iff_eq, Option.any_eq_true, Bool.or_eq_true] at still
  obtain ⟨consumer, critique, read, still⟩ := still
  have valid := critique_valid timeOf read
  unfold handle
  rw [consumer, subject, read]
  show (processFromCritique r.learning tenantId critique >>= fun _ => pure ()) = pure ()
  unfold processFromCritique
  have passed : (Prog.require (critique.valid = true) .zod : Worker Unit) = pure () := if_pos valid
  rw [passed]
  by_cases approving : critique.verdict = .approve
  · rw [if_pos approving]
    rfl
  · rcases still with approve | unknown
    · exact absurd approve approving
    · rw [if_neg approving, unknown]
      rfl

theorem signal_states {payload : Json} {signal : LearningSignal}
    (read : learningSignalSchema payload = some signal) :
    statedTenant payload = some signal.tenantId ∧ isUuid signal.tenantId = true := by
  obtain ⟨p, record, read⟩ := Option.bind_eq_some_iff.mp read
  simp only [readLearningSignal, Option.bind_eq_bind, Option.bind_eq_some_iff] at read
  obtain ⟨tenant, tenantRead, _, _, _, _, _, _, _, _, _, _, _, _, _, _, _, _, _, _, _, _, same⟩ := read
  cases same
  obtain ⟨j, found, uuid⟩ := Zod.required_eq_some tenantRead
  cases payload with
  | obj fields =>
    cases record
    cases j with
    | str text =>
      have plain : text = tenant := by
        simp only [Zod.uuid] at uuid
        split at uuid
        · exact Option.some.inj uuid
        · cases uuid
      refine ⟨?_, Zod.uuid_eq_some uuid⟩
      simp [statedTenant, bodyText, Payload.text, found, plain]
    | _ => cases uuid
  | _ => cases record

theorem process_keeps (named : (statedTenant message.payload).all
    (fun stated => !isUuid stated || stated == tenantId) = true) :
    Keeps tenantId (process message.payload) := by
  refine performs_parse fun signal read => performs_await trivial fun synthesizedAt =>
    performs_await (fun _ => ?_) fun _ => performs_pure
  obtain ⟨states, uuid⟩ := signal_states read
  show signal.tenantId = tenantId
  rw [states] at named
  simpa [uuid] using named

variable (subject : tenantIdFromSubject message.subject = .ok tenantId)
include subject

theorem handle_keeps (named : (statedTenant message.payload).all
    (fun stated => !isUuid stated || stated == tenantId) = true) :
    Keeps tenantId (handle timeOf r message) := by
  unfold handle
  split
  · exact process_keeps named
  · rw [subject]
    refine performs_parse fun critique _ => ?_
    exact performs_bind (critique_keeps critique) fun _ => performs_pure
  · refine performs_parse fun proposalId _ => Prog.meets_given_bind fun owner owned => ?_
    cases subject.symm.trans owned
    exact performs_bind (approved_keeps proposalId) fun _ => performs_pure

theorem deadLetter_keeps (named : (statedTenant message.payload).all
    (fun stated => !isUuid stated || stated == tenantId) = true)
    {context : DurableMessageContext} (same : context.subject = message.subject) (error : String) :
    Keeps tenantId (enqueueDeadLetter message.consumer.writer message.payload context error) := by
  refine Prog.meets_given_bind fun owner owned => performs_await trivial fun now =>
    performs_await (fun uuid => ?_) fun _ => performs_pure
  rw [believed_tenant, same] at owned
  cases states : statedTenant message.payload with
  | none =>
    rw [states, subject] at owned
    exact (Except.ok.inj owned).symm
  | some stated =>
    rw [states] at owned named
    cases owned
    have valid : isUuid owner = true := uuid
    show owner = tenantId
    simpa [valid] using named

/-- Handling a contained message asks for no other tenant's rows. -/
theorem deliver_keeps {delivery : Delivery} (same : delivery.message = message)
    (within : contained timeOf message tenantId = true) :
    Prog.Meets (fun _ op => Scoped tenantId op) (fun _ _ => True) [] (deliver timeOf r delivery) := by
  subst same
  unfold deliver
  dsimp only
  by_cases still : inert timeOf delivery.message = true
  · rw [inert_returns timeOf r subject still]
    exact Prog.meets_pure trivial
  · have named := (Bool.or_eq_true_iff.mp within).resolve_right still
    refine Prog.meets_bind (Prog.meets_caught (handle_keeps timeOf r subject named))
      fun h handled _ => ?_
    cases handled with
    | ok _ => exact Prog.meets_pure trivial
    | error e =>
      have judged : resume (r.config delivery.message.consumer) delivery.context .handler
          (outcomeOf r (.error e)) =
          if (r.config delivery.message.consumer).maxDeliver ≤ delivery.redeliveryCount then
            (.awaiting delivery.context (.onExhausted (r.errorText e)), none)
          else (.idle, some (.nak (r.config delivery.message.consumer).retryDelayMs)) := rfl
      rw [judged]
      by_cases exhausted :
          (r.config delivery.message.consumer).maxDeliver ≤ delivery.redeliveryCount
      · rw [if_pos exhausted]
        exact Prog.meets_bind
          (Prog.meets_caught (deadLetter_keeps subject named rfl (r.errorText e)))
          fun _ _ _ => Prog.meets_pure trivial
      · rw [if_neg exhausted]
        exact Prog.meets_pure trivial

end

section
variable (timeOf : String → Instant)

/-- Whatever happens around it, handling the message writes rows of the tenant
only. -/
def StaysWithin (message : Message) (tenantId : String) : Prop :=
  ∀ (r : LearningRuntime) (w : Faulty World), WorldSound r.learning w.state →
    ∀ (labels : List (Machine.Label Op Delivery)) a b i delivery op answer,
      (runs (consumers timeOf r).step (Machine.initial w) labels).log =
        a ++ .did (.worker i delivery) op answer :: b →
      delivery.message = message →
      Confined tenantId ((consumers timeOf r).replay w a).state
        ((consumers timeOf r).replay w (a ++ [.did (.worker i delivery) op answer])).state

/-- What the program of a delivery asks for. -/
def Asks (delivery : Delivery) (_ : List (Did Answer)) (op : Op) : Prop :=
  ∀ tenantId, tenantIdFromSubject delivery.message.subject = .ok tenantId →
    contained timeOf delivery.message tenantId = true → Scoped tenantId op

theorem deliver_asks (r : LearningRuntime) (delivery : Delivery) :
    Prog.Meets (Asks timeOf delivery) (fun _ _ => True) [] (deliver timeOf r delivery) := by
  by_cases limited : ∃ tenantId, tenantIdFromSubject delivery.message.subject = .ok tenantId ∧
      contained timeOf delivery.message tenantId = true
  · obtain ⟨tenantId, subject, within⟩ := limited
    refine Prog.meets_ops (deliver_keeps timeOf r subject rfl within) ?_
    intro h op keeps other named _
    cases subject.symm.trans named
    exact keeps
  · refine Prog.meets_ops (Prog.meets_trivial [] _) ?_
    intro h op _ tenantId subject within
    exact absurd ⟨tenantId, subject, within⟩ limited

theorem consumers_valid (r : LearningRuntime) (w : Faulty World)
    (labels : List (Machine.Label Op Delivery)) :
    Machine.Valid (consumers timeOf r) (Asks timeOf) (fun _ _ _ => True) w
      (runs (consumers timeOf r).step (Machine.initial w) labels).log ∧
    (runs (consumers timeOf r).step (Machine.initial w) labels).state =
      (consumers timeOf r).replay w
        (runs (consumers timeOf r).step (Machine.initial w) labels).log := by
  refine Machine.runs_valid ?_ labels
  intro w delivery p started
  cases started
  exact deliver_asks timeOf r delivery

/-- A call reaches the world or does not. -/
theorem reach_ends (r : LearningRuntime) (op : Op) (s : Faulty World) :
    (reach r op).Ends s fun _ t =>
      t.state = s.state ∨ t.state = ((exec r.learning op).run s.state).2 := by
  refine Store.Ends.attempt (R := fun _ t =>
    t.state = s.state ∨ t.state = ((exec r.learning op).run s.state).2) ?_ fun _ _ h => h
  have body : (exec r.learning op).Ends s.state fun _ t =>
      t = ((exec r.learning op).run s.state).2 := rfl
  refine Store.Ends.ite (fun _ => ?_) fun _ => ?_
  · exact Store.Ends.faulty body (fun _ _ _ same => Or.inr same) (fun _ _ => Or.inl rfl)
      fun _ _ _ _ same => Or.inr same
  · exact Store.Ends.sound body fun _ _ same => Or.inr same

theorem reach_sound (r : LearningRuntime) (op : Op) (s : Faulty World)
    (h : WorldSound r.learning s.state) : WorldSound r.learning ((reach r op).run s).2.state := by
  rcases reach_ends r op s with same | stepped
  · rw [same]
    exact h
  · rw [stepped]
    exact exec_sound r.learning op h

theorem contained_stays {message : Message} {tenantId : String}
    (subject : tenantIdFromSubject message.subject = .ok tenantId)
    (within : contained timeOf message tenantId = true) : StaysWithin timeOf message tenantId := by
  intro r w sound labels a b i delivery op answer split same
  have valid := (consumers_valid timeOf r w labels).1
  rw [split] at valid
  obtain ⟨_, asked⟩ := valid.worked a b i delivery op answer rfl
  have limited : Scoped tenantId op := by
    subst same
    exact asked tenantId subject within
  have before : WorldSound r.learning ((consumers timeOf r).replay w a).state :=
    Machine.replay_invariant (I := fun s : Faulty World => WorldSound r.learning s.state)
      (fun s op h => reach_sound r op s h) sound a
  rw [Machine.replay_snoc]
  show Confined tenantId ((consumers timeOf r).replay w a).state
    ((reach r op).run ((consumers timeOf r).replay w a)).2.state
  rcases reach_ends r op ((consumers timeOf r).replay w a) with unreached | stepped
  · rw [unreached]
    exact .refl tenantId _
  · rw [stepped]
    exact exec_confined r.learning before limited

/-- The handler does not return before it has called a repository, which may be
out of reach. -/
def Breakable : Worker α → Prop
  | .done _ => False
  | .fail _ => True
  | .call .now next => ∀ t, Breakable (next t)
  | .call (.tick _) _ => False
  | .call _ _ => True

theorem handle_breakable (r : LearningRuntime) {message : Message} {tenantId : String}
    (subject : tenantIdFromSubject message.subject = .ok tenantId)
    (acts : inert timeOf message = false) : Breakable (handle timeOf r message) := by
  unfold handle
  split
  · unfold process
    cases learningSignalSchema message.payload with
    | none => trivial
    | some signal => exact fun _ => trivial
  · rename_i critiques
    rw [subject]
    cases read : critiqueCompletedPayloadSchema timeOf message.payload with
    | none => trivial
    | some critique =>
      have valid := critique_valid timeOf read
      have passed : (Prog.require (critique.valid = true) .zod : Worker Unit) = pure () :=
        if_pos valid
      simp only [inert, critiques, read, BEq.rfl, Bool.true_and, Option.any_some,
        Bool.or_eq_false_iff, beq_eq_false_iff_ne] at acts
      show Breakable (processFromCritique r.learning tenantId critique >>= fun _ => pure ())
      unfold processFromCritique
      rw [passed, if_neg acts.1]
      cases kind : resolvePlaybookType critique.artifact_kind with
      | unknown => exact absurd kind acts.2
      | inheritedMember => trivial
      | known playbookType => exact fun _ => trivial
  · cases approvedLearningProposalPayloadSchema message.payload with
    | none => trivial
    | some proposalId =>
      rw [subject]
      trivial

section
variable (r : LearningRuntime)

/-- A delivery that is alone with its world. -/
def alone (w : Faulty World) (delivery : Delivery) (p : Prog Answer DbError (Option Reply))
    (log : List (Machine.Entry Answer DbError Delivery)) :
    Machine.Config Answer DbError (Faulty World) Delivery (Option Reply) :=
  ⟨w, [⟨delivery, p⟩], log⟩

/-- A call that is lost at the right moment fails the handler. -/
theorem handler_breaks {m : Worker α} (breakable : Breakable m)
    (k : Except DbError α → Prog Answer DbError (Option Reply)) (w : World) (delivery : Delivery)
    (log : List (Machine.Entry Answer DbError Delivery)) :
    ∃ faults n e log', runs (consumers timeOf r).step
      (alone ⟨w, faults⟩ delivery (m.caught >>= k) log) (List.replicate n (.run 0)) =
      alone ⟨w, []⟩ delivery (k (.error e)) log' := by
  induction m generalizing log with
  | done a => cases breakable
  | fail e => exact ⟨[], 0, e, log, rfl⟩
  | call op next ih =>
    by_cases clock : op = .now
    · subst clock
      obtain ⟨faults, n, e, log', ended⟩ := ih w.clock (breakable w.clock)
        (log ++ [.did (.worker 0 delivery) .now (.ok (.ok w.clock))])
      exact ⟨faults, n + 1, e, log', ended⟩
    · have remote : op.remote = true := by
        cases op with
        | now => exact absurd rfl clock
        | tick ms => cases breakable
        | _ => rfl
      have missed : (reach r op).run ⟨w, [some ⟨"", false⟩]⟩ =
          (.ok (.error (.error "")), ⟨w, []⟩) := by
        simp only [reach, if_pos remote]
        rfl
      refine ⟨[some ⟨"", false⟩], 1, .error "",
        log ++ [.did (.worker 0 delivery) op (.ok (.error (.error "")))], ?_⟩
      have stepped := Machine.run_alone (m := consumers timeOf r) ⟨w, [some ⟨"", false⟩]⟩ delivery
        op (fun x => (Prog.answered (fun r => (next r).caught) x) >>= k) log
      have lost : (consumers timeOf r).exec op = reach r op := rfl
      rw [lost, missed] at stepped
      exact stepped

/-- A dead letter goes to the tenant the body states. -/
theorem dead_letter_stated (w : World) (empty : w.proposals.outboxRepository = .empty)
    {writer : DeadLetterWriter} {stated : String} (uuid : isUuid stated = true) (now : Instant)
    (payload : Json) (context : DurableMessageContext) (error : String) :
    ∃ e ∈ ((exec r.learning (.enqueue (deadLetterCommand writer stated now payload context
      error))).run w).2.proposals.outboxRepository.events, e.tenantId = stated := by
  have valid : (deadLetterCommand writer stated now payload context error).valid = true := by
    have typed : isOutboxEventType Publisher.workerDeadLetterEventType = true := by decide
    have keyed : ∀ n, join writer.keyPrefix (decimal n) ≠ "" := by
      intro n blank
      have listed := congrArg String.toList blank
      simp [join] at listed
    simp [EnqueueOutboxEvent.valid, deadLetterCommand, uuid, typed, keyed]
  have consistent : w.proposals.outboxRepository.Consistent := by
    rw [empty]
    exact InMemoryOutboxRepository.empty_consistent
  obtain ⟨_, sent⟩ := InMemoryOutboxRepository.enqueue_sends consistent w.clock valid
  obtain ⟨e, there, same, _⟩ := sent.holds
  exact ⟨e, there, same⟩

end

def emptyWorld : World := ⟨0, .empty, ⟨.empty, .empty⟩, .empty, []⟩

def plainRuntime : LearningRuntime :=
  ⟨{ backend := .inMemory, uuid := ProposalLifecycle.countedUuids,
     versionUuid := ProposalLifecycle.countedUuids }, fun _ => {}, fun _ => ""⟩

theorem emptyWorld_sound : WorldSound plainRuntime.learning emptyWorld :=
  Fresh.sound ⟨rfl, rfl, PlaybookVersionStore.empty_sound _ _⟩

/-- What follows where the handler failed on the last delivery. -/
def lettering (r : LearningRuntime) (delivery : Delivery) (error : String) :
    Prog Answer DbError (Option Reply) := do
  let written ← Prog.caught (enqueueDeadLetter delivery.message.consumer.writer
    delivery.message.payload delivery.context error)
  return (resume (r.config delivery.message.consumer) delivery.context (.onExhausted error)
    (outcomeOf r written)).2

theorem deliver_letters (r : LearningRuntime) (delivery : Delivery)
    (last : (r.config delivery.message.consumer).maxDeliver ≤ delivery.redeliveryCount) :
    ∃ k, deliver timeOf r delivery = (handle timeOf r delivery.message).caught >>= k ∧
      ∀ e, k (.error e) = lettering r delivery (r.errorText e) := by
  refine ⟨_, rfl, fun e => ?_⟩
  have judged : resume (r.config delivery.message.consumer) delivery.context .handler
      (outcomeOf r (.error e)) =
      (.awaiting delivery.context (.onExhausted (r.errorText e)), none) := if_pos last
  rw [judged]
  rfl

/-- The two calls of a dead letter, made alone. -/
theorem lettering_writes (r : LearningRuntime) (w : World) (delivery : Delivery) {stated : String}
    (error : String) (owner : delivery.message.consumer.writer.tenantId delivery.message.payload
      delivery.context = .ok stated) (log : List (Machine.Entry Answer DbError Delivery)) :
    ∃ g,
      let command := deadLetterCommand delivery.message.consumer.writer stated w.clock
        delivery.message.payload delivery.context error
      (consumers timeOf r).step (alone ⟨w, []⟩ delivery (lettering r delivery error) log) (.run 0) =
        alone ⟨w, []⟩ delivery (.call (.enqueue command) g)
          (log ++ [.did (.worker 0 delivery) .now (.ok (.ok w.clock))]) := by
  refine ⟨fun x => (Prog.answered (fun _ => .done (.ok ())) x) >>= fun written => pure
    (resume (r.config delivery.message.consumer) delivery.context (.onExhausted error)
      (outcomeOf r written)).2, ?_⟩
  unfold lettering enqueueDeadLetter
  rw [owner]
  rfl

/-- The last delivery of a message whose handler fails writes for the tenant
the body states. -/
theorem stated_leaves {message : Message} {tenantId stated : String}
    (subject : tenantIdFromSubject message.subject = .ok tenantId)
    (acts : inert timeOf message = false) (states : statedTenant message.payload = some stated)
    (uuid : isUuid stated = true) (other : stated ≠ tenantId) :
    ¬ StaysWithin timeOf message tenantId := by
  intro stays
  let delivery : Delivery := ⟨message, 5⟩
  have owner : message.consumer.writer.tenantId message.payload delivery.context = .ok stated := by
    rw [believed_tenant, states]
  obtain ⟨k, program, letters⟩ := deliver_letters timeOf plainRuntime delivery (Nat.le_refl 5)
  obtain ⟨faults, n, e, log, broke⟩ := handler_breaks timeOf plainRuntime
    (handle_breakable timeOf plainRuntime subject acts) k emptyWorld delivery [.spawned 0 delivery]
  obtain ⟨g, letter⟩ := lettering_writes timeOf plainRuntime emptyWorld delivery "" owner log
  have arrived : runs (consumers timeOf plainRuntime).step (Machine.initial ⟨emptyWorld, faults⟩)
      (.spawn delivery :: (List.replicate n (.run 0) ++ [.run 0])) = alone ⟨emptyWorld, []⟩ delivery
        (.call (.enqueue _) g) (log ++ [.did (.worker 0 delivery) .now (.ok (.ok 0))]) := by
    have spawned : (consumers timeOf plainRuntime).step (Machine.initial ⟨emptyWorld, faults⟩)
        (.spawn delivery) = alone ⟨emptyWorld, faults⟩ delivery
          ((handle timeOf plainRuntime message).caught >>= k) [.spawned 0 delivery] := by
      rw [← program]
      rfl
    rw [runs_cons, spawned, runs_append, broke, letters]
    exact letter
  have before := (consumers_valid timeOf plainRuntime ⟨emptyWorld, faults⟩
    (.spawn delivery :: (List.replicate n (.run 0) ++ [.run 0]))).2
  have after := (consumers_valid timeOf plainRuntime ⟨emptyWorld, faults⟩
    ((.spawn delivery :: (List.replicate n (.run 0) ++ [.run 0])) ++ [.run 0])).2
  have within := stays plainRuntime ⟨emptyWorld, faults⟩ emptyWorld_sound
    ((.spawn delivery :: (List.replicate n (.run 0) ++ [.run 0])) ++ [.run 0])
  rw [arrived] at before
  rw [runs_append, arrived] at after within
  have confined := within _ [] 0 delivery _ _ rfl rfl
  rw [← before] at confined
  have wrote :=
    (congrArg (fun s : Faulty World => Confined tenantId emptyWorld s.state) after).mpr confined
  obtain ⟨e, there, names⟩ := dead_letter_stated plainRuntime emptyWorld rfl uuid 0 message.payload
    delivery.context ""
  rcases wrote.events e there with absent | same
  · cases absent
  · exact other (names.symm.trans same)

/-- Handling a message writes rows of the subject's tenant only, exactly where
its body states no other or is never acted upon. -/
theorem stays_within_iff (message : Message) (tenantId : String)
    (subject : tenantIdFromSubject message.subject = .ok tenantId) :
    StaysWithin timeOf message tenantId ↔ contained timeOf message tenantId = true := by
  refine ⟨fun stays => ?_, contained_stays timeOf subject⟩
  by_contra leaves
  simp only [contained, Bool.or_eq_true, not_or, Bool.not_eq_true] at leaves
  cases states : statedTenant message.payload with
  | none => simp [states] at leaves
  | some stated =>
    simp only [states, Option.all_some, Bool.or_eq_false_iff, Bool.not_eq_false',
      beq_eq_false_iff_ne] at leaves
    exact stated_leaves timeOf subject leaves.2 states leaves.1.1 leaves.1.2 stays

end

def acme : String := "11111111-1111-4111-8111-111111111111"

def globex : String := "99999999-9999-4999-8999-999999999999"

/-- An approval that came in on the subject of its tenant. -/
def approvedMessage : Message :=
  ⟨.learning_proposal_approved, "t." ++ acme ++ ".learning.proposal.approved.v1", 7,
    .obj [("proposal_id", .str "22222222-2222-4222-8222-222222222222")]⟩

theorem approvedMessage_stays : StaysWithin (fun _ => 0) approvedMessage acme :=
  (stays_within_iff (fun _ => 0) approvedMessage acme (by decide)).mpr (by decide)

/-- A well-formed signal of one tenant on the subject of another. -/
def foreignSignal : Message :=
  ⟨.learning_signal, "t." ++ acme ++ ".learning.signal.v1", 7,
    .obj [("tenantId", .str globex), ("learningId", .str "learning-1"),
      ("dedupeKey", .str "learning-1"), ("source", .str "approvals"),
      ("issueId", .str "22222222-2222-4222-8222-222222222222"), ("outputType", .str "blog_draft"),
      ("action", .str "rejected")]⟩

theorem foreignSignal_leaves :
    (learningSignalSchema foreignSignal.payload).isSome = true ∧
    ¬ ∀ (timeOf : String → Instant) (message : Message) (tenantId : String),
      tenantIdFromSubject message.subject = .ok tenantId → StaysWithin timeOf message tenantId := by
  refine ⟨by decide, fun claim => ?_⟩
  have subject : tenantIdFromSubject foreignSignal.subject = .ok acme := by decide
  have states : statedTenant foreignSignal.payload = some globex := by decide
  exact stated_leaves (fun _ => 0) subject (by decide) states (by decide)
    (by decide) (claim (fun _ => 0) foreignSignal acme subject)

end VantGrowth.Proofs.SubjectTenants
