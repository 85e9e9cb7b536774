import VantGrowth.Learning.Worker

namespace VantGrowth.Proofs.WorkerAwaits
open Core Db Lib Lib.Text Learning

/-- What a worker has taken up. -/
structure Task where
  tenantId : String
  proposal : PlaybookChangeProposal
  critique : CritiqueCompletedPayload
  playbookType : PlaybookType
  persisted : Proposal

/-- The answers with which a handler takes up its task, by either entry. -/
inductive TakenUp : Start → List (Did Res) → Task → Prop where
  | critique (tenantId : String) (payload : CritiqueCompletedPayload) (playbookType : PlaybookType)
      (proposedAt : Instant) (persisted : Proposal) (event : StoredOutboxEvent)
      (resolved : resolvePlaybookType payload.artifact_kind = .known playbookType)
      (valid : payload.valid = true) :
      TakenUp (.critique tenantId payload)
        [⟨.now, proposedAt⟩,
          ⟨.createProposal tenantId (persistParams tenantId payload playbookType proposedAt),
            persisted⟩,
          ⟨.enqueue (changeProposedCommand tenantId
            (proposedPayload tenantId payload playbookType proposedAt) persisted), event⟩]
        ⟨tenantId, proposalOf tenantId payload playbookType, payload, playbookType, persisted⟩
  | approved (eventId : Nat) (tenantId proposalId : String) (persisted : Proposal)
      (status : persisted.status = .approved)
      (valid : (storedCritique persisted.proposalPayload).valid = true) :
      TakenUp (.approved eventId tenantId proposalId)
        [⟨.getProposal tenantId proposalId, some persisted⟩]
        ⟨tenantId, storedProposal tenantId persisted.proposalPayload,
          storedCritique persisted.proposalPayload, persisted.proposalPayload.playbook_type,
          persisted⟩

/-- What a worker has read and decided. -/
structure Judgement where
  proposalKey : String
  persisted : Proposal
  experiment : ExperimentRecord
  evidence : ExperimentEvidenceSummary
  decision : GateDecision

def Judgement.evaluation (j : Judgement) : LearningProposalEvaluation :=
  evaluationOf j.proposalKey j.persisted j.experiment j.evidence

section
variable (d : Deployment) (s : Start)

/-- The evidence is read and the gate has decided on it. -/
inductive Judged : List (Did Res) → Task → Judgement → Prop where
  | read (h : List (Did Res)) (t : Task) (j : Judgement) (experimentId : String)
      (taken : TakenUp s h t) (keyed : nonEmptyText t.proposal.proposalId = some j.proposalKey)
      (decided : evaluateLearningProposal j.evaluation d.learningPolicy = some j.decision) :
      Judged (h ++ [⟨.getByProposalKey t.tenantId j.proposalKey, some j.persisted⟩,
        ⟨.getExperiment t.tenantId experimentId, some j.experiment⟩,
        ⟨.summarizeEvidence t.tenantId j.experiment.id j.experiment.metricName
          d.guardrailMetricName, some j.evidence⟩]) t j

/-- The decision to promote is recorded on an approved proposal. -/
inductive Eligible : List (Did Res) → Task → Judgement → Prop where
  | recorded (h : List (Did Res)) (t : Task) (j : Judgement) (recorded : Proposal)
      (judged : Judged d s h t j) (promote : j.decision.decision = .promote)
      (status : recorded.status = .approved) :
      Eligible (h ++ [⟨.recordEvaluation t.tenantId t.persisted.id
        (evaluationParams j.evaluation j.decision), some recorded⟩]) t j

inductive Claimed : List (Did Res) → Task → Judgement →
    PromotionClaim CritiqueProposalPayload → Prop where
  | granted (h : List (Did Res)) (t : Task) (j : Judgement)
      (claim : PromotionClaim CritiqueProposalPayload) (eligible : Eligible d s h t j) :
      Claimed (h ++ [⟨.claimPromotion t.tenantId t.persisted.id, some claim⟩]) t j claim

/-- No earlier version was found and the active one is read. -/
inductive Ready : List (Did Res) → Task → Judgement → PromotionClaim CritiqueProposalPayload →
    Option PlaybookVersionRecord → Instant → Instant → Prop where
  | read (h : List (Did Res)) (t : Task) (j : Judgement)
      (claim : PromotionClaim CritiqueProposalPayload) (prior : List PlaybookVersionRecord)
      (existing : Option PlaybookVersionRecord) (criteriaTimestamp effectiveAt : Instant)
      (claimed : Claimed d s h t j claim)
      (unfound : ∀ v ∈ prior, v.createdBy ≠ createdByOf t.critique) :
      Ready (h ++ [⟨.listVersions t.tenantId t.playbookType, prior⟩,
        ⟨.getActiveVersion t.tenantId t.playbookType, existing⟩, ⟨.now, criteriaTimestamp⟩,
        ⟨.now, effectiveAt⟩]) t j claim existing criteriaTimestamp effectiveAt

/-- The version of the promotion is there, found or created. -/
inductive Versioned : List (Did Res) → Task → PromotionClaim CritiqueProposalPayload →
    PlaybookVersionRecord → Prop where
  | found (h : List (Did Res)) (t : Task) (j : Judgement)
      (claim : PromotionClaim CritiqueProposalPayload) (prior : List PlaybookVersionRecord)
      (v : PlaybookVersionRecord) (claimed : Claimed d s h t j claim) (member : v ∈ prior)
      (creator : v.createdBy = createdByOf t.critique) :
      Versioned (h ++ [⟨.listVersions t.tenantId t.playbookType, prior⟩]) t claim v
  | created (h : List (Did Res)) (t : Task) (j : Judgement)
      (claim : PromotionClaim CritiqueProposalPayload) (existing : Option PlaybookVersionRecord)
      (criteriaTimestamp effectiveAt : Instant) (v : PlaybookVersionRecord)
      (ready : Ready d s h t j claim existing criteriaTimestamp effectiveAt) :
      Versioned (h ++ [⟨.createVersion t.tenantId (versionParams t.playbookType t.critique existing
        criteriaTimestamp effectiveAt), v⟩]) t claim v

theorem TakenUp.valid {h : List (Did Res)} {t : Task} (taken : TakenUp s h t) :
    t.critique.valid = true := by
  cases taken <;> assumption

theorem Judged.parts {h : List (Did Res)} {t : Task} {j : Judgement} (judged : Judged d s h t j) :
    (∃ before rest, TakenUp s before t ∧ h = before ++ rest) ∧
    nonEmptyText t.proposal.proposalId = some j.proposalKey ∧
    evaluateLearningProposal j.evaluation d.learningPolicy = some j.decision ∧
    ⟨.getByProposalKey t.tenantId j.proposalKey, some j.persisted⟩ ∈ h ∧
    ⟨.summarizeEvidence t.tenantId j.experiment.id j.experiment.metricName d.guardrailMetricName,
      some j.evidence⟩ ∈ h := by
  cases judged with
  | read before _ _ experimentId taken keyed decided =>
    exact ⟨⟨before, _, taken, rfl⟩, keyed, decided, by simp, by simp⟩

theorem Eligible.parts {h : List (Did Res)} {t : Task} {j : Judgement}
    (eligible : Eligible d s h t j) :
    ∃ before rest, Judged d s before t j ∧ h = before ++ rest ∧ j.decision.decision = .promote := by
  cases eligible with
  | recorded before _ _ recorded judged promote status => exact ⟨before, _, judged, rfl, promote⟩

theorem Claimed.parts {h : List (Did Res)} {t : Task} {j : Judgement}
    {claim : PromotionClaim CritiqueProposalPayload} (claimed : Claimed d s h t j claim) :
    ∃ before, Eligible d s before t j ∧
      h = before ++ [⟨.claimPromotion t.tenantId t.persisted.id, some claim⟩] := by
  cases claimed with
  | granted before _ _ _ eligible => exact ⟨before, eligible, rfl⟩

theorem Ready.parts {h : List (Did Res)} {t : Task} {j : Judgement}
    {claim : PromotionClaim CritiqueProposalPayload} {existing : Option PlaybookVersionRecord}
    {criteriaTimestamp effectiveAt : Instant}
    (ready : Ready d s h t j claim existing criteriaTimestamp effectiveAt) :
    ∃ before prior, Claimed d s before t j claim ∧
      (∀ v ∈ (prior : List PlaybookVersionRecord), v.createdBy ≠ createdByOf t.critique) ∧
      h = before ++ [⟨.listVersions t.tenantId t.playbookType, prior⟩,
        ⟨.getActiveVersion t.tenantId t.playbookType, existing⟩, ⟨.now, criteriaTimestamp⟩,
        ⟨.now, effectiveAt⟩] := by
  cases ready with
  | read before _ _ _ prior _ _ _ claimed unfound => exact ⟨before, prior, claimed, unfound, rfl⟩

theorem Claimed.judged {h : List (Did Res)} {t : Task} {j : Judgement}
    {claim : PromotionClaim CritiqueProposalPayload} (claimed : Claimed d s h t j claim) :
    ∃ before rest, Judged d s before t j ∧ h = before ++ rest := by
  obtain ⟨before, eligible, rfl⟩ := claimed.parts
  obtain ⟨first, rest, judged, rfl, _⟩ := eligible.parts
  exact ⟨first, rest ++ _, judged, List.append_assoc _ _ _⟩

theorem Claimed.taken {h : List (Did Res)} {t : Task} {j : Judgement}
    {claim : PromotionClaim CritiqueProposalPayload} (claimed : Claimed d s h t j claim) :
    ∃ before rest, TakenUp s before t ∧ h = before ++ rest := by
  obtain ⟨before, rest, judged, rfl⟩ := claimed.judged
  obtain ⟨⟨first, more, taken, rfl⟩, _⟩ := judged.parts
  exact ⟨first, more ++ rest, taken, List.append_assoc _ _ _⟩

theorem Ready.first {h : List (Did Res)} {t : Task} {j : Judgement}
    {claim : PromotionClaim CritiqueProposalPayload} {existing : Option PlaybookVersionRecord}
    {criteriaTimestamp effectiveAt : Instant}
    (ready : Ready d s h t j claim existing criteriaTimestamp effectiveAt) :
    ∀ tenantId params v, (⟨.createVersion tenantId params, v⟩ : Did Res) ∉ h := by
  obtain ⟨h₁, prior, claimed, _, rfl⟩ := ready.parts
  cases claimed with
  | granted h₂ _ _ _ eligible =>
    cases eligible with
    | recorded h₃ _ _ recorded judged =>
      cases judged with
      | read h₄ _ _ experimentId taken => cases taken <;> simp

theorem Versioned.taken {h : List (Did Res)} {t : Task}
    {claim : PromotionClaim CritiqueProposalPayload} {v : PlaybookVersionRecord}
    (versioned : Versioned d s h t claim v) :
    ∃ before rest, TakenUp s before t ∧ h = before ++ rest := by
  cases versioned with
  | found h₁ _ j _ prior _ claimed member creator =>
    obtain ⟨before, rest, taken, rfl⟩ := claimed.taken
    exact ⟨before, rest ++ _, taken, List.append_assoc _ _ _⟩
  | created h₁ _ j _ existing criteriaTimestamp effectiveAt _ ready =>
    obtain ⟨h₂, prior, claimed, _, rfl⟩ := ready.parts
    obtain ⟨before, rest, taken, rfl⟩ := claimed.taken
    exact ⟨before, _, taken, (List.append_assoc _ _ _).trans (List.append_assoc _ _ _)⟩

/-- What a handler has been answered by the time it performs an operation. -/
def Asks (h : List (Did Res)) : Op → Prop
  | .createProposal tenantId params => ∃ payload playbookType proposedAt,
      s = .critique tenantId payload ∧
      resolvePlaybookType payload.artifact_kind = .known playbookType ∧
      params = persistParams tenantId payload playbookType proposedAt
  | .recordEvaluation tenantId id params => ∃ t j, Judged d s h t j ∧ tenantId = t.tenantId ∧
      id = t.persisted.id ∧ params = evaluationParams j.evaluation j.decision
  | .claimPromotion tenantId id => ∃ t j, Eligible d s h t j ∧ tenantId = t.tenantId ∧
      id = t.persisted.id
  | .createVersion tenantId params => ∃ t j claim existing criteriaTimestamp effectiveAt,
      Ready d s h t j claim existing criteriaTimestamp effectiveAt ∧ tenantId = t.tenantId ∧
      params = versionParams t.playbookType t.critique existing criteriaTimestamp effectiveAt
  | .markPromoted tenantId id versionRef token => ∃ h' rest t claim v, Versioned d s h' t claim v ∧
      h = h' ++ rest ∧ tenantId = t.tenantId ∧ id = t.persisted.id ∧ versionRef = v.id ∧
      token = claim.token
  | .enqueue command => command.eventType ≠ learningProposalApprovedEventType
  | .publish event => ∃ tenantId limit, ∃ pending : List StoredOutboxEvent,
      ⟨.listUnconsumed tenantId limit, pending⟩ ∈ h ∧ event ∈ pending
  | .markConsumed tenantId id => ∃ event : StoredOutboxEvent, ⟨.publish event, ()⟩ ∈ h ∧
      tenantId = event.tenantId ∧ id = event.id
  | .acknowledge _ | .approveAndEnqueue _ _ _ | .markRolledBack _ _ _ | .tick _
  | .replaceExperiments _ => False
  | _ => True

/-- What a handler that returned has been answered. -/
def Returned (h : List (Did Res)) (_ : Unit) : Prop :=
  match s with
  | .approved _ tenantId proposalId => ∃ (answer : Option Proposal) (rest : List (Did Res)),
      h = ⟨.getProposal tenantId proposalId, answer⟩ :: rest
  | _ => True

variable {d s}

theorem meets_parse_bind {α β : Type} {P : List (Did Res) → Op → Prop}
    {Q : List (Did Res) → β → Prop} {h : List (Did Res)} {value : Option α} {f : α → Worker β}
    (parsed : ∀ a, value = some a → Prog.Meets P Q h (f a)) :
    Prog.Meets P Q h (parse value >>= f) := by
  cases value with
  | none => exact Prog.meets_throw
  | some a => exact parsed a rfl

/-- The version is announced and the proposal marked. -/
theorem announce_meets {h : List (Did Res)} {t : Task}
    {claim : PromotionClaim CritiqueProposalPayload} {v : PlaybookVersionRecord}
    (versioned : Versioned d s h t claim v) (criteriaAdded : Nat) (relativeLift : ℚ) :
    Prog.Meets (Asks d s) (fun _ _ => True) h (do
      enqueuePlaybookUpdated t.tenantId t.proposal t.critique t.playbookType t.persisted v.id
        criteriaAdded relativeLift
      markProposalPromoted t.tenantId t.persisted v.id claim.token
      return some v) := by
  have other : "learning.playbook.updated.v1" ≠ learningProposalApprovedEventType := by
    decide
  refine Prog.meets_bind (Q := fun h' _ => ∃ rest, h' = h ++ rest) ?_ ?_
  · refine Prog.meets_perform_bind trivial fun updatedAt => ?_
    refine Prog.meets_perform_bind other fun event => ?_
    exact Prog.meets_pure ⟨_, List.append_assoc _ _ _⟩
  · rintro h' _ ⟨rest, rfl⟩
    refine Prog.meets_bind (Q := fun _ _ => True) ?_ (fun _ _ _ => Prog.meets_pure trivial)
    refine Prog.meets_perform_bind ⟨h, rest, t, claim, v, versioned, rfl, rfl, rfl, rfl, rfl⟩ ?_
    intro marked
    cases marked with
    | some _ => exact Prog.meets_pure trivial
    | none =>
      refine Prog.meets_perform_bind trivial fun current => ?_
      cases current with
      | none => exact Prog.meets_throw
      | some current =>
        unfold Prog.require
        exact Prog.meets_ite (fun _ => Prog.meets_pure trivial) fun _ => Prog.meets_throw

theorem promote_meets {h : List (Did Res)} {t : Task} {j : Judgement}
    (eligible : Eligible d s h t j) (relativeLift : ℚ) :
    Prog.Meets (Asks d s) (fun _ _ => True) h
      (promotePlaybookChange t.tenantId t.proposal t.critique t.playbookType t.persisted
        relativeLift) := by
  refine Prog.meets_perform_bind ⟨t, j, eligible, rfl, rfl⟩ fun answer => ?_
  cases answer with
  | none => exact Prog.meets_pure trivial
  | some claim =>
    have claimed := Claimed.granted h t j claim eligible
    refine Prog.meets_perform_bind trivial fun (prior : List PlaybookVersionRecord) => ?_
    dsimp only
    split
    · rename_i v found
      have creator : v.createdBy = createdByOf t.critique := by
        simpa using List.find?_some found
      exact announce_meets (.found _ t j claim prior v claimed (List.mem_of_find?_eq_some found)
        creator) 0 relativeLift
    · rename_i missing
      refine Prog.meets_perform_bind trivial fun existing => ?_
      refine Prog.meets_perform_bind trivial fun criteriaTimestamp => ?_
      refine Prog.meets_perform_bind trivial fun effectiveAt => ?_
      have unfound : ∀ v ∈ prior, v.createdBy ≠ createdByOf t.critique := by
        simpa using List.find?_eq_none.mp missing
      have ready := Ready.read _ t j claim prior existing criteriaTimestamp effectiveAt claimed
        unfound
      simp only [List.append_assoc, List.cons_append, List.nil_append] at ready ⊢
      refine Prog.meets_perform_bind ⟨t, j, claim, existing, criteriaTimestamp, effectiveAt, ready,
        rfl, rfl⟩ fun v => ?_
      exact announce_meets (.created _ t j claim existing criteriaTimestamp effectiveAt v ready) _
        relativeLift

/-- The provider reads the proposal of the key, its experiment and the
evidence. -/
theorem evaluation_meets {h : List (Did Res)} {t : Task} (taken : TakenUp s h t) :
    Prog.Meets (Asks d s) (fun h' answer => ∀ evaluation, answer = some evaluation →
      ∀ decision, evaluateLearningProposal evaluation d.learningPolicy = some decision →
      ∃ j, Judged d s h' t j ∧ j.evaluation = evaluation ∧ j.decision = decision) h
      (getEvaluation d t.proposal) := by
  have owner : t.proposal.tenantId = t.tenantId := by cases taken <;> rfl
  refine meets_parse_bind fun tenantId ht => ?_
  have same : tenantId = t.tenantId := by
    unfold uuidText at ht
    split at ht
    · exact (Option.some.inj ht).symm.trans owner
    · cases ht
  subst same
  refine meets_parse_bind fun proposalKey keyed => ?_
  refine Prog.meets_perform_bind trivial fun answer => ?_
  cases answer with
  | none => exact Prog.meets_pure fun _ he => by cases he
  | some persisted =>
    dsimp only
    split
    · exact Prog.meets_pure fun _ he => by cases he
    · rename_i experimentId _
      refine Prog.meets_perform_bind trivial fun answer => ?_
      cases answer with
      | none => exact Prog.meets_pure fun _ he => by cases he
      | some experiment =>
        refine Prog.meets_perform_bind trivial fun answer => ?_
        cases answer with
        | none => exact Prog.meets_pure fun _ he => by cases he
        | some evidence =>
          refine Prog.meets_pure fun evaluation he decision decided => ?_
          cases he
          let j : Judgement := ⟨proposalKey, persisted, experiment, evidence, decision⟩
          have judged : Judged d s _ t j := .read h t j experimentId taken keyed decided
          refine ⟨j, ?_, rfl, rfl⟩
          simpa only [List.append_assoc, List.cons_append, List.nil_append] using judged

theorem evaluateAndPromote_meets {h : List (Did Res)} {t : Task} (taken : TakenUp s h t) :
    Prog.Meets (Asks d s) (fun _ _ => True) h
      (evaluateAndPromote d t.tenantId t.proposal t.critique t.playbookType t.persisted) := by
  refine Prog.meets_bind (evaluation_meets taken) ?_
  intro h' answer read
  cases answer with
  | none => exact Prog.meets_pure trivial
  | some evaluation =>
    refine meets_parse_bind fun promotion decided => ?_
    obtain ⟨j, judged, rfl, rfl⟩ := read evaluation rfl promotion decided
    refine Prog.meets_bind (Q := fun h'' eligible => eligible = true →
      j.decision.decision = .promote → Eligible d s h'' t j) ?_ ?_
    · refine Prog.meets_perform_bind ⟨t, j, judged, rfl, rfl, rfl⟩ fun answer => ?_
      cases answer with
      | none => exact Prog.meets_pure fun he => by cases he
      | some recorded =>
        refine Prog.meets_pure fun he promote => ?_
        exact .recorded h' t j recorded judged promote (by simpa using he)
    · intro h'' eligible recorded
      refine Prog.meets_ite (fun _ => Prog.meets_pure trivial) fun passed => ?_
      simp only [not_or, Bool.not_eq_false, not_not] at passed
      exact promote_meets (recorded passed.1 passed.2) _

theorem critique_meets (tenantId : String) (payload : CritiqueCompletedPayload) :
    Prog.Meets (Asks d (.critique tenantId payload)) (fun _ _ => True) []
      (processFromCritique d tenantId payload) := by
  have other : "learning.playbook.change.proposed.v1" ≠ learningProposalApprovedEventType := by
    decide
  refine Prog.meets_require_bind fun valid => ?_
  refine Prog.meets_ite (fun _ => Prog.meets_pure trivial) fun _ => ?_
  split
  · exact Prog.meets_pure trivial
  · exact Prog.meets_throw
  · rename_i playbookType resolved
    refine Prog.meets_perform_bind trivial fun proposedAt => ?_
    refine Prog.meets_perform_bind ⟨payload, playbookType, proposedAt, rfl, resolved, rfl⟩
      fun persisted => ?_
    refine Prog.meets_perform_bind other fun event => ?_
    have taken := TakenUp.critique tenantId payload playbookType proposedAt persisted event resolved
      valid
    have meets := evaluateAndPromote_meets (d := d) taken
    exact meets

theorem approved_meets (eventId : Nat) (tenantId proposalId : String) :
    Prog.Meets (Asks d (.approved eventId tenantId proposalId))
      (fun h _ => Returned (.approved eventId tenantId proposalId) h ()) []
      (processApprovedProposal d tenantId proposalId) := by
  refine Prog.meets_perform_bind trivial fun answer => ?_
  have extended : ∀ {m : Worker (Option PlaybookVersionRecord)},
      Prog.Meets (Asks d (.approved eventId tenantId proposalId)) (fun _ _ => True)
        [⟨.getProposal tenantId proposalId, answer⟩] m →
      Prog.Meets (Asks d (.approved eventId tenantId proposalId))
        (fun h _ => Returned (.approved eventId tenantId proposalId) h ())
        [⟨.getProposal tenantId proposalId, answer⟩] m := by
    intro m meets
    refine Prog.meets_weaken (Prog.meets_grows meets) ?_
    rintro h' a ⟨_, rest, rfl⟩
    exact ⟨answer, rest, rfl⟩
  refine extended ?_
  cases answer with
  | none => exact Prog.meets_pure trivial
  | some persisted =>
    refine Prog.meets_ite (fun _ => Prog.meets_pure trivial) fun status => ?_
    rw [not_not] at status
    refine Prog.meets_require_bind fun _ => Prog.meets_require_bind fun valid => ?_
    have taken := TakenUp.approved eventId tenantId proposalId persisted status valid
    have meets := evaluateAndPromote_meets (d := d) taken
    exact meets

theorem drain_meets (tenantId : String) (limit : Nat) :
    Prog.Meets (Asks d (.drain tenantId limit)) (fun _ _ => True) []
      (publishPendingForTenant tenantId limit) := by
  refine Prog.meets_perform_bind trivial fun pending => ?_
  refine Prog.meets_weaken (Prog.meets_forM pending
    (J := fun h => ⟨.listUnconsumed tenantId limit, pending⟩ ∈ h) (by simp) ?_)
    fun _ _ _ => trivial
  intro event member h listed
  refine Prog.meets_ite (fun _ => Prog.meets_pure listed) fun _ => ?_
  refine Prog.meets_perform_bind ⟨tenantId, limit, pending, listed, member⟩ fun _ => ?_
  refine Prog.meets_perform_bind ⟨event, List.mem_append_right _ (List.mem_singleton_self _), rfl,
    rfl⟩ fun _ => ?_
  exact Prog.meets_pure (by simp [listed])

theorem handler_meets (s : Start) :
    Prog.Meets (Asks d s) (Returned s) [] (handlerOf d s) := by
  cases s with
  | critique tenantId payload =>
    exact Prog.meets_bind (critique_meets tenantId payload) fun _ _ _ => Prog.meets_pure trivial
  | approved eventId tenantId proposalId =>
    refine meets_parse_bind fun parsedId hid => ?_
    have same : parsedId = proposalId := by
      unfold uuidText at hid
      split at hid
      · exact (Option.some.inj hid).symm
      · cases hid
    subst same
    exact Prog.meets_bind (approved_meets eventId tenantId parsedId)
      fun _ _ returned => Prog.meets_pure returned
  | drain tenantId limit =>
    exact Prog.meets_weaken (drain_meets tenantId limit) fun _ _ _ => trivial

/-- Every schedule of the machine gives a log its handlers' specifications
explain. -/
theorem machine_valid (d : Deployment) (w : World) (labels : List (Machine.Label Op Start)) :
    Machine.Valid (machine d) (Asks d) Returned w
      (runs (machine d).step (Machine.initial w) labels).log ∧
    (runs (machine d).step (Machine.initial w) labels).state =
      (machine d).replay w (runs (machine d).step (Machine.initial w) labels).log := by
  refine Machine.runs_valid ?_ labels
  intro w s p started
  cases s with
  | critique tenantId payload =>
    cases started
    exact handler_meets _
  | approved eventId tenantId proposalId =>
    simp only [machine] at started
    split at started
    · cases started
      exact handler_meets _
    · cases started
  | drain tenantId limit =>
    cases started
    exact handler_meets _

end

end VantGrowth.Proofs.WorkerAwaits
