import VantGrowth.Proofs.SystemLogs

namespace VantGrowth.Proofs.HumanApproval
open Core Db Db.LearningProposalStore Lib Lib.Text Learning
open ProposalEffects ProposalLifecycle ProposalKeys WorldSteps WorkerAwaits SystemLogs ProposalTasks

/-- A founder approved the proposal through the approval operation. -/
def ApprovedBefore (log : Log) (tenantId id : String) : Prop :=
  ∃ approver approval, .did .outside (.approveAndEnqueue tenantId id approver)
    (.ok (some approval)) ∈ log

section
variable {d : Deployment} {w : World}

theorem approval_actor {a b : Log} {actor : Machine.Actor Start} {tenantId id approver : String}
    {r : Except DbError (Res (.approveAndEnqueue tenantId id approver))}
    (valid : Explained d w (a ++ .did actor (.approveAndEnqueue tenantId id approver) r :: b)) :
    actor = .outside := by
  cases actor with
  | worker i s => exact (valid.worked a b i s _ r rfl).2.elim
  | settled i s =>
    obtain ⟨_, acknowledged, _⟩ := valid.settled a b i s _ r rfl
    cases s <;> cases acknowledged
  | outside => rfl

/-- The record of an approval is left by an approval only. -/
theorem approval_recorded (h : Fresh d w) {log : Log} (valid : Explained d w log) :
    ∀ id p, (after d w log).proposals.recordsById.get id = some p → p.humanApprovedAt ≠ none →
      ApprovedBefore log p.tenantId id := by
  refine rows_induction h
    (K := fun log id p => p.humanApprovedAt ≠ none → ApprovedBefore log p.tenantId id)
    ?_ ?_ ?_ valid
  · intro a e id p before given
    obtain ⟨approver, approval, member⟩ := before given
    exact ⟨approver, approval, List.mem_append_left _ member⟩
  · intro a actor tenantId raw r params id now _ _ given
    exact absurd rfl given
  · intro a actor op r call id p q e valid calls stored change reported before given
    have kept : p.humanApprovedAt ≠ none → p.tenantId = q.tenantId →
        ApprovedBefore (a ++ [.did actor op r]) q.tenantId id := by
      intro already tenant
      obtain ⟨approver, approval, member⟩ := before already
      exact ⟨approver, approval, tenant ▸ List.mem_append_left _ member⟩
    cases change with
    | evaluated => exact kept given rfl
    | claimed => exact kept given rfl
    | promoted => exact kept given rfl
    | rolledBack => exact kept given rfl
    | approved approver status asked =>
      obtain ⟨raw, named, _⟩ := asked
      cases op with
      | approveAndEnqueue tenantId id' approver' =>
        cases calls
        rcases named with named | named
        · cases named
        · cases named
          have actor_ := approval_actor valid
          subst actor_
          rcases r with error | (_ | approval)
          · rcases reported with reported | ⟨_, idle⟩
            · cases reported
            · cases idle
          · rcases reported with reported | ⟨_, idle⟩
            · cases reported
            · cases idle
          · exact ⟨raw, approval, by simp [approvedBy]⟩
      | createProposal => cases calls; rcases named with named | named <;> cases named
      | recordEvaluation => cases calls; rcases named with named | named <;> cases named
      | claimPromotion => cases calls; rcases named with named | named <;> cases named
      | markPromoted => cases calls; rcases named with named | named <;> cases named
      | markRolledBack => cases calls; rcases named with named | named <;> cases named
      | _ => cases calls

/-- Before it claimed the promotion of `p`, a worker with these answers put what
it had read of `p` through the gate, and the gate said promote. -/
def GatedClaim (d : Deployment) (history : List (Did Res)) (p : Proposal) : Prop :=
  ∃ before rest claim, ∃ j : Judgement,
    history = before ++ ⟨.claimPromotion p.tenantId p.id, some claim⟩ :: rest ∧
    ⟨.getByProposalKey p.tenantId p.proposalKey, some j.persisted⟩ ∈ before ∧
    ⟨.summarizeEvidence p.tenantId j.experiment.id j.experiment.metricName d.guardrailMetricName,
      some j.evidence⟩ ∈ before ∧
    evaluateLearningProposal j.evaluation d.learningPolicy = some j.decision ∧
    j.decision.decision = .promote

/-- The row a version is created for: the worker that creates it got there
through the gate. -/
theorem version_gated (h : Fresh d w) {a : Log} (valid : Explained d w a) {i : Nat} {s : Start}
    (spawned : .spawned i s ∈ a) {hist rest : List (Did Res)} {t : Task} {j : Judgement}
    {claim : PromotionClaim CritiqueProposalPayload} (claimed : Claimed d s hist t j claim)
    (split : Machine.history i a = hist ++ rest) :
    ∃ p, (after d w a).proposals.recordsById.get p.id = some p ∧ p.tenantId = t.tenantId ∧
      nonEmptyText (createdByOf t.critique) = some p.proposalKey ∧
      GatedClaim d (Machine.history i a) p ∧
      (p.risk ∈ d.learningPolicy.humanApprovalFor → p.humanApprovedAt ≠ none) := by
  obtain ⟨hE, eligible, rfl⟩ := claimed.parts
  obtain ⟨hJ, recorded, judged, rfl, promote⟩ := eligible.parts
  obtain ⟨⟨hT, read, taken, rfl⟩, parsed, decided, keyed, summarized⟩ := judged.parts
  simp only [List.append_assoc] at split
  obtain ⟨p, stored, same, tenant, key, creator⟩ := task_row h valid spawned taken split
  have owner : p.tenantId = t.tenantId := (congrArg Origin.tenantId same).trans tenant
  have id : p.id = t.persisted.id := congrArg Origin.id same
  have ownKey : p.proposalKey = t.persisted.proposalKey := congrArg Origin.proposalKey same
  rw [← List.append_assoc] at split
  obtain ⟨a₁, a₂, rfl, seen⟩ := judged_row h valid spawned judged split
  obtain ⟨q, hq, sameSeen, evolves⟩ := row_after h a₁ a₂ seen
  rw [stored] at hq
  cases hq
  refine ⟨p, id ▸ stored, owner, ?_, ?_, ?_⟩
  · rw [← creator, ownKey]
    exact key
  · have readKey : j.proposalKey = p.proposalKey :=
      Option.some.inj (parsed.symm.trans (key.trans (congrArg some ownKey.symm)))
    refine ⟨(hT ++ read) ++ recorded, rest, claim, j, ?_, ?_, ?_, decided, promote⟩
    · rw [split, owner, id]
      simp only [List.append_assoc, List.cons_append, List.nil_append]
    · rw [owner, ← readKey]
      exact List.mem_append_left _ keyed
    · rw [owner]
      exact List.mem_append_left _ summarized
  · intro risky
    have readRisk : j.persisted.risk = p.risk := (congrArg Origin.risk sameSeen).symm
    have approved := promote_approved decided promote (by
      change j.persisted.risk ∈ _
      exact readRisk ▸ risky)
    exact (evolves.approval (Option.isSome_iff_ne_none.mp approved)).1

/-- Whatever the interleaving, a version of a proposal whose risk asks for a
founder is created only after a founder approved it, by a worker whose own
evaluation said promote before it claimed the promotion. -/
theorem approval_precedes_version (h : Fresh d w) (labels : List (Machine.Label Op Start))
    {a b : Log} {i : Nat} {s : Start} {tenantId : String} {params : CreatePlaybookVersionParams}
    {r : Except DbError PlaybookVersionRecord}
    (creates : (runs (machine d).step (Machine.initial w) labels).log =
      a ++ .did (.worker i s) (.createVersion tenantId params) r :: b) :
    ∃ p, (after d w a).proposals.recordsById.get p.id = some p ∧ p.tenantId = tenantId ∧
      nonEmptyText params.createdBy = some p.proposalKey ∧
      GatedClaim d (Machine.history i a) p ∧
      (p.risk ∈ d.learningPolicy.humanApprovalFor →
        p.humanApprovedAt ≠ none ∧ ApprovedBefore a tenantId p.id) := by
  have valid := (machine_valid d w labels).1
  rw [creates] at valid
  obtain ⟨spawned, t, j, claim, existing, criteriaTimestamp, effectiveAt, ready, rfl, rfl⟩ :=
    valid.worked a b i s (.createVersion tenantId params) r rfl
  obtain ⟨hist, prior, claimed, _, split⟩ := ready.parts
  obtain ⟨p, stored, tenant, key, gated, founder⟩ :=
    version_gated h valid.init_ spawned claimed split
  refine ⟨p, stored, tenant, key, gated, fun risky => ⟨founder risky, ?_⟩⟩
  exact tenant ▸ approval_recorded h valid.init_ p.id p stored (founder risky)

end

def acme : String := "11111111-1111-4111-8111-111111111111"

def ctrTest : ExperimentRecord :=
  ⟨"22222222-2222-4222-8222-222222222222", acme, "ctr", .increase⟩

/-- Twenty visitors, ten for each variant, and twice the rate for `b`. -/
def measured : ExperimentStore where
  experimentsById := InsertionMap.empty.set ctrTest.id ctrTest
  observationsById := (List.range 20).foldl (fun rows i => rows.set (decimal i)
    { tenantId := acme, experimentId := ctrTest.id, entityType := "visitor",
      entityId := decimal i, variant := if i % 2 = 0 then .a else .b, metricName := "ctr",
      metricValue := if i % 2 = 0 then 1 else 2, isGuardrail := false,
      attributionConfidence := ⟨1, by decide⟩ }) InsertionMap.empty

def opening : World := ⟨0, .empty, measured, .empty, []⟩

def deployed : Deployment :=
  { backend := .postgres, uuid := countedUuids, versionUuid := countedUuids }

theorem opening_fresh : Fresh deployed opening :=
  ⟨rfl, rfl, PlaybookVersionStore.empty_sound _ _⟩

def critiqued (critiqueId : String) (risk : Option ChangeRisk) (reasons : List String) :
    CritiqueCompletedPayload :=
  { critique_id := critiqueId, source := "blog_draft_worker", artifact_kind := "blog_draft.v1",
    artifact_id := "draft-1", experiment_id := some ctrTest.id, change_risk := risk,
    prompt_version := "blog_draft.v1", verdict := .revise, confidence_score := 1 / 2, reasons,
    critiqued_at := 0 }

def turns (i n : Nat) : List (Machine.Label Op Start) := List.replicate n (.run i)

/-- A critique of high risk waits for the founder, whose approval is published
and promotes it. -/
def approvedOnce : List (Machine.Label Op Start) :=
  [.spawn (.critique acme (critiqued "c1" none ["too long"]))] ++ turns 0 7 ++
    [.outside (.approveAndEnqueue acme (countedUuids.text 1) "founder"), .spawn (.drain acme 10)] ++
    turns 1 5 ++ [.spawn (.approved 2 acme (countedUuids.text 1))] ++ turns 2 14

def createsVersion : Entry → Bool
  | .did (.worker _ _) (.createVersion _ _) _ => true
  | _ => false

/-- A version that was created has an entry of the log. -/
theorem creation_entry {log : Log} (created : log.any createsVersion = true) :
    ∃ a b i s tenantId params r,
      log = a ++ .did (.worker i s) (.createVersion tenantId params) r :: b := by
  obtain ⟨e, member, creates⟩ := List.any_eq_true.mp created
  obtain ⟨a, b, split⟩ := List.append_of_mem member
  unfold createsVersion at creates
  split at creates
  · exact ⟨a, b, _, _, _, _, _, split⟩
  · cases creates

theorem approvedOnce_gated : ∃ a i p,
    (after deployed opening a).proposals.recordsById.get p.id = some p ∧
    GatedClaim deployed (Machine.history i a) p ∧
    (p.risk ∈ deployed.learningPolicy.humanApprovalFor →
      p.humanApprovedAt ≠ none ∧ ApprovedBefore a p.tenantId p.id) := by
  have created : (runs (machine deployed).step (Machine.initial opening) approvedOnce).log.any
      createsVersion = true := by
    decide +kernel
  obtain ⟨a, b, i, s, tenantId, params, r, split⟩ := creation_entry created
  obtain ⟨p, stored, tenant, _, gated, founder⟩ :=
    approval_precedes_version opening_fresh approvedOnce split
  exact ⟨a, i, p, stored, gated, tenant ▸ founder⟩

end VantGrowth.Proofs.HumanApproval
