import VantGrowth.Proofs.HumanApproval
import VantGrowth.Proofs.VersionLogs

namespace VantGrowth.Proofs.PromotedReasons
open Core Db Db.LearningProposalStore Lib Lib.Text Lib.Logs Learning
open ProposalEffects ProposalKeys WorldSteps WorkerAwaits SystemLogs ProposalTasks VersionLogs

/-- The reasons as the criteria of an update tell them. -/
def told (reasons : List String) : List JsString := reasons.map criterionDescription

/-- Where the handler of a critique creates a version, its event tells the
reasons the proposal of its critique id stores. -/
def CarriesStored (d : Deployment) (w : World) (a : Log) : Entry → Bool
  | .did (.worker _ (.critique tenantId payload)) (.createVersion _ _) (.ok _) =>
    (after d w a).proposals.recordsById.values.all fun p =>
      !(p.tenantId == tenantId && nonEmptyText (createdByOf payload) == some p.proposalKey) ||
        told p.proposalPayload.failure_reasons == told payload.reasons
  | _ => true

/-- The rubric that promoting a proposal makes of what was active. -/
def promotedContent (existing : Option PlaybookVersionRecord) (p : Proposal)
    (criteriaTimestamp : Instant) : PlaybookContent :=
  .rubric (buildUpdatedRubricContent (existing.map (·.content)) p.proposalPayload.failure_reasons
    criteriaTimestamp).content

section
variable {d : Deployment} {w : World}

/-- A version is made of the reasons its worker took up. -/
theorem created_content (h : Fresh d w) {a b : Log} {i : Nat} {s : Start} {tenantId : String}
    {params : CreatePlaybookVersionParams} {v : PlaybookVersionRecord}
    (valid : Explained d w
      (a ++ .did (.worker i s) (.createVersion tenantId params) (.ok v) :: b)) :
    ∃ t hist rest existing criteriaTimestamp claim, TakenUp s hist t ∧
      Machine.history i a = hist ++ rest ∧ tenantId = t.tenantId ∧
      ⟨.claimPromotion tenantId t.persisted.id, some claim⟩ ∈ Machine.history i a ∧
      ⟨.getActiveVersion tenantId params.playbookType, existing⟩ ∈ Machine.history i a ∧
      ⟨.now, criteriaTimestamp⟩ ∈ Machine.history i a ∧
      v.content = .rubric (buildUpdatedRubricContent (existing.map (·.content)) t.critique.reasons
        criteriaTimestamp).content := by
  obtain ⟨_, t, j, claim, existing, criteriaTimestamp, effectiveAt, ready, rfl, asked⟩ :=
    valid.worked a b i s (.createVersion tenantId params) (.ok v) rfl
  obtain ⟨hC, prior, claimed, _, split⟩ := ready.parts
  obtain ⟨hT, rest, taken, parts⟩ := claimed.taken
  obtain ⟨hE, _, granted⟩ := claimed.parts
  have content := (created_stored h valid).2.2.2.2
  have type : params.playbookType = t.playbookType := by
    rw [asked]
    rfl
  have whole := split
  rw [parts, List.append_assoc] at whole
  refine ⟨t, hT, _, existing, criteriaTimestamp, claim, taken, whole, rfl, ?_, ?_, ?_, ?_⟩
  · rw [split, granted]
    simp
  · rw [split, type]
    simp
  · rw [split]
    simp
  · rw [content, asked]
    rfl

/-- The reasons a worker took up are those its proposal stores. -/
theorem reasons_stored {a : Log} {i : Nat} {s : Start} {params} {v : PlaybookVersionRecord}
    {t : Task} {hist : List (Did Res)} {q : Proposal}
    (carries : CarriesStored d w a (.did (.worker i s) (.createVersion t.tenantId params) (.ok v)) =
      true)
    (taken : TakenUp s hist t) (stored : (after d w a).proposals.recordsById.get t.persisted.id = some q)
    (same : origin q = origin t.persisted) (tenant : t.persisted.tenantId = t.tenantId)
    (key : nonEmptyText t.proposal.proposalId = some t.persisted.proposalKey)
    (creator : t.proposal.proposalId = createdByOf t.critique) :
    told t.critique.reasons = told q.proposalPayload.failure_reasons := by
  have payload := congrArg Origin.proposalPayload same
  cases taken with
  | critique tenantId critique playbookType proposedAt persisted event resolved =>
    have listed : q ∈ (after d w a).proposals.recordsById.values :=
      (InsertionMap.mem_values _ q).mpr ⟨_, stored⟩
    have carried := List.all_eq_true.mp carries q listed
    have owner : q.tenantId = tenantId := (congrArg Origin.tenantId same).trans tenant
    have keyed : nonEmptyText (createdByOf critique) = some q.proposalKey :=
      key.trans (congrArg some (congrArg Origin.proposalKey same).symm)
    simp only [owner, keyed, BEq.rfl, Bool.and_self, Bool.not_true, Bool.false_or,
      beq_iff_eq] at carried
    exact carried.symm
  | approved eventId tenantId proposalId persisted status =>
    rw [show q.proposalPayload = persisted.proposalPayload from payload]
    rfl

/-- Every version is made of the reasons stored in the proposal its worker had
claimed, over the version that worker read as active. -/
def AsProposed (d : Deployment) (w : World) (log : Log) : Prop :=
  ∀ a b i s tenantId params v,
    log = a ++ .did (.worker i s) (.createVersion tenantId params) (.ok v) :: b →
    ∃ p existing criteriaTimestamp claim,
      (after d w a).proposals.recordsById.get p.id = some p ∧
      ⟨.claimPromotion tenantId p.id, some claim⟩ ∈ Machine.history i a ∧
      ⟨.getActiveVersion tenantId params.playbookType, existing⟩ ∈ Machine.history i a ∧
      ⟨.now, criteriaTimestamp⟩ ∈ Machine.history i a ∧
      v.content = promotedContent existing p criteriaTimestamp

/-- Where every handler of a critique that gets to create a version brings the
reasons stored under its critique id, what is promoted is what was proposed. -/
theorem promoted_as_proposed (h : Fresh d w) (labels : List (Machine.Label Op Start))
    (carries : Each (fun a e => CarriesStored d w a e = true)
      (runs (machine d).step (Machine.initial w) labels).log) :
    AsProposed d w (runs (machine d).step (Machine.initial w) labels).log := by
  intro a b i s tenantId params v creates
  have valid := (machine_valid d w labels).1
  rw [creates] at valid carries
  obtain ⟨t, hist, rest, existing, criteriaTimestamp, claim, taken, split, rfl, claimed, read, told_,
    content⟩ := created_content h valid
  have spawned := (valid.worked a b i s (.createVersion t.tenantId params) (.ok v) rfl).1
  obtain ⟨q, stored, same, tenant, key, creator⟩ := task_row h valid.init_ spawned taken split
  have id : q.id = t.persisted.id := congrArg Origin.id same
  refine ⟨q, existing, criteriaTimestamp, claim, id ▸ stored, id ▸ claimed, read, told_, ?_⟩
  have reasons := reasons_stored carries.at taken stored same tenant key creator
  rw [content, promotedContent, update_congr reasons]

end

open HumanApproval ProposalLifecycle

/-- A critique waits for the founder, who approves it. Another event under its
id is delivered and promoted. -/
def replaced : List (Machine.Label Op Start) :=
  [.spawn (.critique acme (critiqued "c1" none ["too long"]))] ++ turns 0 7 ++
    [.outside (.approveAndEnqueue acme (countedUuids.text 1) "founder"),
      .spawn (.critique acme (critiqued "c1" none ["too polite"]))] ++ turns 1 16

def log (labels : List (Machine.Label Op Start)) : Log :=
  (runs (machine deployed).step (Machine.initial opening) labels).log

theorem founder_once_carries : AsProposed deployed opening (log approvedOnce) :=
  promoted_as_proposed opening_fresh approvedOnce (by decide +kernel)

/-- No proposal of the store tells this version's reasons. -/
def unproposed (a : Log) : Entry → Bool
  | .did (.worker i _) (.createVersion _ _) (.ok v) =>
    (after deployed opening a).proposals.recordsById.values.all fun p =>
      (Machine.history i a).all fun
        | ⟨.getActiveVersion _ _, existing⟩ => (Machine.history i a).all fun
          | ⟨.now, criteriaTimestamp⟩ => v.content != promotedContent existing p criteriaTimestamp
          | _ => true
        | _ => true
  | _ => true

def creates : Entry → Bool
  | .did (.worker _ _) (.createVersion _ _) (.ok _) => true
  | _ => false

/-- The founder approved one list of reasons, and another is promoted. -/
theorem replaced_unproposed : ¬ AsProposed deployed opening (log replaced) := by
  intro claim
  have ran : (log replaced).any creates = true ∧
      Each (fun a e => unproposed a e = true) (log replaced) := by decide +kernel
  obtain ⟨created, other⟩ := ran
  obtain ⟨e, member, creation⟩ := List.any_eq_true.mp created
  obtain ⟨a, b, split⟩ := List.append_of_mem member
  rw [split] at other
  unfold creates at creation
  split at creation
  · rename_i i s tenantId params v
    obtain ⟨p, existing, criteriaTimestamp, _, stored, _, read, clock, content⟩ :=
      claim a b i s tenantId params v split
    have differs := List.all_eq_true.mp other.at p ((InsertionMap.mem_values _ p).mpr ⟨_, stored⟩)
    have differs := List.all_eq_true.mp (List.all_eq_true.mp differs _ read) _ clock
    simp [content] at differs
  · cases creation

end VantGrowth.Proofs.PromotedReasons
