import VantGrowth.Db.PlaybookVersions

namespace VantGrowth.Learning
open Core Db Lib

inductive CritiqueVerdict where
  | approve | revise | reject
deriving DecidableEq

def CritiqueVerdict.text : CritiqueVerdict → String
  | approve => "approve"
  | revise => "revise"
  | reject => "reject"

/-- The payload of `critique.completed.v1`, its texts and times already of
their types. -/
structure CritiqueCompletedPayload where
  critique_id : String
  source : String
  artifact_kind : String
  artifact_id : String
  experiment_id : Option String := none
  change_risk : Option ChangeRisk := none
  prompt_version : String
  verdict : CritiqueVerdict
  confidence_score : ℚ
  reasons : List String
  critiqued_at : Instant
deriving DecidableEq

def nonEmpty (s : String) : Bool := s != ""

/-- `critiqueCompletedPayloadSchema` -/
def CritiqueCompletedPayload.valid (p : CritiqueCompletedPayload) : Bool :=
  nonEmpty p.critique_id && nonEmpty p.source && nonEmpty p.artifact_kind &&
    nonEmpty p.artifact_id && p.experiment_id.all isUuid && nonEmpty p.prompt_version &&
    (0 ≤ p.confidence_score && p.confidence_score ≤ 1) && p.reasons.all nonEmpty

theorem CritiqueCompletedPayload.reasons_filled {p : CritiqueCompletedPayload}
    (h : p.valid = true) : ∀ reason ∈ p.reasons, reason ≠ "" := by
  intro reason member
  simp only [valid, Bool.and_eq_true, List.all_eq_true] at h
  simpa [nonEmpty] using h.2 reason member

/-- What a learner persists in the payload column of its proposal. -/
structure CritiqueProposalPayload where
  tenant_id : String
  proposal_id : String
  experiment_id : Option String
  change_risk : ChangeRisk
  playbook_type : PlaybookType
  artifact_kind : String
  artifact_id : String
  critique_id : String
  source : String
  prompt_version : String
  verdict : CritiqueVerdict
  confidence_score : ℚ
  failure_reasons : List String
  critiqued_at : Instant
  status : String
  proposed_at : Instant
deriving DecidableEq

/-- `persistedCritiqueProposalPayloadSchema`, which knows no approving
verdict. -/
def CritiqueProposalPayload.valid (p : CritiqueProposalPayload) : Bool :=
  isUuid p.tenant_id && nonEmpty p.proposal_id && p.experiment_id.all isUuid &&
    nonEmpty p.artifact_kind && nonEmpty p.artifact_id && nonEmpty p.critique_id &&
    nonEmpty p.source && nonEmpty p.prompt_version && p.verdict != .approve &&
    (0 ≤ p.confidence_score && p.confidence_score ≤ 1) && p.failure_reasons.all nonEmpty &&
    p.status == "awaiting_evidence"

structure PlaybookChangeProposal where
  tenantId : String
  proposalId : String
  artifactKind : String
  artifactId : String
  playbookType : PlaybookType
  verdict : CritiqueVerdict

def riskText : ChangeRisk → String
  | .low => "low"
  | .medium => "medium"
  | .high => "high"
  | .critical => "critical"

def directionText : MetricDirection → String
  | .increase => "increase"
  | .decrease => "decrease"

/-- The payload as the JSON object an event carries. -/
def CritiqueProposalPayload.toJson (p : CritiqueProposalPayload) : Payload :=
  [("tenant_id", .str p.tenant_id), ("proposal_id", .str p.proposal_id)] ++
    (p.experiment_id.map fun id => ("experiment_id", Json.str id)).toList ++
    [("change_risk", .str (riskText p.change_risk)),
      ("playbook_type", .str p.playbook_type.text), ("artifact_kind", .str p.artifact_kind),
      ("artifact_id", .str p.artifact_id), ("critique_id", .str p.critique_id),
      ("source", .str p.source), ("prompt_version", .str p.prompt_version),
      ("verdict", .str p.verdict.text), ("confidence_score", .num (.finite p.confidence_score)),
      ("failure_reasons", .arr (p.failure_reasons.map Json.str)),
      ("critiqued_at", .str (Instant.toISOString p.critiqued_at)), ("status", .str p.status),
      ("proposed_at", .str (Instant.toISOString p.proposed_at))]

/-- What the lookup of an artifact kind in the mapping object gives. Reading a
name every object inherits gives that member, which is no playbook type. -/
inductive ResolvedPlaybookType where
  | known (playbookType : PlaybookType)
  | inheritedMember
  | unknown
deriving DecidableEq

def ARTIFACT_KIND_TO_PLAYBOOK_TYPE : List (String × PlaybookType) :=
  [("blog_draft", .blog_draft), ("blog_draft.v1", .blog_draft), ("content_brief", .content_brief),
    ("content_brief.v1", .content_brief), ("intel_brief", .intel_brief),
    ("intel_brief.v1", .intel_brief), ("custom", .custom)]

def inheritedMembers : List String :=
  ["constructor", "__defineGetter__", "__defineSetter__", "hasOwnProperty", "__lookupGetter__",
    "__lookupSetter__", "isPrototypeOf", "propertyIsEnumerable", "toString", "valueOf",
    "__proto__", "toLocaleString"]

/-- Exact lookup first, then prefix match. -/
def resolvePlaybookType (artifactKind : String) : ResolvedPlaybookType :=
  match ARTIFACT_KIND_TO_PLAYBOOK_TYPE.lookup artifactKind with
  | some exact => .known exact
  | none =>
    if artifactKind ∈ inheritedMembers then .inheritedMember
    else if artifactKind.startsWith "blog_draft" then .known .blog_draft
    else if artifactKind.startsWith "content_brief" then .known .content_brief
    else if artifactKind.startsWith "intel_brief" then .known .intel_brief
    else if artifactKind.startsWith "custom" then .known .custom
    else .unknown

example : resolvePlaybookType "blog_draft.v1" = .known .blog_draft := by decide

end VantGrowth.Learning
