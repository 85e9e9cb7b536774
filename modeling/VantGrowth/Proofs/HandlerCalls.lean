import VantGrowth.Proofs.WorkerAwaits

namespace VantGrowth.Proofs.HandlerCalls
open Core Db Lib Learning

/-- Every operation of a program meets `P`. -/
abbrev Performs (P : Op → Prop) (m : Worker α) : Prop :=
  Prog.Meets (fun _ op => P op) (fun _ _ => True) [] m

section
variable {P : Op → Prop}

theorem performs_anywhere {h : List (Did Res)} {m : Worker α} (performs : Performs P m) :
    Prog.Meets (fun _ op => P op) (fun _ _ => True) h m := by
  have free : ∀ {h k : List (Did Res)} {m : Worker α},
      Prog.Meets (fun _ op => P op) (fun _ _ => True) h m →
      Prog.Meets (fun _ op => P op) (fun _ _ => True) k m := by
    intro h k m meets
    induction m generalizing h k with
    | done a => trivial
    | fail e => trivial
    | call op next ih => exact ⟨meets.1, fun r => ih r (meets.2 r)⟩
  exact free performs

theorem performs_bind {m : Worker α} {f : α → Worker β} (first : Performs P m)
    (next : ∀ a, Performs P (f a)) : Performs P (m >>= f) :=
  Prog.meets_bind first fun _ a _ => performs_anywhere (next a)

theorem performs_await {op : Op} {f : Res op → Worker α} (within : P op)
    (next : ∀ r, Performs P (f r)) : Performs P (await op >>= f) :=
  Prog.meets_perform_bind within fun r => performs_anywhere (next r)

theorem performs_pure {a : α} : Performs P (pure a : Worker α) := Prog.meets_pure trivial

theorem performs_throw {e : DbError} : Performs P (Prog.throw e : Worker α) := Prog.meets_throw

theorem performs_parse {value : Option α} {f : α → Worker β}
    (next : ∀ a, value = some a → Performs P (f a)) : Performs P (parse value >>= f) :=
  WorkerAwaits.meets_parse_bind next

theorem Performs.sub {P' : Op → Prop} {m : Worker α} (performs : Performs P m)
    (sub : ∀ op, P op → P' op) : Performs P' m :=
  Prog.meets_ops performs fun _ op => sub op

end

/-- What a learner does for a tenant once it has taken up a proposal. -/
def Promotes (tenantId : String) : Op → Prop
  | .recordEvaluation tenant _ _ | .claimPromotion tenant _ | .markPromoted tenant _ _ _
  | .createVersion tenant _ => tenant = tenantId
  | .enqueue command =>
    command.tenantId = tenantId ∧ command.eventType = "learning.playbook.updated.v1"
  | .now | .getProposal _ _ | .getByProposalKey _ _ | .getExperiment _ _
  | .summarizeEvidence _ _ _ _ | .listVersions _ _ | .getActiveVersion _ _ => True
  | _ => False

section
variable {d : Deployment} {tenantId : String}

theorem evaluation_performs (proposal : PlaybookChangeProposal) :
    Performs (Promotes tenantId) (getEvaluation d proposal) := by
  refine performs_parse fun _ _ => performs_parse fun _ _ => performs_await trivial fun answer => ?_
  cases answer with
  | none => exact performs_pure
  | some persisted =>
    dsimp only
    split
    · exact performs_pure
    · refine performs_await trivial fun answer => ?_
      cases answer with
      | none => exact performs_pure
      | some experiment =>
        refine performs_await trivial fun answer => ?_
        cases answer with
        | none => exact performs_pure
        | some evidence => exact performs_pure

theorem announce_performs (proposal : PlaybookChangeProposal) (critique : CritiqueCompletedPayload)
    (playbookType : PlaybookType) (persisted : Proposal) (v : PlaybookVersionRecord) (n : Nat)
    (relativeLift : ℚ) (token : String) :
    Performs (Promotes tenantId) (do
      enqueuePlaybookUpdated tenantId proposal critique playbookType persisted v.id n relativeLift
      markProposalPromoted tenantId persisted v.id token
      return some v) := by
  refine performs_bind
    (performs_await trivial fun _ => performs_await ⟨rfl, rfl⟩ fun _ => performs_pure)
    fun _ => performs_bind (performs_await rfl fun marked => ?_) fun _ => performs_pure
  cases marked with
  | some _ => exact performs_pure
  | none =>
    refine performs_await trivial fun current => ?_
    cases current with
    | none => exact performs_throw
    | some current =>
      unfold Prog.require
      exact Prog.meets_ite (fun _ => performs_pure) fun _ => performs_throw

theorem promotion_performs (proposal : PlaybookChangeProposal) (critique : CritiqueCompletedPayload)
    (playbookType : PlaybookType) (persisted : Proposal) (relativeLift : ℚ) :
    Performs (Promotes tenantId)
      (promotePlaybookChange tenantId proposal critique playbookType persisted relativeLift) := by
  refine performs_await rfl fun claim => ?_
  cases claim with
  | none => exact performs_pure
  | some claim =>
    refine performs_await trivial fun (prior : List PlaybookVersionRecord) => ?_
    dsimp only
    split
    · exact announce_performs proposal critique playbookType persisted _ 0 relativeLift claim.token
    · refine performs_await trivial fun existing => performs_await trivial fun criteriaTimestamp =>
        performs_await trivial fun effectiveAt => performs_await rfl fun v => ?_
      exact announce_performs proposal critique playbookType persisted v _ relativeLift claim.token

theorem evaluateAndPromote_performs (proposal : PlaybookChangeProposal)
    (critique : CritiqueCompletedPayload) (playbookType : PlaybookType) (persisted : Proposal) :
    Performs (Promotes tenantId)
      (evaluateAndPromote d tenantId proposal critique playbookType persisted) := by
  refine performs_bind (evaluation_performs proposal) fun answer => ?_
  cases answer with
  | none => exact performs_pure
  | some evaluation =>
    refine performs_parse fun promotion _ => performs_bind (performs_await rfl fun answer => ?_) ?_
    · cases answer with
      | none => exact performs_pure
      | some recorded => exact performs_pure
    · intro eligible
      exact Prog.meets_ite (fun _ => performs_pure) fun _ => promotion_performs proposal critique
        playbookType persisted promotion.relativeLift

end

end VantGrowth.Proofs.HandlerCalls
