import VantGrowth.Proofs.ProposalLifecycle

namespace VantGrowth.Proofs.PromotionFencing
open Db Db.LearningProposalStore Lib ProposalEffects ProposalLifecycle

/-- The lease a row holds, read as a lease on the right to promote it. -/
def heldLease (p : LearningProposalRecord π) : Option (String × Instant) :=
  match p.promotionClaimToken, p.promotionClaimExpiresAt with
  | some token, some expiresAt => some (token, expiresAt)
  | _, _ => none

def leaseState : Option (LearningProposalRecord π) → Lease.State String Instant
  | none => Lease.vacant
  | some p => ⟨heldLease p, p.status == .promoted || p.status == .rolled_back⟩

theorem free_lapsed {p : LearningProposalRecord π} {now : Instant} {closed : Bool}
    (free : hasActivePromotionClaim p now = false) : Lease.Lapsed ⟨heldLease p, closed⟩ now := by
  intro token expiresAt held
  unfold heldLease at held
  split at held
  · rename_i ht hx
    cases held
    simpa [hasActivePromotionClaim, ht, hx] using free
  · cases held

theorem unclaimed_lease {p : LearningProposalRecord π} (h : p.promotionClaimToken = none) :
    heldLease p = none := by
  unfold heldLease
  rw [h]

theorem RecordSound.unclaimed {p : LearningProposalRecord π} (h : RecordSound p)
    (status : p.status ≠ .approved) : p.promotionClaimToken = none := by
  by_contra ht
  exact status (h.claimed ht)

/-- One change of a row obeys the rules of a lease. -/
theorem change_step {now : Instant} {op : ProposalOperation π} {id : String}
    {p q : LearningProposalRecord π} {e : Lease.Event String Instant} (h : RecordSound p)
    (change : Change now op id p e q) :
    Lease.Step now (leaseState (some p)) e (leaseState (some q)) := by
  cases change with
  | evaluated params status free =>
    have live : (p.status == .promoted || p.status == .rolled_back) = false := by
      cases hs : p.status <;> simp_all [LearningProposalStatus.evaluable]
    have after : leaseState (some (evaluated params now p)) = Lease.vacant := by
      cases hd : params.decision <;>
        simp [leaseState, heldLease, evaluated, proposalStatusForDecision, Lease.vacant, hd]
    rw [after]
    exact .revoke _ live (free_lapsed free)
  | approved approver status =>
    have none_ := unclaimed_lease (RecordSound.unclaimed h (by simp [status]))
    refine .revoke _ (by simp [leaseState, status]) ?_
    intro token expiresAt held
    rw [leaseState, none_] at held
    cases held
  | claimed token expiresAt status free =>
    have after : leaseState (some (claimedWith token expiresAt now p)) =
        ⟨some (token, expiresAt), false⟩ := by
      simp [leaseState, heldLease, claimedWith, status]
    rw [after]
    exact .issue _ token expiresAt (by simp [leaseState, status]) (free_lapsed free)
  | promoted token versionRef status held active =>
    cases hx : p.promotionClaimExpiresAt with
    | none => simp [hasActivePromotionClaim, hx] at active
    | some expiresAt =>
      have before : leaseState (some p) = ⟨some (token, expiresAt), false⟩ := by
        simp [leaseState, heldLease, held, hx, status]
      rw [before]
      exact .redeem token expiresAt (by simpa [hasActivePromotionClaim, held, hx] using active)
  | rolledBack versionRef status =>
    have none_ := unclaimed_lease (RecordSound.unclaimed h (by simp [status]))
    have same : leaseState (some (rolledBackTo versionRef now p)) = leaseState (some p) := by
      simp only [leaseState, status, rolledBackTo]
      rfl
    rw [same]
    exact .idle _

theorem effect_step {uuid : Supply} {now : Instant} {op : ProposalOperation π}
    {s t : LearningProposalStore π} {o : Option (String × Lease.Event String Instant)}
    (h : Sound uuid s) (effect : Effect uuid now op s t o) (id : String) :
    Lease.Step now (leaseState (s.recordsById.get id)) (eventFor id o)
      (leaseState (t.recordsById.get id)) := by
  cases effect with
  | kept records =>
    rw [records]
    exact .idle _
  | created params tenantId tenant drawn records =>
    rw [records, InsertionMap.get_set]
    split
    · rename_i hid
      rw [hid, h.fresh]
      exact .idle _
    · exact .idle _
  | changed touched p q e _ stored change records _ _ reported =>
    rw [records, InsertionMap.get_set]
    split
    · rename_i hid
      have event : eventFor id o = e := by
        rcases reported with rfl | ⟨rfl, rfl⟩
        · exact if_pos hid.symm
        · rfl
      rw [event, hid, stored]
      exact change_step (h.records touched p stored) change
    · rename_i hid
      have event : eventFor id o = .idle := by
        rcases reported with rfl | ⟨rfl, rfl⟩
        · exact if_neg (Ne.symm hid)
        · rfl
      rw [event]
      exact .idle _

section
variable (backend : Backend) (uuid : Supply) (id : String)

end

end VantGrowth.Proofs.PromotionFencing
