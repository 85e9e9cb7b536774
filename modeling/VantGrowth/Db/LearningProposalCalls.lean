import VantGrowth.Db.InMemoryLearningProposals
import VantGrowth.Db.PostgresLearningProposals
import VantGrowth.Lib.Lease

namespace VantGrowth.Db
open Lib

inductive ProposalOperation (π : Type) where
  | create (tenantId : String) (params : CreateLearningProposalParams π)
  | recordEvaluation (tenantId id : String) (params : RecordLearningProposalEvaluationParams)
  | approve (tenantId id approver : String)
  | approveAndEnqueue (tenantId id approver : String)
  | claimPromotion (tenantId id : String) (options : PromotionClaimOptions)
  | markPromoted (tenantId id promotedVersionRef promotionClaimToken : String)
  | markRolledBack (tenantId id rollbackVersionRef : String)

/-- A call with the clock reading it is made at. -/
structure ProposalCall (π : Type) where
  clock : Instant
  operation : ProposalOperation π

/-- The time a call judges leases by: a claim may be given its own. -/
def ProposalCall.time (call : ProposalCall π) : Instant :=
  match call.operation with
  | .claimPromotion _ _ options => options.now.getD call.clock
  | _ => call.clock

namespace LearningProposalStore

/-- The store a call leaves, and what it did to the lease of which proposal
when it answered with a record. -/
def answer (result : Except DbError (Option α) × LearningProposalStore π)
    (event : α → String × Lease.Event String Instant) :
    LearningProposalStore π × Option (String × Lease.Event String Instant) :=
  match result with
  | (.ok (some a), s) => (s, some (event a))
  | (_, s) => (s, none)

def perform (backend : Backend) (uuid : Supply) (s : LearningProposalStore π)
    (call : ProposalCall π) :
    LearningProposalStore π × Option (String × Lease.Event String Instant) :=
  let now := call.clock
  match backend, call.operation with
  | .inMemory, .create tenantId params =>
    (((InMemoryLearningProposalRepository.create uuid now tenantId params).run s).2, none)
  | .inMemory, .recordEvaluation tenantId id params =>
    answer ((InMemoryLearningProposalRepository.recordEvaluation now tenantId id params).run s)
      fun _ => (id, .revoke)
  | .inMemory, .approve tenantId id approver =>
    answer ((InMemoryLearningProposalRepository.approve now tenantId id approver).run s)
      fun _ => (id, .revoke)
  | .inMemory, .approveAndEnqueue tenantId id approver =>
    answer ((InMemoryLearningProposalRepository.approveAndEnqueue now tenantId id approver).run s)
      fun _ => (id, .revoke)
  | .inMemory, .claimPromotion tenantId id options =>
    answer ((InMemoryLearningProposalRepository.claimPromotion uuid now tenantId id options).run s)
      fun claim => (id, .issue claim.token claim.expiresAt)
  | .inMemory, .markPromoted tenantId id versionRef token =>
    answer ((InMemoryLearningProposalRepository.markPromoted now tenantId id versionRef token).run s)
      fun _ => (id, .redeem token)
  | .inMemory, .markRolledBack tenantId id versionRef =>
    (((InMemoryLearningProposalRepository.markRolledBack now tenantId id versionRef).run s).2, none)
  | .postgres, .create tenantId params =>
    (((PostgresLearningProposalRepository.create uuid now tenantId params).run s).2, none)
  | .postgres, .recordEvaluation tenantId id params =>
    answer ((PostgresLearningProposalRepository.recordEvaluation now tenantId id params).run s)
      fun _ => (id, .revoke)
  | .postgres, .approve tenantId id approver =>
    answer ((PostgresLearningProposalRepository.approve now tenantId id approver).run s)
      fun _ => (id, .revoke)
  | .postgres, .approveAndEnqueue tenantId id approver =>
    answer ((PostgresLearningProposalRepository.approveAndEnqueue now tenantId id approver).run s)
      fun _ => (id, .revoke)
  | .postgres, .claimPromotion tenantId id options =>
    answer ((PostgresLearningProposalRepository.claimPromotion uuid now tenantId id options).run s)
      fun claim => (id, .issue claim.token claim.expiresAt)
  | .postgres, .markPromoted tenantId id versionRef token =>
    answer ((PostgresLearningProposalRepository.markPromoted now tenantId id versionRef token).run s)
      fun _ => (id, .redeem token)
  | .postgres, .markRolledBack tenantId id versionRef =>
    (((PostgresLearningProposalRepository.markRolledBack now tenantId id versionRef).run s).2, none)

/-- What a report means for one proposal. -/
def eventFor (id : String) (o : Option (String × Lease.Event String Instant)) :
    Lease.Event String Instant :=
  match o with
  | some (touched, event) => if touched = id then event else .idle
  | none => .idle

end LearningProposalStore

end VantGrowth.Db
