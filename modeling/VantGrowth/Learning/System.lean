import VantGrowth.Db.LearningProposalCalls
import VantGrowth.Learning.Contracts
import VantGrowth.Lib.Interleaving

namespace VantGrowth.Learning
open Core Db Lib

/-- Everything the learning workers share. The proposal store holds the
outbox; `stream` holds the published messages no handler has acknowledged. -/
structure World where
  clock : Instant
  proposals : LearningProposalStore CritiqueProposalPayload
  experiments : ExperimentStore
  playbooks : PlaybookVersionStore
  stream : List StoredOutboxEvent

/-- How the workers are wired. -/
structure Deployment where
  backend : Backend
  uuid : Supply
  versionUuid : Supply
  guardrailMetricName : Option String := none
  learningPolicy : AdaptiveLearningPolicy := {}

abbrev Proposal := LearningProposalRecord CritiqueProposalPayload

/-- The operations at which a program gives up control. -/
inductive Op where
  | now
  | createProposal (tenantId : String)
      (params : CreateLearningProposalParams CritiqueProposalPayload)
  | getProposal (tenantId id : String)
  | getByProposalKey (tenantId proposalKey : String)
  | recordEvaluation (tenantId id : String) (params : RecordLearningProposalEvaluationParams)
  | claimPromotion (tenantId id : String)
  | markPromoted (tenantId id promotedVersionRef promotionClaimToken : String)
  | getExperiment (tenantId id : String)
  | summarizeEvidence (tenantId experimentId metricName : String)
      (guardrailMetricName : Option String)
  | listVersions (tenantId : String) (playbookType : PlaybookType)
  | getActiveVersion (tenantId : String) (playbookType : PlaybookType)
  | createVersion (tenantId : String) (params : CreatePlaybookVersionParams)
  | enqueue (command : EnqueueOutboxEvent)
  | listUnconsumed (tenantId : String) (limit : Nat)
  | publish (event : StoredOutboxEvent)
  | markConsumed (tenantId : String) (eventId : Nat)
  | acknowledge (eventId : Nat)
  | approveAndEnqueue (tenantId id approver : String)
  | markRolledBack (tenantId id rollbackVersionRef : String)
  | tick (ms : Nat)
  | replaceExperiments (experiments : ExperimentStore)

abbrev Res : Op → Type
  | .now => Instant
  | .createProposal _ _ => Proposal
  | .getProposal _ _ | .getByProposalKey _ _ | .recordEvaluation _ _ _ | .markPromoted _ _ _ _
  | .markRolledBack _ _ _ => Option Proposal
  | .claimPromotion _ _ => Option (PromotionClaim CritiqueProposalPayload)
  | .getExperiment _ _ => Option ExperimentRecord
  | .summarizeEvidence _ _ _ _ => Option ExperimentEvidenceSummary
  | .listVersions _ _ => List PlaybookVersionRecord
  | .getActiveVersion _ _ => Option PlaybookVersionRecord
  | .createVersion _ _ => PlaybookVersionRecord
  | .enqueue _ | .markConsumed _ _ => StoredOutboxEvent
  | .listUnconsumed _ _ => List StoredOutboxEvent
  | .approveAndEnqueue _ _ _ => Option (Proposal × StoredOutboxEvent)
  | .publish _ | .acknowledge _ | .tick _ | .replaceExperiments _ => Unit

/-- A repository call on the proposals, at the time the clock shows. -/
def onProposals (call : Instant → ProposalStore CritiqueProposalPayload α) :
    Store DbError World α := do
  let clock ← Store.read (·.clock)
  Store.zoom (·.proposals) (fun w s => { w with proposals := s }) (call clock)

def onPlaybooks (call : Instant → Store DbError PlaybookVersionStore α) :
    Store DbError World α := do
  let clock ← Store.read (·.clock)
  Store.zoom (·.playbooks) (fun w s => { w with playbooks := s }) (call clock)

def onOutbox (call : Instant → Store DbError InMemoryOutboxRepository α) :
    Store DbError World α :=
  onProposals fun clock =>
    Store.zoom (·.outboxRepository) (fun s o => { s with outboxRepository := o }) (call clock)

/-- A query, which may throw and changes nothing. -/
def query (f : World → Except DbError α) : Store DbError World α := ⟨fun w => (f w, w)⟩

section
variable (d : Deployment)

/-- Either implementation of a repository. -/
def Deployment.choose (inMemory postgres : α) : α :=
  match d.backend with
  | .inMemory => inMemory
  | .postgres => postgres

def exec : ∀ op, Store DbError World (Res op)
  | .now => Store.read (·.clock)
  | .createProposal tenantId params => onProposals fun now => d.choose
      (InMemoryLearningProposalRepository.create d.uuid now tenantId params)
      (PostgresLearningProposalRepository.create d.uuid now tenantId params)
  | .getProposal tenantId id => onProposals fun _ => d.choose
      (InMemoryLearningProposalRepository.getById tenantId id)
      (PostgresLearningProposalRepository.getById tenantId id)
  | .getByProposalKey tenantId proposalKey => onProposals fun _ => d.choose
      (InMemoryLearningProposalRepository.getByProposalKey tenantId proposalKey)
      (PostgresLearningProposalRepository.getByProposalKey tenantId proposalKey)
  | .recordEvaluation tenantId id params => onProposals fun now => d.choose
      (InMemoryLearningProposalRepository.recordEvaluation now tenantId id params)
      (PostgresLearningProposalRepository.recordEvaluation now tenantId id params)
  | .claimPromotion tenantId id => onProposals fun now => d.choose
      (InMemoryLearningProposalRepository.claimPromotion d.uuid now tenantId id {})
      (PostgresLearningProposalRepository.claimPromotion d.uuid now tenantId id {})
  | .markPromoted tenantId id versionRef token => onProposals fun now => d.choose
      (InMemoryLearningProposalRepository.markPromoted now tenantId id versionRef token)
      (PostgresLearningProposalRepository.markPromoted now tenantId id versionRef token)
  | .approveAndEnqueue tenantId id approver => onProposals fun now => d.choose
      (InMemoryLearningProposalRepository.approveAndEnqueue now tenantId id approver)
      (PostgresLearningProposalRepository.approveAndEnqueue now tenantId id approver)
  | .markRolledBack tenantId id versionRef => onProposals fun now => d.choose
      (InMemoryLearningProposalRepository.markRolledBack now tenantId id versionRef)
      (PostgresLearningProposalRepository.markRolledBack now tenantId id versionRef)
  | .getExperiment tenantId id => query fun w => d.choose
      (InMemoryExperimentRepository.getById w.experiments tenantId id)
      (PostgresExperimentRepository.getById w.experiments tenantId id)
  | .summarizeEvidence tenantId experimentId metricName guardrail => query fun w => d.choose
      (InMemoryExperimentRepository.summarizeEvidence w.experiments tenantId experimentId
        metricName guardrail)
      (PostgresExperimentRepository.summarizeEvidence w.experiments tenantId experimentId
        metricName guardrail)
  | .listVersions tenantId playbookType => query fun w => d.choose
      (InMemoryPlaybookVersionsRepository.listAll w.playbooks tenantId playbookType)
      (PostgresPlaybookVersionsRepository.listAll w.playbooks tenantId playbookType)
  | .getActiveVersion tenantId playbookType => query fun w => d.choose
      (InMemoryPlaybookVersionsRepository.getActive w.playbooks tenantId playbookType)
      (PostgresPlaybookVersionsRepository.getActive w.playbooks tenantId playbookType)
  | .createVersion tenantId params => onPlaybooks fun now => d.choose
      (InMemoryPlaybookVersionsRepository.create d.versionUuid now tenantId params)
      (PostgresPlaybookVersionsRepository.create d.versionUuid now tenantId params)
  | .enqueue command => onOutbox fun now => InMemoryOutboxRepository.enqueue now command
  | .listUnconsumed tenantId limit =>
    Store.read (·.proposals.outboxRepository.listUnconsumed tenantId limit)
  | .publish event => Store.modify fun w => { w with stream := w.stream ++ [event] }
  | .markConsumed tenantId eventId => onOutbox fun now =>
      InMemoryOutboxRepository.markConsumed tenantId eventId now
  | .acknowledge eventId =>
    Store.modify fun w => { w with stream := w.stream.eraseP (·.id == eventId) }
  | .tick ms => Store.modify fun w => { w with clock := w.clock + ms }
  | .replaceExperiments experiments => Store.modify fun w => { w with experiments }

end

end VantGrowth.Learning
