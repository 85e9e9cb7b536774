import VantGrowth.Db.Outbox
import VantGrowth.Lib.Runs
import VantGrowth.Db.ExternalActions
import VantGrowth.Db.ExternalActionsRepository
import VantGrowth.Proofs.ActionEffects
import VantGrowth.Proofs.ActionOperations
import VantGrowth.Proofs.ActionLifecycle
import VantGrowth.Db.InMemoryLearningProposals
import VantGrowth.Db.PostgresLearningProposals
import VantGrowth.Lib.Lease
import VantGrowth.Db.LearningProposalCalls
import VantGrowth.Proofs.ProposalEffects
import VantGrowth.Proofs.ProposalLifecycle
import VantGrowth.Proofs.PromotionFencing
import VantGrowth.Lib.Interleaving
import VantGrowth.Db.Experiments
import VantGrowth.Db.PlaybookVersions
import VantGrowth.Learning.Contracts
import VantGrowth.Learning.System
import VantGrowth.Learning.Worker
import VantGrowth.Proofs.ProposalKeys
import VantGrowth.Proofs.PlaybookEffects
import VantGrowth.Proofs.WorldSteps
import VantGrowth.Proofs.WorkerAwaits
import VantGrowth.Proofs.SystemLogs
import VantGrowth.Proofs.HumanApproval
import VantGrowth.Proofs.ApprovalMessages
import VantGrowth.Proofs.FounderApprovals
import VantGrowth.Proofs.VersionLogs
import VantGrowth.Proofs.PromotionLogs
import VantGrowth.Proofs.VersionUniqueness
import VantGrowth.Proofs.RubricUpdates
import VantGrowth.Core.Workflows
import VantGrowth.Lib.Faults
import VantGrowth.Workflow.Routes
import VantGrowth.Workflow.CallbackWorker
import VantGrowth.Proofs.WorkflowSteps
import VantGrowth.Proofs.RuntimeCallbacks
import VantGrowth.Proofs.CallbackRetries
import VantGrowth.Proofs.ProvisioningOutcomes
import VantGrowth.Core.DurableConsumer
import VantGrowth.Proofs.MessageCustody
import VantGrowth.Db.Incidents
import VantGrowth.Db.PostgresExternalActionsRepository
import VantGrowth.N8n.ChannelContracts
import VantGrowth.Publisher.System
import VantGrowth.Publisher.ExternalActions
import VantGrowth.Publisher.OutboxPublisher
import VantGrowth.Proofs.ActionCalls
import VantGrowth.Proofs.IncidentFiling
import VantGrowth.Proofs.PublisherSteps
import VantGrowth.Proofs.PublisherAwaits
import VantGrowth.Proofs.PublisherLogs
import VantGrowth.Proofs.DispatchExclusion
import VantGrowth.Proofs.ConsumptionSoundness
import VantGrowth.Proofs.DispatchFencing
import VantGrowth.Proofs.OutboxBatches
import VantGrowth.Publisher.DeadLetters
import VantGrowth.Proofs.DeadLetterReading
import VantGrowth.Proofs.RequestedEvents
import VantGrowth.Proofs.AcceptedRequests
import VantGrowth.Lib.Firsts
import VantGrowth.Proofs.HistoryReplays
import VantGrowth.Proofs.ProvisioningOutages
import VantGrowth.Core.StableId
import VantGrowth.Db.SignalEvents
import VantGrowth.Lib.IsoDate
import VantGrowth.Proofs.SignalInbox
import VantGrowth.Signals.Contracts
import VantGrowth.Proofs.BriefRequests
import VantGrowth.Signals.IngestionWorker
import VantGrowth.Proofs.SignalPipeline
import VantGrowth.Proofs.PoisonSignals
import VantGrowth.Learning.Consumers
import VantGrowth.Proofs.SubjectTenants
import VantGrowth.Provisioning.Clients
import VantGrowth.Provisioning.Orchestrator
import VantGrowth.Proofs.TenantResources
import VantGrowth.Proofs.GuardrailEvidence
import VantGrowth.Proofs.PromotedReasons
import VantGrowth.Core.HandoffContracts
import VantGrowth.Core.HandoffPayloads
import VantGrowth.Lib.JsText
import VantGrowth.Content.System
import VantGrowth.Content.IntelDirector
import VantGrowth.Proofs.FallbackBriefs
import VantGrowth.Content.BlogDraft
import VantGrowth.Content.PlaybookRubric
import VantGrowth.Content.Critique
import VantGrowth.Proofs.DraftFallbacks
import VantGrowth.Content.Strategist
import VantGrowth.Proofs.CritiqueFallbacks
import VantGrowth.Proofs.RubricGate
import VantGrowth.Proofs.OpportunityFanOut
import VantGrowth.Proofs.RequestContent
import VantGrowth.Db.TenantSettings
import VantGrowth.Proofs.SettingsPatches
import VantGrowth.Db.ExperimentRuns
import VantGrowth.Proofs.ExperimentUnits
import VantGrowth.Db.PostgresExternalActionCalls
import VantGrowth.Lib.Twin
import VantGrowth.Proofs.ActionTwins
import VantGrowth.Adapter.Paperclip
import VantGrowth.Api.Approvals
import VantGrowth.Core.HealingPolicy
import VantGrowth.Db.JsonCopies
import VantGrowth.Db.PendingApprovals
import VantGrowth.Db.StableJson
import VantGrowth.Heartbeat.Worker
import VantGrowth.Lib.Leading
import VantGrowth.Proofs.ActionFiling
import VantGrowth.Proofs.ApprovalAwaits
import VantGrowth.Proofs.ApprovalQueue
import VantGrowth.Proofs.ClaimedWork
import VantGrowth.Proofs.DispatchBoundaries
import VantGrowth.Proofs.ExperimentLifecycle
import VantGrowth.Proofs.HealingRuns
import VantGrowth.Proofs.PromotionGate
import VantGrowth.Proofs.RequestDigests
import VantGrowth.Proofs.RequestIdentity
import VantGrowth.Proofs.RubricExtension
import VantGrowth.Api.ControlPlane
import VantGrowth.Proofs.ControlPlaneCounts
import VantGrowth.Learning.Revisions
import VantGrowth.Proofs.RevisedDrafts
import VantGrowth.Attribution.Rollup
import VantGrowth.Db.PlaybookCalls
import VantGrowth.Harness.LogSink
import VantGrowth.Lib.Base64
import VantGrowth.Lib.JsObject
import VantGrowth.Lib.JsSort
import VantGrowth.Lib.JsonRead
import VantGrowth.Lib.Redaction
import VantGrowth.Lib.Utf8
import VantGrowth.Proofs.ChannelCounts
import VantGrowth.Proofs.CredentialMarkers
import VantGrowth.Proofs.HealthSnapshots
import VantGrowth.Proofs.LogRows
import VantGrowth.Proofs.MaskedCredentials
import VantGrowth.Proofs.PlaybookNumbers
import VantGrowth.Proofs.RubricScores
import VantGrowth.Proofs.SanitizedErrors
import VantGrowth.Proofs.SecretNames
import VantGrowth.Proofs.SessionTokens
import VantGrowth.Proofs.SettledErrors
import VantGrowth.Proofs.VaultTokens
import VantGrowth.Secrets.SecretManager
import VantGrowth.Secrets.VaultAppRoleAuth
import VantGrowth.Web.AuthToken
import VantGrowth.Core.MotionScoring
import VantGrowth.Warmth.WarmthWorker
import VantGrowth.Proofs.HandoffParsing
import VantGrowth.Proofs.MotionRanks
import VantGrowth.Proofs.WarmthGate
import VantGrowth.Proofs.RepositoryAgreement
import VantGrowth.Db.Migrations
import VantGrowth.Lib.Along
import VantGrowth.Lib.Leases
import VantGrowth.Proofs.ApprovedDispatches
import VantGrowth.Proofs.MigrationRuns
import VantGrowth.Proofs.SinglePublication
import VantGrowth.Content.Pipeline
import VantGrowth.Db.PostgresOutbox
import VantGrowth.Db.PostgresSignalEvents
import VantGrowth.Proofs.ContentLineage
import VantGrowth.Proofs.OutboxTwins
import VantGrowth.Proofs.SignalClaims
