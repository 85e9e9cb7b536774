import VantGrowth.Api.Approvals
import VantGrowth.Db.Summaries

namespace VantGrowth.Api
open Db Lib

def CONTROL_PLANE_LIST_LIMIT : Nat := 100

def OUTBOX_SCAN_LIMIT : Nat := 500

def APPROVAL_DECISION_SCAN_LIMIT : Nat := 1000

def approvalEventTypes : List String := ["blog_draft.v1", "content_brief.v1", "intel_brief.v1"]

structure MotionStack where
  primaryMotions : List String
  secondaryMotions : List String

structure MotionScore where
  scorerVersion : String
  scoredAt : Instant

structure MotionOverview where
  latestStack : Option MotionStack
  latestScore : Option MotionScore

/-- A repository that is configured, the reads of which may fail. -/
inductive Repository (σ : Type) where
  | down
  | up (state : σ)

/-- The in-memory repositories, motion overviews as what is read of a tenant. -/
structure ControlPlaneRouteDependencies (π : Type) where
  outboxRepository : Option (Repository InMemoryOutboxRepository)
  signalEventsRepository : Option (Repository InMemorySignalEventsRepository)
  approvalFeedbackRepository : Option (Repository InMemoryApprovalFeedbackRepository)
  motionStackRepository : Option (Repository (String → MotionOverview))
  componentHealthRepository : Option (Repository ComponentHealthStore)
  incidentRepository : Option (Repository IncidentStore)
  experimentRepository : Option (Repository InMemoryExperimentRepository)
  learningProposalRepository : Option (Repository (LearningProposalStore π))

inductive DataSourceStatus where
  | available | not_configured | unavailable
deriving DecidableEq

structure LoadedSource (α : Type) where
  status : DataSourceStatus
  value : α

def loadOptional (repository : Option (Repository σ)) (fallback : α) (load : σ → Except DbError α) :
    LoadedSource α :=
  match repository with
  | none => ⟨.not_configured, fallback⟩
  | some .down => ⟨.unavailable, fallback⟩
  | some (.up state) =>
    match load state with
    | .ok value => ⟨.available, value⟩
    | .error _ => ⟨.unavailable, fallback⟩

structure DataSources where
  signals : DataSourceStatus
  outbox : DataSourceStatus
  approvals : DataSourceStatus
  motion : DataSourceStatus
  componentHealth : DataSourceStatus
  incidents : DataSourceStatus
  experiments : DataSourceStatus
  learningProposals : DataSourceStatus

/-- `Object.values` -/
def DataSources.values (d : DataSources) : List DataSourceStatus :=
  [d.signals, d.outbox, d.approvals, d.motion, d.componentHealth, d.incidents, d.experiments,
    d.learningProposals]

structure SignalCounts where
  today : Nat
  windowStart : String

structure ApprovalCounts where
  pending : Nat
  pendingIsLowerBound : Bool
  decisionScanTruncated : Bool
  approvedLastSevenDays : Nat
  rejectedLastSevenDays : Nat

structure ExecutionCounts where
  pendingOutboxEvents : Nat
  pendingOutboxEventsIsLowerBound : Bool

structure MotionSection where
  primaryMotions : List String
  secondaryMotions : List String
  scorerVersion : Option String
  scoredAt : Option String

inductive OverallHealth where
  | unknown
  | known (state : RuntimeHealthState)

structure HealthCounts where
  overall : OverallHealth
  overallMayBeIncomplete : Bool
  components : Nat
  componentsIsLowerBound : Bool
  degraded : Nat
  recovering : Nat
  quarantined : Nat
  externalActionsBlocked : Nat

structure IncidentCounts where
  open_ : Nat
  openIsLowerBound : Bool
  criticalOpen : Nat
  criticalOpenIsLowerBound : Bool

structure ExperimentCounts where
  total : Nat
  running : Nat
  paused : Nat
  concluded : Nat
  promoted : Nat
  rolledBack : Nat

structure LearningCounts where
  total : Nat
  awaitingEvidence : Nat
  evaluating : Nat
  requiresApproval : Nat
  promoted : Nat
  rolledBack : Nat

structure ControlPlaneSummary where
  tenantId : String
  generatedAt : String
  isPartial : Bool
  dataSources : DataSources
  signals : SignalCounts
  approvals : ApprovalCounts
  execution : ExecutionCounts
  motion : MotionSection
  health : HealthCounts
  incidents : IncidentCounts
  experiments : ExperimentCounts
  learning : LearningCounts

def startOfUtcDay (now : Instant) : Instant := now.fdiv 86400000 * 86400000

/-- `${outputType}:${issueId}` -/
def decisionKey (outputType issueId : String) : String := outputType ++ ":" ++ issueId

/-- An event the route counts as pending, by the decisions it read. -/
def awaitsApproval (decisions : List ApprovalFeedback) (event : StoredOutboxEvent) : Bool :=
  approvalEventTypes.contains event.eventType &&
    match extractIssueId event.payload with
    | none => true
    | some issueId =>
      !(decisions.map fun d => decisionKey d.outputType d.issueId).contains
        (decisionKey event.eventType issueId)

/-- The actions that approve. -/
def approves (action : FeedbackAction) : Bool :=
  action == .approved || action == .edited_then_approved || action == .auto_approved

/-- The statuses of closed incidents, of which the store has only the first. -/
def isOpenIncident : IncidentStatus → Bool
  | .resolved => false
  | .open_ | .acknowledged | .mitigated => true

def getOverallHealth (items : List ComponentHealthRecord) : OverallHealth :=
  if items.isEmpty = true then .unknown
  else if items.any (·.state == .quarantined) = true then .known .quarantined
  else if items.any (·.state == .recovering) = true then .known .recovering
  else if items.any (·.state == .degraded) = true then .known .degraded
  else .known .healthy

/-- What `Promise.all` gathers. -/
structure LoadedSources where
  signals : LoadedSource Nat
  outbox : LoadedSource (List StoredOutboxEvent)
  decisions : LoadedSource (List ApprovalFeedback)
  motion : LoadedSource (Option MotionOverview)
  componentHealth : LoadedSource (List ComponentHealthRecord)
  incidents : LoadedSource (List IncidentRecord)
  experiments : LoadedSource (StatusSummary ExperimentStatus)
  learningProposals : LoadedSource (StatusSummary LearningProposalStatus)

def loadSources (deps : ControlPlaneRouteDependencies π) (tenantId : String) (now : Instant) :
    LoadedSources where
  signals := loadOptional deps.signalEventsRepository 0 fun repository =>
    .ok (repository.countSince tenantId (startOfUtcDay now))
  outbox := loadOptional deps.outboxRepository [] fun repository =>
    .ok (repository.listUnconsumed tenantId OUTBOX_SCAN_LIMIT)
  decisions := loadOptional deps.approvalFeedbackRepository [] fun repository =>
    repository.listRecent tenantId APPROVAL_DECISION_SCAN_LIMIT none
  motion := loadOptional deps.motionStackRepository none fun getOverview =>
    .ok (some (getOverview tenantId))
  componentHealth := loadOptional deps.componentHealthRepository [] fun repository =>
    repository.listLatest tenantId CONTROL_PLANE_LIST_LIMIT
  incidents := loadOptional deps.incidentRepository [] fun repository =>
    repository.listRecent tenantId CONTROL_PLANE_LIST_LIMIT
  experiments := loadOptional deps.experimentRepository .empty fun repository =>
    repository.getSummary tenantId
  learningProposals := loadOptional deps.learningProposalRepository .empty fun repository =>
    repository.getSummary tenantId

namespace LoadedSources
variable (s : LoadedSources)

def dataSources : DataSources :=
  { signals := s.signals.status, outbox := s.outbox.status, approvals := s.decisions.status,
    motion := s.motion.status, componentHealth := s.componentHealth.status,
    incidents := s.incidents.status, experiments := s.experiments.status,
    learningProposals := s.learningProposals.status }

def approvalCounts (now : Instant) : ApprovalCounts :=
  let lastSevenDays := now - 7 * 24 * 60 * 60 * 1000
  let recentDecisions := s.decisions.value.filter fun decision => lastSevenDays ≤ decision.createdAt
  { pending := (s.outbox.value.filter (awaitsApproval s.decisions.value)).length
    pendingIsLowerBound := s.outbox.value.length == OUTBOX_SCAN_LIMIT
    decisionScanTruncated := s.decisions.value.length == APPROVAL_DECISION_SCAN_LIMIT
    approvedLastSevenDays := (recentDecisions.filter fun d => approves d.action).length
    rejectedLastSevenDays := (recentDecisions.filter fun d => d.action == .rejected).length }

def motionSection : MotionSection :=
  let stack := s.motion.value.bind (·.latestStack)
  let score := s.motion.value.bind (·.latestScore)
  { primaryMotions := (stack.map (·.primaryMotions)).getD []
    secondaryMotions := (stack.map (·.secondaryMotions)).getD []
    scorerVersion := score.map (·.scorerVersion)
    scoredAt := score.map (·.scoredAt.toISOString) }

def healthCounts : HealthCounts :=
  let items := s.componentHealth.value
  { overall := getOverallHealth items
    overallMayBeIncomplete := items.length == CONTROL_PLANE_LIST_LIMIT
    components := items.length
    componentsIsLowerBound := items.length == CONTROL_PLANE_LIST_LIMIT
    degraded := (items.filter (·.state == .degraded)).length
    recovering := (items.filter (·.state == .recovering)).length
    quarantined := (items.filter (·.state == .quarantined)).length
    externalActionsBlocked := (items.filter (!·.allowExternalActions)).length }

def incidentCounts : IncidentCounts :=
  let openIncidents := s.incidents.value.filter fun incident => isOpenIncident incident.status
  { open_ := openIncidents.length
    openIsLowerBound := s.incidents.value.length == CONTROL_PLANE_LIST_LIMIT
    criticalOpen := (openIncidents.filter (·.severity == .critical)).length
    criticalOpenIsLowerBound := s.incidents.value.length == CONTROL_PLANE_LIST_LIMIT }

def experimentCounts : ExperimentCounts :=
  { total := s.experiments.value.total, running := s.experiments.value.byStatus .running,
    paused := s.experiments.value.byStatus .paused, concluded := s.experiments.value.byStatus .concluded,
    promoted := s.experiments.value.byStatus .promoted,
    rolledBack := s.experiments.value.byStatus .rolled_back }

def learningCounts : LearningCounts :=
  { total := s.learningProposals.value.total,
    awaitingEvidence := s.learningProposals.value.byStatus .awaiting_evidence,
    evaluating := s.learningProposals.value.byStatus .evaluating,
    requiresApproval := s.learningProposals.value.byStatus .requires_approval,
    promoted := s.learningProposals.value.byStatus .promoted,
    rolledBack := s.learningProposals.value.byStatus .rolled_back }

/-- The body of the answer. -/
def summary (tenantId : String) (now : Instant) : ControlPlaneSummary where
  tenantId := tenantId
  generatedAt := now.toISOString
  isPartial := s.dataSources.values.any (· != .available)
  dataSources := s.dataSources
  signals := ⟨s.signals.value, (startOfUtcDay now).toISOString⟩
  approvals := s.approvalCounts now
  execution := ⟨s.outbox.value.length, s.outbox.value.length == OUTBOX_SCAN_LIMIT⟩
  motion := s.motionSection
  health := s.healthCounts
  incidents := s.incidentCounts
  experiments := s.experimentCounts
  learning := s.learningCounts

end LoadedSources

def hasAnyConfiguredStore (deps : ControlPlaneRouteDependencies π) : Bool :=
  deps.outboxRepository.isSome || deps.signalEventsRepository.isSome ||
    deps.approvalFeedbackRepository.isSome || deps.motionStackRepository.isSome ||
    deps.componentHealthRepository.isSome || deps.incidentRepository.isSome ||
    deps.experimentRepository.isSome || deps.learningProposalRepository.isSome

/-- `GET /v1/control-plane/summary` -/
def getSummary (deps : ControlPlaneRouteDependencies π) (now : Instant) (tenantId : Option String) :
    Except HttpError (Reply ControlPlaneSummary) :=
  match tenantId.filter (· != "") with
  | none => .ok (.refused 400 "X-Tenant-Id header is required")
  | some tenantId =>
    if isUuid tenantId = true then
      if hasAnyConfiguredStore deps = true then
        let sources := loadSources deps tenantId now
        if sources.dataSources.values.contains .available = true then
          .ok (.json 200 (sources.summary tenantId now))
        else .error (.serviceUnavailable "Configured control-plane stores are unavailable.")
      else .error (.serviceUnavailable "Control-plane stores are not configured. Set DATABASE_URL.")
    else .ok (.refused 400 "X-Tenant-Id must be a valid UUID")

end VantGrowth.Api
