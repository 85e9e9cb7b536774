import VantGrowth.Publisher.ExternalActions

namespace VantGrowth.Publisher
open Db Db.Zod Lib Lib.Text N8n Prog

/-- How an `OutboxPublisher` is wired. -/
structure OutboxPublisher where
  n8nDispatchClient : Bool := true
  externalActionsRepository : Bool := true
  incidentRepository : Bool := true
  componentHealthRepository : Bool := true
  n8nRetryBackoffMs : JsNumber := .finite 60000
  n8nDispatchLeaseMs : JsNumber := .finite 120000
  n8nDispatchWorkerId : String
  n8nDispatchResultCallbackUrl : Option String := none
  n8nRequireResultCallback : Bool := false

def incidentOpenedEventType : String := "incident.opened.v1"

def workerDeadLetterEventType : String := "worker.dead_lettered.v1"

def severities : List (String × IncidentSeverity) :=
  [("low", .low), ("medium", .medium), ("high", .high), ("critical", .critical)]

def healingActions : List (String × HealingAction) :=
  [("none", .none_), ("resume", .resume), ("retry_with_backoff", .retry_with_backoff),
    ("use_fallback", .use_fallback), ("rollback", .rollback),
    ("quarantine_and_escalate", .quarantine_and_escalate)]

structure IncidentOpenedPayload where
  incident_key : String
  component_id : String
  severity : IncidentSeverity
  title : String
  summary : String
  action : Option HealingAction
  rollback_version_ref : Option String
  diagnostic_metadata : Payload

def incidentOpenedPayloadSchema (p : Payload) : Option IncidentOpenedPayload := do
  let incident_key ← required p "incident_key" (trimmed 1 255)
  let component_id ← required p "component_id" (trimmed 1 255)
  let severity ← required p "severity" (oneOf severities)
  let title ← required p "title" (trimmed 1 500)
  let summary ← required p "summary" (trimmed 1 2000)
  let action ← optional p "action" (oneOf healingActions)
  let rollback_version_ref ← optional p "rollback_version_ref" (trimmed 1 500)
  let diagnostic_metadata ← defaulted p "diagnostic_metadata" record []
  return { incident_key, component_id, severity, title, summary, action, rollback_version_ref,
           diagnostic_metadata }

inductive StreamSequence where
  | text (s : String)
  | number (n : Nat)

namespace StreamSequence

/-- The sequence inside a template. -/
def render : StreamSequence → String
  | text s => s
  | number n => decimal n

def json : StreamSequence → Json
  | text s => .str s
  | number n => Db.count n

/-- `z.union([z.string().min(1), z.number().int().nonnegative()])` -/
def read : Schema StreamSequence := fun j => ((filled j).map text).or ((Zod.count j).map number)

end StreamSequence

structure WorkerDeadLetterPayload where
  worker : String
  source_subject : String
  stream_sequence : StreamSequence
  redelivery_count : Option Nat
  error : String
  failed_payload : Option Payload

def workerDeadLetterPayloadSchema (p : Payload) : Option WorkerDeadLetterPayload := do
  let worker ← required p "worker" (trimmed 1 255)
  let source_subject ← required p "source_subject" (trimmed 1 1000)
  let stream_sequence ← required p "stream_sequence" StreamSequence.read
  let redelivery_count ← optional p "redelivery_count" Zod.count
  let error ← required p "error" (trimmed 1 10000)
  let failed_payload ← optional p "failed_payload" record
  return { worker, source_subject, stream_sequence, redelivery_count, error, failed_payload }

/-- `OutboxPublisher.sanitizeError` -/
def sanitizeError (value : String) : JsString :=
  (JsString.replaceAll assignmentHit (JsString.replaceAll bearerHit (.ofString value))).take 1000

def openedIncident (p : IncidentOpenedPayload) : CreateIncidentParams :=
  { incidentKey := p.incident_key, componentId := p.component_id, severity := p.severity,
    title := p.title, summary := .ofString p.summary, action := p.action,
    rollbackVersionRef := p.rollback_version_ref, diagnosticMetadata := p.diagnostic_metadata }

def deadLetterKey (p : WorkerDeadLetterPayload) : String :=
  join "dead-letter" (join p.worker (join p.source_subject p.stream_sequence.render))

def deadLetterIncident (digest : Option String) (p : WorkerDeadLetterPayload) :
    CreateIncidentParams :=
  { incidentKey := deadLetterKey p, componentId := p.worker, severity := .high,
    title := "Worker dead-lettered " ++ p.worker ++ " event",
    summary := .ofString ("The " ++ p.worker ++ " worker exhausted delivery attempts for " ++
      p.source_subject ++ ": ") ++ sanitizeError p.error,
    action := some .quarantine_and_escalate,
    diagnosticMetadata :=
      [("source_subject", .str p.source_subject), ("stream_sequence", p.stream_sequence.json)] ++
        (p.redelivery_count.toList.map fun n => ("redelivery_count", Db.count n)) ++
        truthyField "failed_payload_sha256" digest }

def quarantine (p : WorkerDeadLetterPayload) : RecordComponentHealthParams :=
  { componentId := p.worker, idempotencyKey := deadLetterKey p, state := .quarantined,
    errorRate := 1, consecutiveFailures := max 1 (p.redelivery_count.getD 1), p95LatencyMs := 0,
    stalenessSeconds := 0, dependencyAvailable := false, fallbackAvailable := false,
    lastKnownGoodAvailable := false, recoveryAttempts := 0, guardrailBreached := true,
    action := .quarantine_and_escalate, allowExternalActions := false,
    reasons :=
      [.ofString ("Dead-lettered " ++ p.source_subject ++ " at stream sequence " ++
        p.stream_sequence.render ++ "."), sanitizeError p.error] }

/-- `schema.parse(value)` -/
def parsed (value : Option α) : Handler α :=
  match value with
  | some a => pure a
  | none => Prog.throw (.repository .zod)

/-- A call where the dependency is wired. -/
def awaitIf (wired : Bool) (op : Op) : Handler Unit := do
  if wired = true then
    let _ ← await op
    return ()
  else return ()

def tenantScopedSubject (tenantId subject : String) : Handler String :=
  if isUuid tenantId = false then Prog.throw (.repository .zod)
  else if subject = "" ∨ subject.toList.head? = some '.' ∨ subject.toList.getLast? = some '.' then
    Prog.throw (.error "Subject must be a non-empty dot-delimited suffix.")
  else pure ("t." ++ tenantId ++ "." ++ subject)

/-- `retryBackoffMs` and `dispatchLeaseMs`: a positive number of milliseconds. -/
def positiveMs (value : JsNumber) (message : String) : Handler JsNumber :=
  match value with
  | .finite ms => if 0 < ms then pure value else Prog.throw (.error message)
  | _ => Prog.throw (.error message)

inductive Disposition where
  | consumed | deferred
deriving DecidableEq

section
variable (d : Deployment) (p : OutboxPublisher)

def persistOperationalState (event : StoredOutboxEvent) : Handler Unit := do
  if event.eventType = incidentOpenedEventType then
    if p.incidentRepository = false then return ()
    else
      let payload ← parsed (incidentOpenedPayloadSchema event.payload)
      let _ ← await (.createIncident event.tenantId (openedIncident payload))
      return ()
  else if event.eventType ≠ workerDeadLetterEventType then return ()
  else
    let payload ← parsed (workerDeadLetterPayloadSchema event.payload)
    let digest := payload.failed_payload.bind d.payloadDigest
    awaitIf p.incidentRepository (.createIncident event.tenantId (deadLetterIncident digest payload))
    awaitIf p.componentHealthRepository (.recordHealth event.tenantId (quarantine payload))

def identityOf (request : N8nDispatchRequest) : DispatchIdentity :=
  ⟨request.tenantId, request.actionId, request.idempotencyKey⟩

/-- What follows an answer of n8n. -/
def settleDispatch (request : N8nDispatchRequest) : N8nDispatchResult → Handler Disposition
  | .success status body => do
    let receipt :=
      { httpStatus := status, body,
        workflowId := receiptField body ["workflowId", "workflow_id"],
        executionId := receiptField body ["executionId", "execution_id"],
        providerReference := receiptField body
          ["providerReference", "provider_reference", "messageId", "message_id"] }
    let _ ← recordDispatchAccepted d
      { identityOf request with leaseOwner := p.n8nDispatchWorkerId, receipt }
    return .consumed
  | .failure status error retryable => do
    let errorCode :=
      match status with
      | some (n + 1) => "HTTP_" ++ decimal (n + 1)
      | _ => "N8N_NETWORK_ERROR"
    if retryable = true then
      let retryAfterMs ← positiveMs p.n8nRetryBackoffMs
        "n8n retry backoff must be a positive number of milliseconds"
      let _ ← scheduleDispatchRetry d
        { identityOf request with
          leaseOwner := p.n8nDispatchWorkerId
          retryAfterMs
          errorCode
          errorMessage := error }
      return .deferred
    else
      let _ ← failDispatch d
        { identityOf request with
          leaseOwner := p.n8nDispatchWorkerId
          errorCode
          errorMessage := error }
      return .consumed

/-- The claim a request makes. -/
def claimOf (request : N8nDispatchRequest) : ClaimExternalActionDispatch :=
  { identityOf request with
    leaseOwner := p.n8nDispatchWorkerId
    leaseDurationMs := p.n8nDispatchLeaseMs }

def dispatchN8nAction (payload : Payload) : Handler Disposition := do
  Prog.require (p.n8nDispatchClient = true) (.error "n8n dispatch client is not configured")
  Prog.require (p.externalActionsRepository = true)
    (.error ("external actions repository is not configured; refusing n8n dispatch without a " ++
      "durable lifecycle"))
  Prog.require (p.n8nRequireResultCallback = true →
      p.n8nDispatchResultCallbackUrl.any (· != "") = true)
    (.error "n8n dispatch result callback URL is required in this environment")
  let request ← parsed (n8nTypedDispatchRequestSchema d.formats payload)
  let _ ← positiveMs p.n8nDispatchLeaseMs
    "n8n dispatch lease must be a positive number of milliseconds"
  match ← claimDispatch d (claimOf p request) with
  | .deferred _ | .in_flight _ => return .deferred
  | .settled _ => return .consumed
  | .claimed _ =>
    let callback := (p.n8nDispatchResultCallbackUrl.filter (· != "")).or request.callback
    let result ← await (.dispatch { request with callback })
    settleDispatch d p request result

/-- What becomes of an event before it is marked. -/
def handleEvent (event : StoredOutboxEvent) : Handler Disposition := do
  persistOperationalState d p event
  if event.eventType = externalActionOutboxEventType then dispatchN8nAction d p event.payload
  else
    let subject ← tenantScopedSubject event.tenantId event.eventType
    await (.publish subject event.payload)
    return .consumed

/-- The body of the loop; whether the event was consumed. -/
def drainEvent (event : StoredOutboxEvent) : Handler Bool := do
  match ← handleEvent d p event with
  | .deferred => return false
  | .consumed =>
    let _ ← await (.markConsumed event.tenantId event.id)
    return true

/-- The loop, with the number of events consumed so far. -/
def drainEvents : List StoredOutboxEvent → Nat → Handler Nat
  | [], publishedCount => return publishedCount
  | event :: pending, publishedCount => do
    let consumed ← drainEvent d p event
    drainEvents pending (publishedCount + consumed.toNat)

/-- What the source catches here it throws again. -/
def publishPendingForTenant (tenantId : String) (limit : Nat) : Handler Nat := do
  let pending ← await (.listUnconsumed tenantId limit)
  drainEvents d p pending 0

structure PublishCycleResult where
  publishedCount : Nat
  publishedByTenant : InsertionMap String Nat

def publishTenants (limitPerTenant : Nat) :
    List String → PublishCycleResult → Handler PublishCycleResult
  | [], result => return result
  | tenantId :: tenantIds, result => do
    let n ← publishPendingForTenant d p tenantId limitPerTenant
    publishTenants limitPerTenant tenantIds
      ⟨result.publishedCount + n, result.publishedByTenant.set tenantId n⟩

def publishCycle (tenantIds : List String) (limitPerTenant : Nat) : Handler PublishCycleResult :=
  publishTenants d p limitPerTenant tenantIds ⟨0, .empty⟩

end

/-- Everything that runs next to each other: cycles of publishers, and direct
calls of the external actions. -/
inductive Start where
  | publishCycle (p : OutboxPublisher) (tenantIds : List String) (limitPerTenant : Nat)
  | claimDispatch (input : ClaimExternalActionDispatch)
  | recordDispatchAccepted (input : RecordDispatchAcceptedInput)
  | scheduleDispatchRetry (input : ScheduleDispatchRetryInput)
  | failDispatch (input : FailExternalActionDispatchInput)
  | recordOutcome (input : RecordExternalActionOutcome)

/-- A time a caller hands in was read from the clock. -/
def Start.timely (clock : Instant) : Start → Bool
  | .claimDispatch input => input.now.all fun now => now != .invalid && !now.after (.valid clock)
  | _ => true

def Start.handler (d : Deployment) : Start → Handler Unit
  | .publishCycle p tenantIds limit => do
    let _ ← Publisher.publishCycle d p tenantIds limit
    return ()
  | .claimDispatch input => do
    let _ ← Publisher.claimDispatch d input
    return ()
  | .recordDispatchAccepted input => do
    let _ ← Publisher.recordDispatchAccepted d input
    return ()
  | .scheduleDispatchRetry input => do
    let _ ← Publisher.scheduleDispatchRetry d input
    return ()
  | .failDispatch input => do
    let _ ← Publisher.failDispatch d input
    return ()
  | .recordOutcome input => do
    let _ ← Publisher.recordOutcome d input
    return ()

def outside : Op → Bool
  | .enqueueRequested _ | .enqueue _ | .tick _ | .disturb _ | .prepare _ => true
  | _ => false

def machine (d : Deployment) : Machine Res PublisherError (Faulty World) Start Unit where
  exec := exec d
  program w s := if s.timely w.state.clock = true then some (s.handler d) else none
  acknowledge _ := none
  outside := outside

end VantGrowth.Publisher
