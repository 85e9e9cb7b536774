import VantGrowth.Signals.System

namespace VantGrowth.Signals
open Core Db Lib Lib.Text

/-- The grade, as the routing event states it. -/
def gradeFields : Option SignalGrade → Payload
  | some grade => [("grade", .obj [("relevance", .num (.finite grade.relevance)),
      ("urgency", .str grade.urgency.text), ("topic_category", .str grade.topicCategory),
      ("action_recommendations", .arr (grade.actionRecommendations.map .str))])]
  | none => []

/-- The event `route` puts to the outbox. -/
def routedEvent (routed : RoutedSignal) : EnqueueOutboxEvent where
  tenantId := routed.tenantId
  eventType := "signal.routed.v1"
  idempotencyKey := routed.dedupeKey
  payload := [("signal_id", .str routed.signalId), ("source", .str routed.source),
    ("kind", .str routed.kind), ("priority", .str routed.priority.text),
    ("target_agent", .str routed.targetAgent),
    ("half_life_minutes", .num (.finite routed.halfLifeMinutes)), ("payload", .obj routed.payload),
    ("routed_at", .str routed.routedAt.toISOString)] ++ gradeFields routed.grade

/-- Throws what the call threw. -/
def enqueueCommand (command : EnqueueOutboxEvent) : Attempt Unit := do
  let _ ← ExceptT.mk (await (.enqueue command))

section
variable (d : Deployment)

/-- The grade, where a model is there to give one. -/
def gradeSignal (input : IncomingSignal) : Attempt (Option SignalGrade) :=
  if d.llmCallRunner = true then ExceptT.lift (await (.gradeSignal input)) else pure none

/-- `SignalRouter.route` -/
def route (input : IncomingSignal) : Attempt RoutedSignal := do
  if input.valid = true then
    let grade ← gradeSignal d input
    let now ← ExceptT.lift (await .now)
    let routed := routedOf now input grade
    if routed.valid = true then
      enqueueCommand (routedEvent routed)
      return routed
    else throw .zod
  else throw .zod

def downstreamCommand (now : Instant) (signal : SignalEventRecord) (routed : RoutedSignal) :
    EnqueueOutboxEvent :=
  if routed.targetAgent = "intel_director" then
    createIntelBriefRequestFromSignal d.sha256 signal routed
  else createAgentWorkRequestFromSignal d.sha256 now signal routed

def processSignal (signal : SignalEventRecord) : Attempt Unit := do
  let routed ← route d (incomingSignal signal)
  let now ← ExceptT.lift (await .now)
  enqueueCommand (downstreamCommand d now signal routed)
  ExceptT.mk (await (.markProcessed signal.tenantId [signal.id]))

structure SignalIngestionWorker where
  claimOwner : String
  claimLeaseMs : ℚ := 60000
deriving DecidableEq

structure SignalProcessingFailure where
  signalId : String
  error : WorkerError

structure SignalProcessingResult where
  processedSignalIds : List String
  failures : List SignalProcessingFailure

variable (w : SignalIngestionWorker)

/-- A signal that fails is released, and the next one is taken up. -/
def processClaimed (result : SignalProcessingResult) (signal : SignalEventRecord) :
    Handler SignalProcessingResult := do
  match ← (processSignal d signal).run with
  | .ok () => return { result with processedSignalIds := result.processedSignalIds ++ [decimal signal.id] }
  | .error error =>
    await (.releaseClaims signal.tenantId [signal.id] w.claimOwner)
    return { result with failures := result.failures ++ [⟨decimal signal.id, error⟩] }

def processType (tenantId : String) (batchSize : Nat) (result : SignalProcessingResult)
    (signalType : SignalTypeValue) : Handler SignalProcessingResult := do
  let signals : List SignalEventRecord ←
    await (.claimUnprocessed tenantId signalType batchSize ⟨w.claimOwner, w.claimLeaseMs⟩)
  signals.foldlM (processClaimed d w) result

def processTenant (tenantId : String) (batchSizePerSignalType : Nat) :
    Handler SignalProcessingResult :=
  signalTypeValues.foldlM (processType d w tenantId batchSizePerSignalType) ⟨[], []⟩

end

/-- A call of `processTenant` by one of the workers. -/
structure Start where
  worker : SignalIngestionWorker
  tenantId : String
  batchSize : Nat

/-- Any number of workers over one inbox and one outbox, interleaved at every
await, while signals come in and events are consumed. -/
def machine (d : Deployment) :
    Machine Res WorkerError (Faulty World) Start SignalProcessingResult where
  exec := exec d
  program _ s := some (processTenant d s.worker s.tenantId s.batchSize)
  acknowledge _ := none
  outside
    | .ingest _ | .markConsumed _ _ | .tick _ | .disturb _ | .prepare _ => true
    | _ => false

end VantGrowth.Signals
