import VantGrowth.Core.StableId
import VantGrowth.Db.SignalEvents
import VantGrowth.Db.Zod
import VantGrowth.Lib.IsoDate

namespace VantGrowth.Signals
open Core Db Lib Lib.Text

inductive SignalPriority where
  | P0 | P1 | P2 | P3
deriving DecidableEq

def SignalPriority.text : SignalPriority → String
  | P0 => "P0"
  | P1 => "P1"
  | P2 => "P2"
  | P3 => "P3"

structure IncomingSignal where
  tenantId : String
  signalId : String
  dedupeKey : String
  source : String
  kind : String
  payload : Payload

/-- `incomingSignalSchema` -/
def IncomingSignal.valid (signal : IncomingSignal) : Bool :=
  isUuid signal.tenantId && signal.signalId != "" && signal.dedupeKey != "" &&
    signal.source != "" && signal.kind != ""

inductive Urgency where
  | low | medium | high
deriving DecidableEq

def Urgency.text : Urgency → String
  | low => "low"
  | medium => "medium"
  | high => "high"

structure SignalGrade where
  relevance : ℚ
  urgency : Urgency
  topicCategory : String
  actionRecommendations : List String

/-- `signalGradeSchema` -/
def SignalGrade.valid (grade : SignalGrade) : Bool :=
  0 ≤ grade.relevance && grade.relevance ≤ 1 && grade.topicCategory != ""

structure Classification where
  priority : SignalPriority
  targetAgent : String
  halfLifeMinutes : Nat
deriving DecidableEq

def classifySignal (signal : IncomingSignal) : Classification :=
  if signal.kind = "prospect.replied" then ⟨.P0, "warm_outbound_researcher", 30⟩
  else if signal.kind = "competitor.pricing_change" then ⟨.P1, "intel_director", 120⟩
  else if signal.kind = "approval.rejected" then ⟨.P2, "learning_director", 1440⟩
  else ⟨.P2, "intel_director", 1440⟩

structure RoutedSignal extends IncomingSignal, Classification where
  routedAt : Instant
  grade : Option SignalGrade

/-- `routedSignalSchema` -/
def RoutedSignal.valid (routed : RoutedSignal) : Bool :=
  routed.toIncomingSignal.valid && routed.targetAgent != "" && 0 < routed.halfLifeMinutes &&
    routed.grade.all SignalGrade.valid

/-- What the router makes of a signal and its grade. -/
def routedOf (now : Instant) (signal : IncomingSignal) (grade : Option SignalGrade) : RoutedSignal :=
  { signal, classifySignal signal with routedAt := now, grade := grade }

/-- A record, where the value is one. -/
def asRecord : Option Json → Payload
  | some (.obj fields) => fields
  | _ => []

def nonEmptyString : Option Json → Option String
  | some (.str s) => if jsTrim s = "" then none else some (jsTrim s)
  | _ => none

/-- The value, unless it is missing or null. -/
def nullish : Option Json → Option Json
  | some .null => none
  | value => value

def resolveExperimentId (signal : SignalEventRecord) : Option String :=
  let payload := signal.payload
  let metadata := asRecord (payload.lookup "metadata")
  let candidate := nullish (payload.lookup "experiment_id") <|> nullish (payload.lookup "experimentId") <|>
    nullish (metadata.lookup "experiment_id") <|> nullish (metadata.lookup "experimentId")
  candidate.bind Zod.uuid

/-- The kind a payload states. -/
def statedKind (payload : Payload) : Option String :=
  let metadata := asRecord (payload.lookup "metadata")
  nonEmptyString (payload.lookup "kind") <|> nonEmptyString (payload.lookup "event_kind") <|>
    nonEmptyString (metadata.lookup "kind")

def resolveSignalKind (signal : SignalEventRecord) : String :=
  (statedKind signal.payload).getD ("signal." ++ signal.signalType.text)

def asDateString (date : Instant) : String := String.ofList (date.toISOString.toList.take 10)

section
variable (sha256 : String → String)

/-- `stableRequestId` -/
def stableRequestId (namespace_ : String) : String := deterministicUuid sha256 namespace_

def createIntelBriefRequestFromSignal (signal : SignalEventRecord) (routed : RoutedSignal) :
    EnqueueOutboxEvent :=
  let requestId := stableRequestId sha256 (join signal.tenantId (join "intel-brief" (decimal signal.id)))
  let experiment := match resolveExperimentId signal with
    | some experimentId => [("experiment_id", Json.str experimentId)]
    | none => []
  { tenantId := signal.tenantId
    eventType := "intel_brief.requested.v1"
    idempotencyKey := join "intel-brief-request" (decimal signal.id)
    payload := [("schema_version", .str "intel_brief_requested.v1"), ("request_id", .str requestId),
        ("tenant_id", .str signal.tenantId)] ++ experiment ++
      [("period_from", .str (asDateString signal.createdAt)),
        ("period_to", .str (asDateString signal.createdAt)), ("requested_by", .str "signal_router"),
        ("trigger", .obj [("signal_id", .str (decimal signal.id)),
          ("signal_type", .str signal.signalType.text), ("source", .str signal.source),
          ("kind", .str (resolveSignalKind signal)), ("priority", .str routed.priority.text),
          ("payload", .obj signal.payload), ("occurred_at", .str signal.createdAt.toISOString)])] }

def createAgentWorkRequestFromSignal (now : Instant) (signal : SignalEventRecord)
    (routed : RoutedSignal) : EnqueueOutboxEvent where
  tenantId := signal.tenantId
  eventType := "agent.work.requested.v1"
  idempotencyKey := join "agent-work" (join routed.targetAgent (decimal signal.id))
  payload := [("schema_version", .str "agent_work_requested.v1"),
    ("request_id", .str (stableRequestId sha256
      (join signal.tenantId (join routed.targetAgent (decimal signal.id))))),
    ("tenant_id", .str signal.tenantId), ("target_agent", .str routed.targetAgent),
    ("signal_id", .str (decimal signal.id)), ("source", .str signal.source),
    ("kind", .str (resolveSignalKind signal)), ("priority", .str routed.priority.text),
    ("half_life_minutes", .num (.finite routed.halfLifeMinutes)), ("payload", .obj signal.payload),
    ("requested_at", .str now.toISOString)]

end

/-- What the worker hands to the router. -/
def incomingSignal (signal : SignalEventRecord) : IncomingSignal where
  tenantId := signal.tenantId
  signalId := decimal signal.id
  dedupeKey := join "signal" (decimal signal.id)
  source := signal.source
  kind := resolveSignalKind signal
  payload := signal.payload

def motionLabels : List (String × String) :=
  ["inbound_content", "community_engagement", "outbound_multichannel", "lifecycle_expansion",
    "partners", "paid", "plg", "abm"].map fun label => (label, label)

structure MotionContext where
  primary_motions : List String
  icp_summary : Option String

structure BriefTrigger where
  signal_id : String
  signal_type : String
  source : String
  kind : String
  priority : SignalPriority
  payload : Payload
  occurred_at : String

structure IntelBriefRequestedV1 where
  request_id : String
  tenant_id : String
  experiment_id : Option String
  period_from : String
  period_to : String
  requested_by : String
  motion_context : Option MotionContext
  trigger : Option BriefTrigger

open Zod

def readMotionContext : Schema MotionContext
  | .obj p => do
    let primary_motions ← defaulted p "primary_motions" (array (oneOf motionLabels)) []
    let icp_summary ← Zod.optional p "icp_summary" text
    return { primary_motions, icp_summary }
  | _ => none

def priorities : List (String × SignalPriority) :=
  [("P0", .P0), ("P1", .P1), ("P2", .P2), ("P3", .P3)]

def readTrigger : Schema BriefTrigger
  | .obj p => do
    let signal_id ← required p "signal_id" filled
    let signal_type ← required p "signal_type" (sized 1 100)
    let source ← required p "source" (sized 1 255)
    let kind ← required p "kind" (sized 1 255)
    let priority ← required p "priority" (oneOf priorities)
    let payload ← required p "payload" record
    let occurred_at ← required p "occurred_at" (matching isDatetime)
    return { signal_id, signal_type, source, kind, priority, payload, occurred_at }
  | _ => none

/-- `intelBriefRequestedV1Schema` -/
def intelBriefRequestedV1Schema (p : Payload) : Option IntelBriefRequestedV1 := do
  let _ ← required p "schema_version" (literal "intel_brief_requested.v1")
  let request_id ← required p "request_id" uuid
  let tenant_id ← required p "tenant_id" uuid
  let experiment_id ← Zod.optional p "experiment_id" uuid
  let period_from ← required p "period_from" (matching isDayText)
  let period_to ← required p "period_to" (matching isDayText)
  let requested_by ← defaulted p "requested_by" filled "system"
  let motion_context ← Zod.optional p "motion_context" readMotionContext
  let trigger ← Zod.optional p "trigger" readTrigger
  return { request_id, tenant_id, experiment_id, period_from, period_to, requested_by,
           motion_context, trigger }

end VantGrowth.Signals
