import VantGrowth.Db.Zod
import VantGrowth.Learning.Worker
import VantGrowth.Lib.Faults
import VantGrowth.Lib.IsoDate
import VantGrowth.Publisher.DeadLetters

namespace VantGrowth.Learning
open Core Db Lib Lib.Text Publisher

inductive ApprovalFeedbackAction where
  | approved | edited_then_approved | rejected | auto_approved
deriving DecidableEq

def ApprovalFeedbackAction.text : ApprovalFeedbackAction → String
  | approved => "approved"
  | edited_then_approved => "edited_then_approved"
  | rejected => "rejected"
  | auto_approved => "auto_approved"

/-- A founder's decision on an output, an edit distance of null read as none. -/
structure LearningSignal where
  tenantId : String
  learningId : String
  dedupeKey : String
  source : String
  issueId : String
  outputType : String
  action : ApprovalFeedbackAction
  editDistance : Option ℚ
  rubricFailures : List String
  reviewerNote : Option String
  learnOptIn : Bool

section
open Zod

def approvalFeedbackActions : List (String × ApprovalFeedbackAction) :=
  [.approved, .edited_then_approved, .rejected, .auto_approved].map fun action =>
    (action.text, action)

def readLearningSignal (p : Payload) : Option LearningSignal := do
  let tenantId ← required p "tenantId" uuid
  let learningId ← required p "learningId" filled
  let dedupeKey ← required p "dedupeKey" filled
  let source ← required p "source" filled
  let issueId ← required p "issueId" uuid
  let outputType ← required p "outputType" filled
  let action ← required p "action" (oneOf approvalFeedbackActions)
  let editDistance ← Zod.optional p "editDistance" (nullable (numberIn 0 1))
  let rubricFailures ← defaulted p "rubricFailures" (array filled) []
  let reviewerNote ← Zod.optional p "reviewerNote" text
  let learnOptIn ← defaulted p "learnOptIn" Zod.bool true
  return { tenantId, learningId, dedupeKey, source, issueId, outputType, action,
           editDistance := editDistance.join, rubricFailures, reviewerNote, learnOptIn }

def learningSignalSchema (payload : Json) : Option LearningSignal :=
  (record payload).bind readLearningSignal

def critiqueVerdicts : List (String × CritiqueVerdict) :=
  [.approve, .revise, .reject].map fun verdict => (verdict.text, verdict)

def changeRisks : List (String × ChangeRisk) :=
  [.low, .medium, .high, .critical].map fun risk => (riskText risk, risk)

/-- `timeOf` gives the time a text of that pattern names. -/
def readCritiqueCompleted (timeOf : String → Instant) (p : Payload) :
    Option CritiqueCompletedPayload := do
  let critique_id ← required p "critique_id" filled
  let source ← required p "source" filled
  let artifact_kind ← required p "artifact_kind" filled
  let artifact_id ← required p "artifact_id" filled
  let experiment_id ← Zod.optional p "experiment_id" uuid
  let change_risk ← Zod.optional p "change_risk" (oneOf changeRisks)
  let prompt_version ← required p "prompt_version" filled
  let verdict ← required p "verdict" (oneOf critiqueVerdicts)
  let confidence_score ← required p "confidence_score" (numberIn 0 1)
  let reasons ← required p "reasons" (array filled)
  let critiqued_at ← required p "critiqued_at" (matching isDatetime)
  return { critique_id, source, artifact_kind, artifact_id, experiment_id, change_risk,
           prompt_version, verdict, confidence_score, reasons, critiqued_at := timeOf critiqued_at }

def critiqueCompletedPayloadSchema (timeOf : String → Instant) (payload : Json) :
    Option CritiqueCompletedPayload :=
  (record payload).bind (readCritiqueCompleted timeOf)

def approvedLearningProposalPayloadSchema (payload : Json) : Option String :=
  (record payload).bind fun p => required p "proposal_id" uuid

end

inductive LearningPriority where
  | high | medium | low
deriving DecidableEq

def LearningPriority.text : LearningPriority → String
  | high => "high"
  | medium => "medium"
  | low => "low"

/-- What is made of a signal. -/
structure LearningSynthesis where
  candidate : Bool
  priority : LearningPriority
  confidenceScore : ℚ
  reasons : List String

def synthesizeLearningCandidate (input : LearningSignal) : LearningSynthesis :=
  if input.learnOptIn = false then
    ⟨false, .low, 15 / 100, ["Founder disabled learning capture for this approval decision."]⟩
  else if input.action = .rejected ∨ 0 < input.rubricFailures.length then
    ⟨true, .high, 82 / 100,
      ["Rejection/rubric failures provide direct corrective signal for playbook updates."]⟩
  else if input.action = .edited_then_approved ∧ 15 / 100 ≤ input.editDistance.getD 0 then
    ⟨true, .medium, 69 / 100,
      ["Significant founder edits indicate an improvable generation pattern."]⟩
  else if input.action = .approved ∧ input.editDistance.getD 0 < 1 / 10 then
    ⟨true, .low, 56 / 100,
      ["Low-edit approval confirms existing playbook behavior for this output type."]⟩
  else ⟨false, .low, 24 / 100, ["Signal quality is below learning candidate thresholds."]⟩

def candidateCommand (signal : LearningSignal) (synthesizedAt : Instant) : EnqueueOutboxEvent :=
  let candidate := synthesizeLearningCandidate signal
  { tenantId := signal.tenantId
    eventType := "learning.candidate.synthesized.v1"
    idempotencyKey := signal.dedupeKey
    payload := [("learning_id", .str signal.learningId), ("source", .str signal.source),
      ("issue_id", .str signal.issueId), ("output_type", .str signal.outputType),
      ("action", .str signal.action.text),
      ("disposition", .str (if candidate.candidate then "candidate" else "discarded")),
      ("priority", .str candidate.priority.text),
      ("confidence_score", .num (.finite candidate.confidenceScore)),
      ("reasons", .arr (candidate.reasons.map Json.str)),
      ("rubric_failures", .arr (signal.rubricFailures.map Json.str)),
      ("edit_distance", match signal.editDistance with
        | none => .null
        | some distance => .num (.finite distance)),
      ("learn_opt_in", .bool signal.learnOptIn),
      ("synthesized_at", .str synthesizedAt.toISOString)] }

/-- `LearningWorker.process` -/
def process (payload : Json) : Worker Unit := do
  let signal ← parse (learningSignalSchema payload)
  let synthesizedAt : Instant ← await .now
  let _ ← await (.enqueue (candidateCommand signal synthesizedAt))

inductive Consumer where
  | learning_signal | learning_critique | learning_proposal_approved
deriving DecidableEq

def Consumer.writer : Consumer → DeadLetterWriter
  | learning_signal => .learning_signal
  | learning_critique => .learning_critique
  | learning_proposal_approved => .learning_proposal_approved

/-- A message of the stream with the consumer it goes to. -/
structure Message where
  consumer : Consumer
  subject : String
  streamSequence : Nat
  payload : Json

structure Delivery where
  message : Message
  redeliveryCount : Nat

def Delivery.context (delivery : Delivery) : DurableMessageContext :=
  ⟨delivery.message.subject, delivery.message.streamSequence, delivery.redeliveryCount⟩

/-- How the three consumers are wired. `errorText` is the message of what was
thrown, whatever a schema or the database says. -/
structure LearningRuntime where
  learning : Deployment
  config : Consumer → DurableJetStreamConsumerConfig
  errorText : DbError → String

section
variable (timeOf : String → Instant) (r : LearningRuntime)

/-- The handler of each consumer. -/
def handle (message : Message) : Worker Unit :=
  match message.consumer with
  | .learning_signal => process message.payload
  | .learning_critique => do
    let tenantId ← Prog.given (tenantIdFromSubject message.subject)
    let critique ← parse (critiqueCompletedPayloadSchema timeOf message.payload)
    let _ ← processFromCritique r.learning tenantId critique
  | .learning_proposal_approved => do
    let proposalId ← parse (approvedLearningProposalPayloadSchema message.payload)
    let tenantId ← Prog.given (tenantIdFromSubject message.subject)
    let _ ← processApprovedProposal r.learning tenantId proposalId

def deadLetterCommand (writer : DeadLetterWriter) (tenantId : String) (now : Instant)
    (payload : Json) (context : DurableMessageContext) (error : String) : EnqueueOutboxEvent where
  tenantId := tenantId
  eventType := workerDeadLetterEventType
  idempotencyKey := join writer.keyPrefix (decimal context.streamSequence)
  payload := deadLetterPayload writer.worker payload context error now

/-- `enqueueDeadLetter`, with its awaits. -/
def enqueueDeadLetter (writer : DeadLetterWriter) (payload : Json) (context : DurableMessageContext)
    (error : String) : Worker Unit := do
  let tenantId ← Prog.given (writer.tenantId payload context)
  let now : Instant ← await .now
  let _ ← await (.enqueue (deadLetterCommand writer tenantId now payload context error))

/-- What a call inside a `try` answers. -/
abbrev Answer (op : Op) : Type := Except DbError (Res op)

def outcomeOf (x : Except DbError Unit) : Outcome := x.mapError r.errorText

/-- A delivery through the consumer loop, up to what the server is told. -/
def deliver (delivery : Delivery) : Prog Answer DbError (Option Reply) := do
  let message := delivery.message
  let handled ← Prog.caught (handle timeOf r message)
  match resume (r.config message.consumer) delivery.context .handler (outcomeOf r handled) with
  | (.awaiting context (.onExhausted error), _) =>
    let written ← Prog.caught
      (enqueueDeadLetter message.consumer.writer message.payload context error)
    return (resume (r.config message.consumer) context (.onExhausted error)
      (outcomeOf r written)).2
  | (_, reply) => return reply

/-- The clock is at hand; every other call goes over a connection that may lose
it. -/
def Op.remote : Op → Bool
  | .now | .tick _ => false
  | _ => true

/-- A call of the world, which a fault in store may hit. -/
def reach (op : Op) : Store DbError (Faulty World) (Answer op) :=
  Store.attempt <|
    if op.remote then (exec r.learning op).faulty fun f => DbError.error f.message
    else (exec r.learning op).sound

/-- Deliveries of messages and whatever else happens to the world, interleaved
at every await. -/
def consumers : Machine Answer DbError (Faulty World) Delivery (Option Reply) where
  exec := reach r
  program _ delivery := some (deliver timeOf r delivery)
  acknowledge _ := none
  outside _ := true

end

end VantGrowth.Learning
