import VantGrowth.Core.DurableConsumer
import VantGrowth.Publisher.OutboxPublisher

namespace VantGrowth.Publisher
open Core Db Lib Lib.Text

/-- `subject.split(".")` -/
def subjectParts (subject : String) : List String :=
  (subject.toList.splitOn '.').map String.ofList

/-- The tenant a subject names, which the message of the error is about. -/
def subjectTenant (subject message : String) : Except DbError String :=
  match subjectParts subject with
  | scope :: tenantId :: _ =>
    if scope ≠ "t" ∨ tenantId = "" then .error (.error (message ++ subject)) else .ok tenantId
  | _ => .error (.error (message ++ subject))

/-- `tenantIdFromSubject` -/
def tenantIdFromSubject (subject : String) : Except DbError String :=
  subjectTenant subject "Invalid tenant-scoped event subject: "

def tenantIdFromTenantScopedSubject (subject : String) : Except DbError String := do
  let tenantId ← subjectTenant subject "Invalid tenant-scoped workflow subject: "
  if isUuid tenantId = true then return tenantId else .error .zod

/-- A text stored under a key of a decoded body. -/
def bodyText (payload : Json) (field : String) : Option String :=
  match payload with
  | .obj fields => Payload.text fields field
  | _ => none

/-- What both workers store of a message they gave up on. -/
def deadLetterPayload (worker : String) (payload : Json) (context : DurableMessageContext)
    (error : String) (now : Instant) : Payload :=
  [("worker", .str worker), ("source_subject", .str context.subject),
    ("stream_sequence", count context.streamSequence),
    ("redelivery_count", count context.redeliveryCount), ("error", .str error),
    ("failed_payload", match payload with
      | .null => .obj []
      | body => body),
    ("occurred_at", .str now.toISOString)]

/-- The consumers that dead-letter what they cannot handle. -/
inductive DeadLetterWriter where
  | learning_signal | learning_critique | learning_proposal_approved | workflow_callback

namespace DeadLetterWriter

def worker : DeadLetterWriter → String
  | learning_signal => "learning_signal"
  | learning_critique => "learning_critique"
  | learning_proposal_approved => "learning_proposal_approved"
  | workflow_callback => "workflow_callback"

/-- The tenant of the dead letter: the learning worker believes the body. -/
def tenantId (writer : DeadLetterWriter) (payload : Json) (context : DurableMessageContext) :
    Except DbError String :=
  match writer with
  | workflow_callback => tenantIdFromTenantScopedSubject context.subject
  | _ =>
    match (bodyText payload "tenantId").or (bodyText payload "tenant_id") with
    | some tenantId => .ok tenantId
    | none => tenantIdFromSubject context.subject

def keyPrefix : DeadLetterWriter → String
  | workflow_callback => "workflow-callback"
  | writer => writer.worker

/-- `enqueueDeadLetter` of the learning worker and
`enqueueWorkflowCallbackDeadLetter`. -/
def enqueueDeadLetter (writer : DeadLetterWriter) (now : Instant) (payload : Json)
    (context : DurableMessageContext) (error : String) :
    Store DbError InMemoryOutboxRepository StoredOutboxEvent :=
  match writer.tenantId payload context with
  | .error e => Store.throw e
  | .ok tenantId =>
    InMemoryOutboxRepository.enqueue now
      { tenantId, eventType := workerDeadLetterEventType,
        idempotencyKey := join writer.keyPrefix (decimal context.streamSequence),
        payload := deadLetterPayload writer.worker payload context error now }

end DeadLetterWriter

end VantGrowth.Publisher
