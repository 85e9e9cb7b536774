import VantGrowth.Db.ExternalActionsRepository
import VantGrowth.Db.JsonCopies
import VantGrowth.N8n.ChannelContracts

namespace VantGrowth.Proofs.DispatchBoundaries
open Db Db.Zod Db.InMemoryExternalActionsRepository Lib N8n

section
variable {fields : List Field} {p q out : Payload}

end

section
variable (formats : Formats)

/-- An object as a parsed request is one. -/
def written (request : N8nDispatchRequest) : Payload :=
  [("tenantId", .str request.tenantId), ("actionId", .str request.actionId),
    ("actionType", .str request.actionType), ("approvedBy", .str request.approvedBy),
    ("idempotencyKey", .str request.idempotencyKey), ("payload", .obj request.payload)] ++
    request.callback.toList.map fun url => ("callback", .obj [("url", .str url)])

/-- The request after its values went through JSON. -/
def copied (request : N8nDispatchRequest) : N8nDispatchRequest :=
  { request with payload := copiedFields request.payload }

/-- What the dispatch route hands to the repository. -/
def enqueued (request : N8nDispatchRequest) : ExternalActionRequest :=
  { tenantId := request.tenantId, actionId := request.actionId, actionType := request.actionType,
    approvedBy := request.approvedBy, idempotencyKey := request.idempotencyKey,
    requestPayload := request.payload }

theorem copied_again (request : N8nDispatchRequest) : copied (copied request) = copied request := by
  simp [copied, copiedFields_again]

/-- What a request must meet to be read as it is. -/
structure Readable (request : N8nDispatchRequest) : Prop where
  tenantId : isUuid request.tenantId = true
  actionId : 1 ≤ jsLength request.actionId ∧ jsLength request.actionId ≤ 255
  actionType : 1 ≤ jsLength request.actionType ∧ jsLength request.actionType ≤ 100
  approvedBy : 1 ≤ jsLength request.approvedBy ∧ jsLength request.approvedBy ≤ 255
  idempotencyKey : 1 ≤ jsLength request.idempotencyKey ∧ jsLength request.idempotencyKey ≤ 255

/-- A request whose payload its action leaves as it is reads as itself. -/
theorem written_read {request : N8nDispatchRequest} (readable : Readable request)
    {fields : List Field} (known : (dispatchActions formats).lookup request.actionType = some fields)
    (read : readFields fields request.payload = some request.payload)
    (callback : request.callback.all formats.isUrl = true) :
    n8nTypedDispatchRequestSchema formats (written request) = some request := by
  obtain ⟨tenantId, actionId, actionType, approvedBy, idempotencyKey, payload, answer⟩ := request
  obtain ⟨tenant, action, type, approver, key⟩ := readable
  dsimp only at *
  cases answer with
  | none =>
    simp [n8nTypedDispatchRequestSchema, written, required, defaulted, Zod.optional, List.lookup_cons,
      uuid, name, record, tenant, action, type, approver, key, known, read]
  | some url =>
    have valid : formats.isUrl url = true := by simpa using callback
    simp [n8nTypedDispatchRequestSchema, written, required, defaulted, Zod.optional, List.lookup_cons,
      uuid, name, record, n8nDispatchCallbackSchema, tenant, action, type, approver, key, known, read,
      valid]

end

end VantGrowth.Proofs.DispatchBoundaries
