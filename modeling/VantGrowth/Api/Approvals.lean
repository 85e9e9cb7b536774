import VantGrowth.Db.ApprovalFeedback

namespace VantGrowth.Api
open Db Lib

def issueIdKeys : List String :=
  ["issueId", "issue_id", "draft_id", "draftId", "brief_id", "briefId", "content_id", "contentId"]

/-- The first of the keys that holds a text. -/
def extractIssueId (payload : Payload) : Option String :=
  issueIdKeys.findSome? fun key => (payload.text key).filter (· != "")

structure ApprovalRouteDependencies where
  outboxRepository : Option InMemoryOutboxRepository
  approvalFeedbackRepository : Option InMemoryApprovalFeedbackRepository

structure ApprovalQueueItem where
  eventId : Nat
  tenantId : String
  outputType : String
  payload : Payload
  enqueuedAt : String
  status : String

/-- What a route throws. -/
inductive HttpError where
  | serviceUnavailable (message : String)
  | db (error : DbError)

/-- An answer with its status. -/
inductive Reply (α : Type) where
  | json (status : Nat) (body : α)
  | refused (status : Nat) (error : String)

structure ApprovalQueue where
  items : List ApprovalQueueItem
  total : Nat

/-- `Math.min(Math.max(1, Number.isNaN(limit) ? 20 : limit), 100)` -/
def queueLimit : JsNumber → ℚ
  | .nan => 20
  | .negInfinity => 1
  | .posInfinity => 100
  | .finite value => min (max 1 value) 100

/-- Where `slice(0, end)` stops. -/
def sliceEnd (end_ : ℚ) : Nat := end_.floor.toNat

def queueItem (e : StoredOutboxEvent) : ApprovalQueueItem :=
  { eventId := e.id, tenantId := e.tenantId, outputType := e.eventType, payload := e.payload,
    enqueuedAt := e.createdAt.toISOString, status := "pending" }

/-- `GET /v1/approvals`. The limit is what `Number` reads of the parameter. -/
def getApprovals (deps : ApprovalRouteDependencies) (tenantId outputType : Option String)
    (limitRaw : Option JsNumber) : Except HttpError (Reply ApprovalQueue) :=
  match deps.outboxRepository with
  | none => .error (.serviceUnavailable "Outbox repository is not configured. Set DATABASE_URL.")
  | some outboxRepository =>
    match tenantId.filter (· != "") with
    | none => .ok (.refused 400 "X-Tenant-Id header is required")
    | some tenantId => do
      let outputType := outputType.getD "blog_draft.v1"
      let limit := queueLimit (limitRaw.getD (.finite 20))
      let events := outboxRepository.listByEventType tenantId outputType (sliceEnd (limit * 2))
      let decisions ←
        match deps.approvalFeedbackRepository with
        | some repository => (repository.listRecent tenantId 1000 (some outputType)).mapError .db
        | none => pure []
      let matching := (events.filter fun e =>
        match extractIssueId e.payload with
        | none => true
        | some issueId => !decisions.any (·.issueId == issueId)).take (sliceEnd limit)
      let items := matching.map queueItem
      return .json 200 ⟨items, items.length⟩

end VantGrowth.Api
