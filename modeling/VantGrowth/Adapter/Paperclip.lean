import VantGrowth.Db.Zod
import VantGrowth.Lib.JsText
import VantGrowth.Lib.Prog

namespace VantGrowth.Adapter
open Db Db.Zod Lib Lib.Text

structure PaperclipClientConfig where
  baseUrl : String
  serviceToken : String
  timeoutMs : Nat

inductive Method where
  | GET | POST | PATCH

/-- A request, its path to be read against the base. -/
structure HttpRequest where
  method : Method
  baseUrl : String
  path : String
  headers : List (String × String)
  body : Option Json
  timeoutMs : Nat

/-- What comes back of a request. The fetch fails at a fault of the network and
at the timeout; a body that cannot be read as JSON has no value. -/
inductive Delivery where
  | failed
  | response (status : Nat) (contentType : Option String) (body : Option Json)

/-- Whether the server applied what it was asked for, which only it knows, and
what came back. -/
structure Exchange where
  applied : Bool
  delivery : Delivery

/-- What a call of the client throws. -/
inductive PaperclipError where
  | zod
  | transport
  | failed (status : Nat) (payload : Json)

structure PaperclipIssue where
  id : String
  identifier : String
  title : String
  status : String

/-- A row of a listing, a field that is missing and one that is null alike. -/
structure PaperclipIssueListItem where
  id : String
  identifier : Option String
  title : Option String
  status : String
  assigneeAgentId : Option String
  companyId : Option String

structure PaperclipCheckoutInput where
  issueId : String
  agentId : String
  expectedStatuses : Option (List String)
  runId : Option String

def paperclipIssueSchema : Schema PaperclipIssue
  | .obj p => do
    let id ← required p "id" filled
    let identifier ← required p "identifier" filled
    let title ← required p "title" filled
    let status ← required p "status" filled
    return { id, identifier, title, status }
  | _ => none

def paperclipIssueListItemSchema : Schema PaperclipIssueListItem
  | .obj p => do
    let id ← required p "id" filled
    let identifier ← defaulted p "identifier" (nullable text) none
    let title ← defaulted p "title" (nullable text) none
    let status ← required p "status" filled
    let assigneeAgentId ← defaulted p "assigneeAgentId" (nullable text) none
    let companyId ← optional p "companyId" text
    return { id, identifier, title, status, assigneeAgentId, companyId }
  | _ => none

def paperclipIssueListSchema : Schema (List PaperclipIssueListItem) := array paperclipIssueListItemSchema

/-- The statuses of `paperclipCheckoutInputSchema`, with its default. -/
def PaperclipCheckoutInput.statuses (input : PaperclipCheckoutInput) : List String :=
  input.expectedStatuses.getD ["todo", "backlog", "blocked", "in_review"]

/-- `paperclipCheckoutInputSchema` -/
def PaperclipCheckoutInput.valid (input : PaperclipCheckoutInput) : Bool :=
  input.issueId != "" && input.agentId != "" && input.statuses.all (· != "")

/-- `schema.parse(value)` -/
def parse (schema : Schema α) (value : Json) : Except PaperclipError α :=
  (schema value).elim (.error .zod) .ok

def asJson (contentType : Option String) (body : Option Json) : Except PaperclipError Json :=
  if includes (contentType.getD "") "application/json" = true then body.elim (.error .transport) .ok
  else .ok (.obj [])

/-- What `request` makes of an answer. -/
def Delivery.payload : Delivery → Except PaperclipError Json
  | .failed => .error .transport
  | .response status contentType body => do
    let payload ← asJson contentType body
    if 200 ≤ status ∧ status ≤ 299 then return payload
    else .error (.failed status payload)

/-- The rows of a listing, a bare array or an envelope. -/
def rows : Json → Json
  | .arr items => .arr items
  | .obj p =>
    match p.lookup "items" with
    | none | some .null => .arr []
    | some items => items
  | _ => .arr []

def runHeaders : Option String → List (String × String)
  | none => []
  | some runId => if runId = "" then [] else [("X-Paperclip-Run-Id", runId)]

section
variable {Op : Type} {Res : Op → Type} {ε : Type}

abbrev Client (Res : Op → Type) (ε : Type) := ExceptT PaperclipError (Prog Res ε)

/-- A pure step of a call. -/
def given (x : Except PaperclipError α) : Client Res ε α := ExceptT.mk (pure x)

variable (config : PaperclipClientConfig) (fetchImpl : HttpRequest → Prog Res ε Exchange)

/-- What `request` sends. -/
def httpRequest (method : Method) (path : String) (body : Option Json)
    (headers : List (String × String)) : HttpRequest :=
  { method, baseUrl := config.baseUrl, path, body, timeoutMs := config.timeoutMs,
    headers := [("Authorization", "Bearer " ++ config.serviceToken),
      ("Content-Type", "application/json")] ++ headers }

def request (method : Method) (path : String) (body : Option Json)
    (headers : List (String × String)) : Client Res ε Json := do
  let exchange ← ExceptT.lift (fetchImpl (httpRequest config method path body headers))
  given exchange.delivery.payload

def listCompanyIssues (companyId : String) (limit : Option Nat) :
    Client Res ε (List PaperclipIssueListItem) := do
  let id ← given (parse filled (.str companyId))
  let result ← request config fetchImpl .GET
    ("/api/companies/" ++ id ++ "/issues?limit=" ++ decimal (limit.getD 100)) none []
  given (parse paperclipIssueListSchema (rows result))

def checkoutIssue (input : PaperclipCheckoutInput) : Client Res ε PaperclipIssue := do
  given (if input.valid = true then .ok () else .error .zod)
  let result ← request config fetchImpl .POST ("/api/issues/" ++ input.issueId ++ "/checkout")
    (some (.obj [("agentId", .str input.agentId),
      ("expectedStatuses", .arr (input.statuses.map Json.str))]))
    (runHeaders input.runId)
  given (parse paperclipIssueSchema result)

def requeueIssue (issueId : String) : Client Res ε PaperclipIssue := do
  let parsedIssueId ← given (parse filled (.str issueId))
  let result ← request config fetchImpl .PATCH ("/api/issues/" ++ parsedIssueId)
    (some (.obj [("status", .str "todo")])) []
  given (parse paperclipIssueSchema result)

end

end VantGrowth.Adapter
