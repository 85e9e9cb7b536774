import VantGrowth.Db.Zod

namespace VantGrowth.N8n
open Db Db.Zod Lib

/-- The checks of the schema library that look into a text's format. -/
structure Formats where
  isUrl : String → Bool
  isEmail : String → Bool

/-- What a schema makes of a value; a reader of values into values. -/
abbrev Reader := Schema Json

def check (accepts : Json → Bool) : Reader := fun j => if accepts j then some j else none

/-- `z.string().min(low).max(high)` -/
def text (low high : Nat) : Reader :=
  check fun j => match j with
    | .str s => low ≤ jsLength s && jsLength s ≤ high
    | _ => false

def textWhere (holds : String → Bool) : Reader :=
  check fun j => match j with
    | .str s => holds s
    | _ => false

def boolean : Reader :=
  check fun j => match j with
    | .bool _ => true
    | _ => false

def literal (value : String) : Reader := textWhere (· == value)

def anyRecord : Reader :=
  check fun j => match j with
    | .obj _ => true
    | _ => false

/-- `z.array(item).min(low)` -/
def arrayOf (item : Reader) (low : Nat) : Reader
  | .arr items => if low ≤ items.length then (items.mapM item).map .arr else none
  | _ => none

/-- How a schema reads one key of an object. -/
structure Field where
  name : String
  reader : Reader
  /-- What stands for a missing key: a refusal, nothing, or a default. -/
  missing : Option (Option Json)

def need (name : String) (reader : Reader) : Field := ⟨name, reader, none⟩

def may (name : String) (reader : Reader) : Field := ⟨name, reader, some none⟩

def default_ (name : String) (reader : Reader) (value : Json) : Field :=
  ⟨name, reader, some (some value)⟩

/-- `z.object(fields)`, which drops the keys it does not name. -/
def readFields : List Field → Payload → Option Payload
  | [], _ => some []
  | f :: fields, p => do
    let value ← match p.lookup f.name with
      | some j => (f.reader j).map some
      | none => f.missing
    let rest ← readFields fields p
    return value.toList.map (f.name, ·) ++ rest

def object (fields : List Field) : Reader
  | .obj p => (readFields fields p).map .obj
  | _ => none

def n8nTraceContextSchema : Reader :=
  object (["runId", "issueId", "workflowId", "executionId"].map (may · (text 1 255)))

/-- `dispatchBasePayloadSchema.extend` with the channel of the action. -/
def dispatchPayload (channel : String) (fields : List Field) : List Field :=
  [need "channel" (literal channel), default_ "dryRun" boolean (.bool false),
    may "trace" n8nTraceContextSchema, default_ "metadata" anyRecord (.obj [])] ++ fields

section
variable (formats : Formats)

def url : Reader := textWhere formats.isUrl

/-- The payload schemas of `n8nDispatchActionSchema`, by action type. -/
def dispatchActions : List (String × List Field) :=
  [("reddit.post.submit", dispatchPayload "reddit"
      [need "subreddit" (text 1 100), need "title" (text 1 300), may "text" (text 0 10000),
        may "url" (url formats)]),
    ("reddit.comment.submit", dispatchPayload "reddit"
      [may "subreddit" (text 1 100), need "parentId" (text 1 255), need "text" (text 1 10000),
        may "sourceUrl" (url formats)]),
    ("linkedin.post.create", dispatchPayload "linkedin"
      [need "postAs" (textWhere fun s => s == "person" || s == "organization"),
        need "ownerId" (text 1 255), need "text" (text 1 3000),
        default_ "mediaUrls" (arrayOf (url formats) 0) (.arr [])]),
    ("linkedin.dm.send", dispatchPayload "linkedin"
      [need "recipientId" (text 1 255), need "text" (text 1 3000)]),
    ("email.send", dispatchPayload "email"
      [need "to" (arrayOf (textWhere formats.isEmail) 1), need "subject" (text 1 300),
        need "text" (text 1 20000), may "html" (text 0 50000)]),
    ("crm.note.create", dispatchPayload "crm"
      [need "recordId" (text 1 255), need "note" (text 1 20000)]),
    ("cms.post.publish", dispatchPayload "cms"
      [need "title" (text 1 300), need "bodyMarkdown" (textWhere (· != "")),
        may "slug" (text 1 255)]),
    ("analytics.event.record", dispatchPayload "analytics"
      [need "eventName" (text 1 255), default_ "properties" anyRecord (.obj [])]),
    ("custom.execute", dispatchPayload "custom"
      [need "operation" (text 1 255), default_ "input" anyRecord (.obj [])])]

structure N8nDispatchRequest where
  tenantId : String
  actionId : String
  actionType : String
  approvedBy : String
  idempotencyKey : String
  payload : Payload
  callback : Option String := none

/-- `z.string().min(1).max(high)`, as a text. -/
def name (high : Nat) : Schema String
  | .str s => if 1 ≤ jsLength s ∧ jsLength s ≤ high then some s else none
  | _ => none

/-- `n8nDispatchCallbackSchema` -/
def n8nDispatchCallbackSchema : Schema String
  | .obj p => required p "url" fun j => match j with
      | .str s => if formats.isUrl s then some s else none
      | _ => none
  | _ => none

/-- `n8nTypedDispatchRequestSchema.parse`: the payload is read by the schema of
the action type. -/
def n8nTypedDispatchRequestSchema (p : Payload) : Option N8nDispatchRequest := do
  let tenantId ← required p "tenantId" uuid
  let actionId ← required p "actionId" (name 255)
  let actionType ← required p "actionType" (name 100)
  let approvedBy ← required p "approvedBy" (name 255)
  let idempotencyKey ← required p "idempotencyKey" (name 255)
  let given ← defaulted p "payload" record []
  let callback ← optional p "callback" (n8nDispatchCallbackSchema formats)
  let fields ← (dispatchActions formats).lookup actionType
  let payload ← readFields fields given
  return { tenantId, actionId, actionType, approvedBy, idempotencyKey, payload, callback }

end

/-- What n8n answers to a dispatch. -/
inductive N8nDispatchResult where
  | success (status : JsNumber) (body : Json)
  | failure (status : Option Nat) (error : JsString) (retryable : Bool)

def nonEmptyString : Option Json → Option String
  | some (.str s) => if s = "" then none else some s
  | _ => none

def fieldsOf : Option Json → Payload
  | some (.obj p) => p
  | _ => []

/-- `extractN8nDispatchReceiptMetadata`: the first key that holds a text, at the
root or under `data`. -/
def receiptField (body : Json) (keys : List String) : Option String :=
  let root := fieldsOf (some body)
  let nested := fieldsOf (root.lookup "data")
  keys.findSome? fun key =>
    (nonEmptyString (root.lookup key)).or (nonEmptyString (nested.lookup key))

end VantGrowth.N8n
