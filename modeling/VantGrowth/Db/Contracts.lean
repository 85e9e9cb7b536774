import VantGrowth.Lib.JsDate
import VantGrowth.Lib.JsString
import VantGrowth.Lib.Text

namespace VantGrowth.Db
open Lib Lib.Text

/-- The two implementations every repository has. -/
inductive Backend where
  | inMemory | postgres
deriving DecidableEq

/-- A JSON value as payload columns hold it. -/
inductive Json where
  | null
  | bool (b : Bool)
  | num (n : JsNumber)
  | str (s : String)
  | arr (items : List Json)
  | obj (fields : List (String × Json))

/-- `Record<string, unknown>` -/
abbrev Payload := List (String × Json)

/-- The text stored under a field, when the field holds a text. -/
def Payload.text (p : Payload) (field : String) : Option String :=
  match p.lookup field with
  | some (.str s) => some s
  | _ => none

def Json.ofText : Option String → Json
  | some s => .str s
  | none => .null

def isHexDigit (c : Char) : Bool :=
  c.isDigit || ('a' ≤ c && c ≤ 'f') || ('A' ≤ c && c ≤ 'F')

/-- The check of `z.string().uuid()`: 8-4-4-4-12 hexadecimal digits. -/
def isUuid (s : String) : Bool :=
  s.toList.length == 36 && s.toList.zipIdx.all fun (c, i) =>
    if [8, 13, 18, 23].contains i then c == '-' else isHexDigit c

theorem uuid_char {s : String} (h : isUuid s = true) {c : Char} (hc : c ∈ s.toList) :
    c = '-' ∨ isHexDigit c = true := by
  simp only [isUuid, Bool.and_eq_true, List.all_eq_true] at h
  obtain ⟨i, hi⟩ := List.mem_iff_getElem?.mp hc
  have hp := h.2 (c, i) (List.mk_mem_zipIdx_iff_getElem?.mpr hi)
  dsimp only at hp
  split at hp
  · exact Or.inl (by simpa using hp)
  · exact Or.inr hp

/-- A uuid never holds the separator of composed keys. -/
theorem uuid_no_colon {s : String} (h : isUuid s = true) : ':' ∉ s.toList := by
  intro hc
  rcases uuid_char h hc with hc | hc
  · exact absurd hc (by decide)
  · exact absurd hc (by decide)

/-- What a `uuid` column holds of a uuid: Postgres reads it in any letter case
and keeps it in lower case. -/
def uuidColumn (s : String) : String := String.ofList (s.toList.map Char.toLower)

/-- The pattern `^[a-z][a-z0-9._-]+\.v[0-9]+$` of outbox event types, read
from the right: the version digits, `.v`, and at least two name characters. -/
def isOutboxEventType (s : String) : Bool :=
  let back := s.toList.reverse
  match back.takeWhile Char.isDigit, back.dropWhile Char.isDigit with
  | _ :: _, 'v' :: '.' :: name =>
    2 ≤ name.length && name.getLast?.any Char.isLower &&
      name.all fun c => c.isLower || c.isDigit || c == '.' || c == '_' || c == '-'
  | _, _ => false

structure EnqueueOutboxEvent where
  tenantId : String
  eventType : String
  idempotencyKey : String
  payload : Payload

/-- `enqueueOutboxEventSchema` -/
def EnqueueOutboxEvent.valid (command : EnqueueOutboxEvent) : Bool :=
  isUuid command.tenantId && isOutboxEventType command.eventType && command.idempotencyKey != ""

/-- A stored row. Its id is the decimal text of a counter and is kept as that
counter, which is how listings compare ids. -/
structure StoredOutboxEvent extends EnqueueOutboxEvent where
  id : Nat
  createdAt : Instant
  consumedAt : Option Instant

example : isUuid "00000000-0000-4000-8000-000000000001" = true := by decide

example : isOutboxEventType "external_action.completed.v1" = true := by decide

end VantGrowth.Db
