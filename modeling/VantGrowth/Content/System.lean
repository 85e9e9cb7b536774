import VantGrowth.Core.HandoffPayloads
import VantGrowth.Db.Outbox
import VantGrowth.Lib.JsText

namespace VantGrowth.Content
open Core Db Lib

/-- What the content workers take from the JavaScript runtime. -/
structure Runtime where
  /-- `String.prototype.toLowerCase` -/
  toLowerCase : String → String
  /-- `JSON.parse`, where it does not throw. -/
  jsonParse : String → Option Json
  /-- `String(n)`, for the numbers that are written into texts. -/
  numberText : ℚ → String
  /-- The hexadecimal SHA-256 of a text. -/
  sha256 : String → String
  /-- `new URL(text).toString()`, where it does not throw. -/
  urlText : String → Option String
  urlText_again : ∀ s t, urlText s = some t → (urlText t).isSome = true

def Runtime.isUrl (r : Runtime) (s : String) : Bool := (r.urlText s).isSome

/-- `crypto.randomUUID` by the uuids it gives in turn. -/
structure Uuids where
  text : Nat → String
  uuid : ∀ n, isUuid (text n) = true

/-- What `new Date()` may hold: a moment of a four-digit year. -/
structure Moment where
  time : Instant
  past : 0 ≤ time.year
  early : time.year ≤ 9999

def Moment.toISOString (now : Moment) : String := now.time.toISOString

theorem Moment.datetime (now : Moment) : isDatetime now.toISOString = true :=
  toISOString_datetime now.past now.early

/-- A runner by what its calls answer in turn; a call that throws answers
nothing. -/
abbrev LlmCallRunner := Nat → Option String

/-- How a content worker is wired. -/
structure Deployment where
  runtime : Runtime
  uuids : Uuids
  now : Moment
  llmCallRunner : Option LlmCallRunner := none

/-- What the workers share: the outbox, the uuids drawn so far and the calls
made to the model. -/
structure World where
  outbox : InMemoryOutboxRepository
  drawn : Nat
  calls : Nat

abbrev Work := Store DbError World

/-- `schema.parse(value)` -/
def parse (value : Option α) : Work α :=
  match value with
  | some a => pure a
  | none => Store.throw .zod

/-- `schema.parse` of a value that is built already. -/
def checked (valid : α → Bool) (value : α) : Work α :=
  if valid value then pure value else Store.throw .zod

@[simp] theorem parse_run (value : Option α) (w : World) :
    (parse value).run w = (value.elim (.error .zod) .ok, w) := by
  cases value <;> rfl

@[simp] theorem checked_run (valid : α → Bool) (value : α) (w : World) :
    (checked valid value).run w = (if valid value = true then .ok value else .error .zod, w) := by
  unfold checked
  split <;> rfl

def randomUUID (d : Deployment) : Work String := do
  let id ← Store.read fun w => d.uuids.text (w.drawn + 1)
  Store.modify fun w => { w with drawn := w.drawn + 1 }
  return id

@[simp] theorem randomUUID_run (d : Deployment) (w : World) :
    (randomUUID d).run w = (.ok (d.uuids.text (w.drawn + 1)), { w with drawn := w.drawn + 1 }) := rfl

/-- One call of the runner. -/
def callRunner (runner : LlmCallRunner) : Work (Option String) := do
  let answer ← Store.read fun w => runner w.calls
  Store.modify fun w => { w with calls := w.calls + 1 }
  return answer

@[simp] theorem callRunner_run (runner : LlmCallRunner) (w : World) :
    (callRunner runner).run w = (.ok (runner w.calls), { w with calls := w.calls + 1 }) := rfl

def enqueue (d : Deployment) (command : EnqueueOutboxEvent) : Work StoredOutboxEvent :=
  Store.zoom (·.outbox) (fun w o => { w with outbox := o })
    (InMemoryOutboxRepository.enqueue d.now.time command)

/-- A valid command leaves an event of its key, and nothing but the outbox
changes. -/
theorem enqueue_sends (d : Deployment) {w : World} (h : w.outbox.Consistent)
    {command : EnqueueOutboxEvent} (valid : command.valid = true) :
    (enqueue d command).Ends w fun x w' => (∃ e, x = .ok e) ∧
      InMemoryOutboxRepository.Sends command w.outbox w'.outbox ∧
        w' = { w with outbox := w'.outbox } :=
  Store.Ends.zoom (InMemoryOutboxRepository.enqueue_sends h d.now.time valid) fun _ _ sent =>
    ⟨sent.1, sent.2, rfl⟩

/-- The events of an outbox under a tenant's key. -/
def eventsAt (o : InMemoryOutboxRepository) (tenantId eventType idempotencyKey : String) :
    List StoredOutboxEvent :=
  o.events.filter fun e => e.tenantId == tenantId && e.eventType == eventType &&
    e.idempotencyKey == idempotencyKey

/-- A key is never held twice. -/
theorem eventsAt_single {o : InMemoryOutboxRepository} (h : o.Consistent)
    (command : EnqueueOutboxEvent) {e : StoredOutboxEvent} (stored : e ∈ o.events)
    (same : InMemoryOutboxRepository.SameKey e command) :
    eventsAt o command.tenantId command.eventType command.idempotencyKey = [e] := by
  have held : ∀ f ∈ eventsAt o command.tenantId command.eventType command.idempotencyKey, f = e := by
    intro f member
    obtain ⟨inside, key⟩ := List.mem_filter.mp member
    simp only [Bool.and_eq_true, beq_iff_eq] at key
    obtain ⟨tenant, type, text⟩ := same
    exact h.unique inside stored ⟨key.1.1.trans tenant.symm, key.1.2.trans type.symm,
      key.2.trans text.symm⟩
  have there : e ∈ eventsAt o command.tenantId command.eventType command.idempotencyKey := by
    obtain ⟨tenant, type, text⟩ := same
    exact List.mem_filter.mpr ⟨stored, by simp [tenant, type, text]⟩
  have nodup : (eventsAt o command.tenantId command.eventType command.idempotencyKey).Nodup :=
    h.events_nodup.filter _
  generalize eventsAt o command.tenantId command.eventType command.idempotencyKey = rows at *
  cases rows with
  | nil => cases there
  | cons a rest =>
    cases rest with
    | nil => rw [held a (by simp)]
    | cons b rest =>
      rw [held a (by simp), held b (by simp)] at nodup
      simp at nodup

/-- `content.match(/\{[\s\S]*\}/)`: from the first opening brace to the last
closing one. -/
def jsonMatch (content : String) : Option String :=
  let inner := content.toList.dropWhile (· != '\x7b')
  let object := (inner.reverse.dropWhile (· != '\x7d')).reverse
  if object.length < 2 then none else some (String.ofList object)

/-- The object a model answered with, where it did. -/
def answeredJson (r : Runtime) (content : String) : Option Json :=
  (jsonMatch content).bind r.jsonParse

end VantGrowth.Content
