import VantGrowth.Db.ExperimentRuns
import VantGrowth.Db.Outbox

namespace VantGrowth.Db
open Lib Lib.Text

/-- `event_outbox` by its primary key, the last value its sequence gave, and what
was notified on `growthos_outbox_events`. Columns hold what they are given. -/
structure OutboxTable where
  rows : InsertionMap Nat StoredOutboxEvent
  sequence : Nat
  notified : List (String × Nat)

namespace PostgresOutboxRepository

def empty : OutboxTable := ⟨.empty, 0, []⟩

/-- The stored rows, oldest first. -/
def events (t : OutboxTable) : List StoredOutboxEvent := t.rows.values

/-- The columns of `event_outbox_idempotency_unique`. -/
def sameEvent (command : EnqueueOutboxEvent) (row : StoredOutboxEvent) : Bool :=
  row.tenantId == command.tenantId && row.eventType == command.eventType &&
    row.idempotencyKey == command.idempotencyKey

/-- What the default of the id column gives; no rollback and no conflict takes
it back. -/
def nextval : Store DbError OutboxTable Nat := do
  let id ← Store.read (·.sequence + 1)
  Store.modify fun t => { t with sequence := id }
  return id

/-- `insert … on conflict do nothing` -/
def insert (row : StoredOutboxEvent) : Store DbError OutboxTable Unit := do
  if ← Store.read fun t => (events t).any (sameEvent row.toEnqueueOutboxEvent) then return
  Store.modify fun t => { t with rows := t.rows.set row.id row }

/-- `now()` is the time `clock`. -/
def enqueue (clock : Instant) (command : EnqueueOutboxEvent) :
    Store DbError OutboxTable StoredOutboxEvent := do
  Store.require (command.valid = true) .zod
  let id ← nextval
  Store.transaction do
    let stored := { command with tenantId := uuidColumn command.tenantId }
    insert { stored with
      id
      createdAt := clock
      consumedAt := none }
    match ← Store.read fun t => (events t).find? (sameEvent stored) with
    | none => Store.throw (.error "Failed to enqueue or load outbox event.")
    | some row =>
      Store.modify fun t => { t with notified := t.notified ++ [(command.tenantId, row.id)] }
      return row

def markConsumed (tenantId : String) (eventId : Nat) (consumedAt : Instant) :
    Store DbError OutboxTable StoredOutboxEvent := do
  let parsedTenantId ← parseSchema (uuidText tenantId)
  Store.transaction do
    match ← Store.read fun t => (t.rows.get eventId).filter (·.tenantId == uuidColumn parsedTenantId) with
    | none => Store.throw (.error ("Outbox event not found for tenant: " ++ decimal eventId))
    | some row =>
      let consumed := { row with consumedAt := some consumedAt }
      Store.modify fun t => { t with rows := t.rows.set eventId consumed }
      return consumed

/-- `order by id asc limit` -/
def listUnconsumed (tenantId : String) (limit : Nat) :
    Store DbError OutboxTable (List StoredOutboxEvent) := do
  let parsedTenantId ← parseSchema (uuidText tenantId)
  let rows ← Store.read fun t =>
    (events t).filter fun e => e.tenantId == uuidColumn parsedTenantId && e.consumedAt.isNone
  return (rows.insertionSort fun a b => a.id ≤ b.id).take limit

/-- `order by created_at desc, id desc` -/
def newer (a b : StoredOutboxEvent) : Bool :=
  b.createdAt < a.createdAt || (a.createdAt == b.createdAt && b.id ≤ a.id)

def listByEventType (tenantId eventType : String) (limit : Nat) :
    Store DbError OutboxTable (List StoredOutboxEvent) := do
  let parsedTenantId ← parseSchema (uuidText tenantId)
  let rows ← Store.read fun t =>
    (events t).filter fun e => e.tenantId == uuidColumn parsedTenantId && e.eventType == eventType
  return (rows.insertionSort fun a b => newer a b).take limit

end PostgresOutboxRepository

/-- A call of the outbox. An event is named by its place among those stored,
which is how a caller comes by its id. -/
inductive OutboxRepositoryCall where
  | enqueue (command : EnqueueOutboxEvent)
  | markConsumed (tenantId : String) (place : Nat) (consumedAt : Instant)
  | listUnconsumed (tenantId : String) (limit : Nat)
  | listByEventType (tenantId eventType : String) (limit : Nat)

/-- The id at a place; no event has the id nought. -/
def idAt (events : List StoredOutboxEvent) (place : Nat) : Nat := (events[place]?).elim 0 (·.id)

/-- The single event a call answers with. -/
def single (m : Store DbError σ StoredOutboxEvent) : Store DbError σ (List StoredOutboxEvent) := do
  let event ← m
  return [event]

def InMemoryOutboxRepository.perform (clock : Instant) (o : InMemoryOutboxRepository) :
    OutboxRepositoryCall → Except DbError (List StoredOutboxEvent) × InMemoryOutboxRepository
  | .enqueue command => (single (enqueue clock command)).run o
  | .markConsumed tenantId place consumedAt =>
    (single (markConsumed tenantId (idAt o.events place) consumedAt)).run o
  | .listUnconsumed tenantId limit => (.ok (o.listUnconsumed tenantId limit), o)
  | .listByEventType tenantId eventType limit => (.ok (o.listByEventType tenantId eventType limit), o)

def PostgresOutboxRepository.perform (clock : Instant) (t : OutboxTable) :
    OutboxRepositoryCall → Except DbError (List StoredOutboxEvent) × OutboxTable
  | .enqueue command => (single (enqueue clock command)).run t
  | .markConsumed tenantId place consumedAt =>
    (single (markConsumed tenantId (idAt (events t) place) consumedAt)).run t
  | .listUnconsumed tenantId limit => (listUnconsumed tenantId limit).run t
  | .listByEventType tenantId eventType limit => (listByEventType tenantId eventType limit).run t

end VantGrowth.Db
