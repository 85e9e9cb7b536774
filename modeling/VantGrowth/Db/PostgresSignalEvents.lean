import VantGrowth.Db.SignalEvents
import VantGrowth.Lib.RowLocks

namespace VantGrowth.Db
open Lib Lib.RowLocks
open InMemorySignalEventsRepository (IngestSignalParams.givenId sameSignal newRecord claimable leased processed
  released)

namespace PostgresSignalEventsRepository

abbrev Transaction := Prog (RowRes (κ := Nat) (ρ := SignalEventRecord)) DbError

def await (op : RowOp Nat SignalEventRecord) : Transaction (RowRes op) := Prog.perform op

/-- `id` is what the sequence gives. The unique index spans every external id that
is given, the row that is there is only looked for where the id is truthy. -/
def ingest (id : Nat) (now : Instant) (params : IngestSignalParams) :
    Store DbError (InsertionMap Nat SignalEventRecord) IngestSignalResult := do
  Store.require (isUuid params.tenantId = true) .zod
  let stored := { params with tenantId := uuidColumn params.tenantId }
  Store.transaction do
    match ← Store.read fun rows => stored.externalId.bind fun externalId =>
        rows.values.find? (sameSignal stored.tenantId stored.source externalId) with
    | none =>
      let record := newRecord id now stored
      Store.modify (·.set id record)
      Store.require (record.valid = true) .zod
      return ⟨record, false⟩
    | some existing =>
      Store.require ((IngestSignalParams.givenId stored).isSome = true)
        (.error "signal_events ingest: insert returned no rows unexpectedly")
      return ⟨existing, true⟩

/-- A row with its id, which a where-clause may ask for. -/
abbrev Row := Nat × SignalEventRecord

/-- `select id … limit … for update skip locked`, of the rows that matched when it
began. A row that could be locked is looked at again. -/
def selectForUpdate (where_ : Row → Bool) : Nat → List Row → Transaction (List Nat)
  | 0, _ => pure []
  | _, [] => pure []
  | limit + 1, row :: rows => do
    match ← await (.tryLock row.1) with
    | some current =>
      if where_ (row.1, current) then
        let ids ← selectForUpdate where_ limit rows
        return row.1 :: ids
      else selectForUpdate where_ (limit + 1) rows
    | none => selectForUpdate where_ (limit + 1) rows

/-- Goes on with the rows that matched, one at a time. A row that it had to wait
for is looked at again. -/
def updateRows (where_ : Row → Bool) (set_ : SignalEventRecord → SignalEventRecord) :
    List Row → Transaction (List SignalEventRecord)
  | [] => pure []
  | row :: rows => do
    match ← await (.lock row.1) with
    | some current =>
      if where_ (row.1, current) then
        await (.write row.1 (set_ current))
        let updated ← updateRows where_ set_ rows
        return set_ current :: updated
      else updateRows where_ set_ rows
    | none => updateRows where_ set_ rows

/-- `update … set … where … returning` -/
def update (where_ : Row → Bool) (set_ : SignalEventRecord → SignalEventRecord) :
    Transaction (List SignalEventRecord) := do
  let rows ← await .rows
  updateRows where_ set_ (rows.entries.filter where_)

def claimUnprocessed (now : Instant) (tenantId : String) (signalType : SignalTypeValue) (limit : Nat)
    (claim : SignalProcessingClaim) : Transaction (List SignalEventRecord) := do
  let rows ← await .rows
  let where_ := fun row : Row => claimable now (uuidColumn tenantId) signalType row.2
  let claimedIds ← selectForUpdate where_ limit
    ((rows.entries.filter where_).insertionSort fun a b => a.1 ≤ b.1)
  if claimedIds.isEmpty then return []
  let updated ← update
    (fun row => row.2.tenantId == uuidColumn tenantId && claimedIds.contains row.1 && row.2.processedAt.isNone)
    (leased now claim)
  Prog.require (updated.all (·.valid) = true) .zod
  return updated

def markProcessed (now : Instant) (tenantId : String) (ids : List Nat) : Transaction (List SignalEventRecord) :=
  update (fun row => row.2.tenantId == uuidColumn tenantId && ids.contains row.1 && row.2.processedAt.isNone)
    (processed now)

def releaseClaims (tenantId : String) (ids : List Nat) (owner : String) : Transaction (List SignalEventRecord) :=
  update (fun row => row.2.tenantId == uuidColumn tenantId && ids.contains row.1 &&
    row.2.processingLeaseOwner == some owner && row.2.processedAt.isNone) released

/-- A call, `now` being what `new Date()` gives it. -/
inductive Call where
  | claimUnprocessed (now : Instant) (tenantId : String) (signalType : SignalTypeValue) (limit : Nat)
      (claim : SignalProcessingClaim)
  | markProcessed (now : Instant) (tenantId : String) (ids : List Nat)
  | releaseClaims (tenantId : String) (ids : List Nat) (owner : String)

/-- A call that is refused, or has nothing to do, opens no transaction. -/
def transaction : Call → Option (Transaction (List SignalEventRecord))
  | .claimUnprocessed now tenantId signalType limit claim =>
    if isUuid tenantId && claim.valid then some (claimUnprocessed now tenantId signalType limit claim) else none
  | .markProcessed now tenantId ids =>
    if !ids.isEmpty && isUuid tenantId then some (markProcessed now tenantId ids) else none
  | .releaseClaims tenantId ids owner =>
    if !ids.isEmpty && isUuid tenantId then some (releaseClaims tenantId ids owner) else none

/-- An `ingest` under an id of the sequence, at a time. -/
structure Arrival where
  id : Nat
  now : Instant
  params : IngestSignalParams

/-- `signal_events`, and the calls made of it. -/
def signalEvents : Database Nat SignalEventRecord DbError Call Arrival (List SignalEventRecord) where
  program := transaction
  insertion rows a := (((ingest a.id a.now a.params).run rows).2.get a.id).map fun row => (a.id, row)

end PostgresSignalEventsRepository

end VantGrowth.Db
