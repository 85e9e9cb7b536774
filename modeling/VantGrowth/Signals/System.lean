import VantGrowth.Lib.Faults
import VantGrowth.Lib.Interleaving
import VantGrowth.Signals.Contracts

namespace VantGrowth.Signals
open Core Db Lib

/-- What a worker or a repository throws. -/
inductive WorkerError where
  | repository (e : DbError)
  | lost (message : String)
  | zod
deriving DecidableEq

/-- What the workers share, and what the grading model will answer next. -/
structure World where
  clock : Instant
  signals : InMemorySignalEventsRepository
  outbox : InMemoryOutboxRepository
  grades : List (Option SignalGrade)

structure Deployment where
  sha256 : String → String
  /-- A model grades the signals. -/
  llmCallRunner : Bool := false
  /-- The storage behind the outbox throws at this command, every time. -/
  refuses : EnqueueOutboxEvent → Bool := fun _ => false

/-- The operations at which a program gives up control. -/
inductive Op where
  | now
  | claimUnprocessed (tenantId : String) (signalType : SignalTypeValue) (limit : Nat)
      (claim : SignalProcessingClaim)
  | gradeSignal (signal : IncomingSignal)
  | enqueue (command : EnqueueOutboxEvent)
  | markProcessed (tenantId : String) (ids : List Nat)
  | releaseClaims (tenantId : String) (ids : List Nat) (owner : String)
  | ingest (params : IngestSignalParams)
  | markConsumed (tenantId : String) (eventId : Nat)
  | tick (ms : Nat)
  | disturb (faults : List (Option Fault))
  | prepare (grades : List (Option SignalGrade))

/-- The calls that are made inside a `try` answer with their outcome. -/
abbrev Res : Op → Type
  | .now => Instant
  | .claimUnprocessed _ _ _ _ => List SignalEventRecord
  | .gradeSignal _ => Option SignalGrade
  | .enqueue _ => Except WorkerError StoredOutboxEvent
  | .markProcessed _ _ => Except WorkerError Unit
  | .releaseClaims _ _ _ => Unit
  | .ingest _ => IngestSignalResult
  | .markConsumed _ _ => StoredOutboxEvent
  | .tick _ | .disturb _ | .prepare _ => Unit

def onSignals (call : Instant → Store DbError InMemorySignalEventsRepository α) :
    Store WorkerError World α := do
  let clock ← Store.read (·.clock)
  Store.zoom (·.signals) (fun w s => { w with signals := s }) ((call clock).mapError .repository)

def onOutbox (call : Instant → Store DbError InMemoryOutboxRepository α) :
    Store WorkerError World α := do
  let clock ← Store.read (·.clock)
  Store.zoom (·.outbox) (fun w o => { w with outbox := o }) ((call clock).mapError .repository)

/-- A call of a repository, which the connection may lose. -/
def remote (m : Store WorkerError World α) : Store WorkerError (Faulty World) α :=
  m.faulty fun f => .lost f.message

/-- The outcome of a call inside a `try`. -/
def outcome (m : Store WorkerError (Faulty World) α) :
    Store WorkerError (Faulty World) (Except WorkerError α) :=
  ⟨fun s => (.ok (m.run s).1, (m.run s).2)⟩

/-- `gradeSignalPayload` never throws: what is no grade is no answer. -/
def answerGrade : Store WorkerError World (Option SignalGrade) := do
  let answer ← Store.read (·.grades.head?.join)
  Store.modify fun w => { w with grades := w.grades.tail }
  return answer.filter SignalGrade.valid

section
variable (d : Deployment)

def enqueue (now : Instant) (command : EnqueueOutboxEvent) :
    Store DbError InMemoryOutboxRepository StoredOutboxEvent := do
  Store.require (d.refuses command = false) (.error "insert refused")
  InMemoryOutboxRepository.enqueue now command

def exec : ∀ op, Store WorkerError (Faulty World) (Res op)
  | .now => (Store.read (·.clock)).sound
  | .claimUnprocessed tenantId signalType limit claim => remote <| onSignals fun now =>
      InMemorySignalEventsRepository.claimUnprocessed now tenantId signalType limit claim
  | .gradeSignal _ => answerGrade.sound
  | .enqueue command => outcome <| remote <| onOutbox fun now => enqueue d now command
  | .markProcessed tenantId ids => outcome <| remote <| onSignals fun now =>
      InMemorySignalEventsRepository.markProcessed now tenantId ids
  | .releaseClaims tenantId ids owner => remote <| onSignals fun _ =>
      InMemorySignalEventsRepository.releaseClaims tenantId ids owner
  | .ingest params => remote <| onSignals fun now =>
      InMemorySignalEventsRepository.ingest now params
  | .markConsumed tenantId eventId => remote <| onOutbox fun now =>
      InMemoryOutboxRepository.markConsumed tenantId eventId now
  | .tick ms => (Store.modify fun w => { w with clock := w.clock + ms }).sound
  | .disturb faults => Store.modify fun w => { w with faults }
  | .prepare grades => (Store.modify fun w => { w with grades }).sound

end

abbrev Handler := Prog Res WorkerError

/-- A computation inside a `try`. -/
abbrev Attempt := ExceptT WorkerError Handler

/-- Every call of a repository, the model or the clock. -/
def await (op : Op) : Handler (Res op) := Prog.perform op

end VantGrowth.Signals
