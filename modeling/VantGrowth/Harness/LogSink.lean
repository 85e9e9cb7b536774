import VantGrowth.Lib.JsDate
import VantGrowth.Lib.Runs

/-! The sink that buffers the rows of LLM calls. Every row goes with the number
it was logged under; the sink never looks into one. -/

namespace VantGrowth.Harness
open Lib

/-- `n >= limit` -/
def reaches (n : Nat) : JsNumber → Bool
  | .nan | .posInfinity => false
  | .negInfinity => true
  | .finite limit => limit ≤ n

structure BufferConfig where
  /-- The wrapped sink has an `insertRows`. -/
  insertRows : Bool
  maxBatchSize : JsNumber := .finite 100

inductive DeliveryStatus where
  | inFlight | accepted | rejected
deriving DecidableEq

/-- Rows of one flush that the wrapped sink is given together. -/
structure Delivery (ρ : Type) where
  flush : Nat
  rows : List (Nat × ρ)
  status : DeliveryStatus

/-- A call of `log` or `flush`: how many rows had been logged when it was made,
and the flush that it awaits. -/
structure SinkCall where
  isLog : Bool
  logged : Nat
  awaits : Option Nat

structure BufferedSink (ρ : Type) where
  buffer : List (Nat × ρ)
  logged : List (Nat × ρ)
  deliveries : List (Delivery ρ)
  flushes : Nat
  calls : List SinkCall

def Delivery.settled (accepted : Bool) (d : Delivery ρ) : Delivery ρ :=
  if d.status = .inFlight then { d with status := if accepted then .accepted else .rejected } else d

namespace BufferedSink

def empty : BufferedSink ρ := ⟨[], [], [], 0, []⟩

/-- What the wrapped sink is called with. Where it throws at once, the rows from
there on are not handed over. -/
def handOver (config : BufferConfig) (flush : Nat) (rows : List (Nat × ρ)) (thrown : Option Nat) :
    List (Delivery ρ) :=
  if config.insertRows then [⟨flush, rows, if thrown.isSome then .rejected else .inFlight⟩]
  else rows.mapIdx fun i row =>
    ⟨flush, [row], if thrown.any (· ≤ i) then .rejected else .inFlight⟩

/-- `flush` up to its first await, and what it awaits. -/
def flush (config : BufferConfig) (thrown : Option Nat) (s : BufferedSink ρ) :
    BufferedSink ρ × Option Nat :=
  if s.buffer.isEmpty then (s, none)
  else
    ({ s with
        buffer := []
        deliveries := s.deliveries ++ handOver config s.flushes s.buffer thrown
        flushes := s.flushes + 1 }, some s.flushes)

def push (row : ρ) (s : BufferedSink ρ) : BufferedSink ρ :=
  { s with
    buffer := s.buffer ++ [(s.logged.length, row)]
    logged := s.logged ++ [(s.logged.length, row)] }

def called (isLog : Bool) (awaiting : BufferedSink ρ × Option Nat) : BufferedSink ρ :=
  { awaiting.1 with
    calls := awaiting.1.calls ++ [⟨isLog, awaiting.1.logged.length, awaiting.2⟩] }

/-- `log` up to its first await. -/
def log (config : BufferConfig) (row : ρ) (thrown : Option Nat) (s : BufferedSink ρ) :
    BufferedSink ρ × Option Nat :=
  let s := s.push row
  if reaches s.buffer.length config.maxBatchSize then s.flush config thrown else (s, none)

end BufferedSink

/-- A call of `log`; a call of `flush`, by a caller, the timer or `close`; or the
wrapped sink's answer to one delivery. -/
inductive SinkEvent (ρ : Type) where
  | log (row : ρ) (thrown : Option Nat)
  | flush (thrown : Option Nat)
  | settle (delivery : Nat) (accepted : Bool)

namespace BufferedSink

def step (config : BufferConfig) (s : BufferedSink ρ) : SinkEvent ρ → BufferedSink ρ
  | .log row thrown => called true (s.log config row thrown)
  | .flush thrown => called false (s.flush config thrown)
  | .settle i accepted => { s with deliveries := s.deliveries.modify i (·.settled accepted) }

def run (config : BufferConfig) (events : List (SinkEvent ρ)) : BufferedSink ρ :=
  runs (step config) empty events

/-- The rows of the deliveries of one status. -/
def rowsOf (status : DeliveryStatus) (s : BufferedSink ρ) : List (Nat × ρ) :=
  (s.deliveries.filter (·.status = status)).flatMap (·.rows)

/-- A call has completed without error. -/
def Completed (s : BufferedSink ρ) (call : SinkCall) : Prop :=
  ∀ d ∈ s.deliveries, call.awaits = some d.flush → d.status = .accepted

end BufferedSink

end VantGrowth.Harness
