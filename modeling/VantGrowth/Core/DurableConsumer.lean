import Mathlib.Logic.Function.Basic
import VantGrowth.Lib.Text

namespace VantGrowth.Core
open Lib Lib.Text

/-- The settings the loop reads, within the bounds of
`durableJetStreamConsumerConfigSchema`. -/
structure DurableJetStreamConsumerConfig where
  maxDeliver : Nat := 5
  retryDelayMs : Nat := 5000
  allowed : 1 ≤ maxDeliver ∧ maxDeliver ≤ 100 := by decide

structure DurableMessageContext where
  subject : String
  streamSequence : Nat
  redeliveryCount : Nat
deriving DecidableEq

/-- The calls the loop awaits for a message. A body that does not decode counts
as a handler that threw. -/
inductive Await where
  | handler
  | onExhausted (error : String)
deriving DecidableEq

/-- Where a process is in its loop. -/
inductive Loop where
  | idle
  | awaiting (context : DurableMessageContext) (at_ : Await)
deriving DecidableEq

/-- What a process tells the server of a message. -/
inductive Reply where
  | ack
  | nak (delayMs : Nat)
  | term (reason : String)

/-- How an awaited call ended. -/
abbrev Outcome := Except String Unit

/-- The body of the loop from one await to the next. -/
def resume (config : DurableJetStreamConsumerConfig) (context : DurableMessageContext) :
    Await → Outcome → Loop × Option Reply
  | .handler, .ok () => (.idle, some .ack)
  | .handler, .error error =>
    if config.maxDeliver ≤ context.redeliveryCount then
      (.awaiting context (.onExhausted error), none)
    else (.idle, some (.nak config.retryDelayMs))
  | .onExhausted error, .ok () =>
    (.idle, some (.term ("GrowthOS consumer exhausted after " ++ decimal context.redeliveryCount ++
      " deliveries: " ++ error)))
  | .onExhausted _, .error _ => (.idle, some (.nak config.retryDelayMs))

inductive Phase where
  | waiting | outstanding | acknowledged | terminated
deriving DecidableEq

/-- A message of the stream: how often and where the server has it, and which
calls completed for it. -/
structure StreamMessage where
  subject : String
  deliveries : Nat
  phase : Phase
  handled : Bool
  deadLettered : Bool
deriving DecidableEq

namespace StreamMessage

def published (subject : String) : StreamMessage := ⟨subject, 0, .waiting, false, false⟩

def settled (m : StreamMessage) : Bool :=
  match m.phase with
  | .acknowledged | .terminated => true
  | .waiting | .outstanding => false

/-- A reply about a settled message is ignored. -/
def reply (m : StreamMessage) (r : Reply) : StreamMessage :=
  if m.settled then m
  else
    match r with
    | .ack => { m with phase := .acknowledged }
    | .nak _ => { m with phase := .waiting }
    | .term _ => { m with phase := .terminated }

/-- What an awaited call leaves behind where it returned. -/
def effect (m : StreamMessage) : Await → Outcome → StreamMessage
  | .handler, .ok () => { m with handled := true }
  | .onExhausted _, .ok () => { m with deadLettered := true }
  | _, .error _ => m

end StreamMessage

/-- The stream with its consumer, and the processes that share it. -/
structure Broker where
  messages : Nat → Option StreamMessage
  published : Nat
  loops : Nat → Loop

inductive Event where
  | publish (subject : String)
  | deliver (sequence process : Nat)
  /-- No reply came within the ack wait. -/
  | expire (sequence : Nat)
  | finish (process : Nat) (outcome : Outcome)
  /-- A process is gone while it awaits a call, which may have ended just
  before. -/
  | crash (process : Nat) (ended : Option Outcome)

namespace Broker

def empty : Broker := ⟨fun _ => none, 0, fun _ => .idle⟩

/-- A process goes on to `loop` with the message it held changed. -/
def advance (s : Broker) (process : Nat) (context : DurableMessageContext)
    (change : StreamMessage → StreamMessage) (loop : Loop) : Broker :=
  { s with
    messages := Function.update s.messages context.streamSequence
      ((s.messages context.streamSequence).map change)
    loops := Function.update s.loops process loop }

/-- The server delivers again only below the limit and never what is settled. -/
def step (config : DurableJetStreamConsumerConfig) (s : Broker) : Event → Broker
  | .publish subject =>
    { s with
      messages := Function.update s.messages s.published (some (.published subject))
      published := s.published + 1 }
  | .deliver sequence process =>
    match s.messages sequence, s.loops process with
    | some m, .idle =>
      if m.phase = .waiting ∧ m.deliveries < config.maxDeliver then
        { s with
          messages := Function.update s.messages sequence
            (some { m with deliveries := m.deliveries + 1, phase := .outstanding })
          loops := Function.update s.loops process
            (.awaiting ⟨m.subject, sequence, m.deliveries + 1⟩ .handler) }
      else s
    | _, _ => s
  | .expire sequence =>
    { s with
      messages := Function.update s.messages sequence
        ((s.messages sequence).map (·.reply (.nak 0))) }
  | .finish process outcome =>
    match s.loops process with
    | .idle => s
    | .awaiting context at_ =>
      s.advance process context
        (fun m => match (resume config context at_ outcome).2 with
          | some r => (m.effect at_ outcome).reply r
          | none => m.effect at_ outcome)
        (resume config context at_ outcome).1
  | .crash process ended =>
    match s.loops process with
    | .idle => s
    | .awaiting context at_ =>
      s.advance process context (fun m => ended.elim m (m.effect at_)) .idle

end Broker

end VantGrowth.Core
