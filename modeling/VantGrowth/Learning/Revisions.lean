import VantGrowth.Content.Critique
import VantGrowth.Learning.Consumers

namespace VantGrowth.Learning
open Core Db Lib
open Content (CritiqueDeployment CritiqueResult CritiqueWorker.critique createBlogDraftCritiqueRequest)

/-- What the quality gate and the learner share: one database, and the calls
the gate has made so far. -/
structure Shared where
  world : World
  drawn : Nat := 0
  calls : Nat := 0

def Shared.outbox (s : Shared) : InMemoryOutboxRepository := s.world.proposals.outboxRepository

/-- The part of it the gate works on. -/
def Shared.gate (s : Shared) : Content.World := ⟨s.outbox, s.drawn, s.calls⟩

def Shared.withGate (s : Shared) (w : Content.World) : Shared where
  world := { s.world with proposals := { s.world.proposals with outboxRepository := w.outbox } }
  drawn := w.drawn
  calls := w.calls

/-- The handler of the gate, whose runtime is always the same one. -/
def gradeDraft (runtime : Content.Runtime) (d : CritiqueDeployment) (payload : Payload) :
    Content.Work CritiqueResult := do
  let request ← Content.parse (createBlogDraftCritiqueRequest runtime payload)
  CritiqueWorker.critique { d with runtime } request

def critiqueCompletedEventType : String := "critique.completed.v1"

/-- The critiques an outbox announces, oldest first. -/
def completedEvents (o : InMemoryOutboxRepository) : List EnqueueOutboxEvent :=
  (o.events.filter (·.eventType == critiqueCompletedEventType)).map (·.toEnqueueOutboxEvent)

/-- The message an event is published as. -/
def critiqueMessage (event : EnqueueOutboxEvent) (streamSequence : Nat) : Message where
  consumer := .learning_critique
  subject := "t." ++ event.tenantId ++ "." ++ event.eventType
  streamSequence := streamSequence
  payload := .obj event.payload

section
variable (timeOf : String → Instant) (r : LearningRuntime)

/-- The table of the proposals takes only experiments of the tenant; a message
that names another fails before it has written anything. -/
def admits (w : World) (event : EnqueueOutboxEvent) : Bool :=
  match r.learning.backend with
  | .inMemory => true
  | .postgres =>
    (critiqueCompletedPayloadSchema timeOf (.obj event.payload)).all fun critique =>
      critique.experiment_id.all fun id =>
        (w.experiments.experimentsById.get id).any (·.tenantId == event.tenantId)

/-- The event a delivery is of, where it gets through. -/
def deliverable (s : Shared) (position : Nat) : Option EnqueueOutboxEvent :=
  ((completedEvents s.outbox)[position]?).filter (admits timeOf r s.world)

/-- What happens next: a draft reaches the gate, the critique at a position of
the outbox reaches the learner, or anyone else does something. -/
inductive Turn where
  | graded (d : CritiqueDeployment) (payload : Payload)
  | delivered (position streamSequence : Nat)
  | elsewhere (op : Op)

/-- Proposals and critiques come of the two handlers only. -/
def Op.foreign : Op → Bool
  | .createProposal _ _ => false
  | .enqueue command => command.eventType != critiqueCompletedEventType
  | _ => true

def Shared.turn (runtime : Content.Runtime) (s : Shared) : Turn → Shared
  | .graded d payload => s.withGate ((gradeDraft runtime d payload).run s.gate).2
  | .delivered position streamSequence =>
    match deliverable timeOf r s position with
    | none => s
    | some event =>
      let handler := handle timeOf r (critiqueMessage event streamSequence)
      { s with world := ((Prog.runAlone (exec r.learning) handler).run s.world).2 }
  | .elsewhere op =>
    if op.foreign = true then { s with world := ((exec r.learning op).run s.world).2 } else s

end

end VantGrowth.Learning
