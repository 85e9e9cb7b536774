import VantGrowth.Content.BlogDraft
import VantGrowth.Content.Critique
import VantGrowth.Content.IntelDirector
import VantGrowth.Content.Strategist
import VantGrowth.Lib.Runs

namespace VantGrowth.Content.Pipeline
open Core Db Lib

/-- The durable consumers of the content workers. -/
inductive Consumer where
  | intelDirector | contentStrategist | blogDraft | critique
deriving DecidableEq

namespace Consumer

def all : List Consumer := [.intelDirector, .contentStrategist, .blogDraft, .critique]

/-- What the subject of a consumer names after the tenant. -/
def subject : Consumer → String
  | .intelDirector => "intel_brief.requested.v1"
  | .contentStrategist => "intel_brief.v1"
  | .blogDraft => "content_brief.v1"
  | .critique => "blog_draft.v1"

/-- The consumer that events of a type are delivered to. -/
def of (eventType : String) : Option Consumer := all.find? fun consumer => consumer.subject == eventType

/-- The handler of a consumer. -/
def handle (d : CritiqueDeployment) (payload : Payload) : Consumer → Work Unit
  | .intelDirector => do
    let _ ← IntelDirectorWorker.processBriefRequest d.toDeployment payload
    return
  | .contentStrategist => do
    let _ ← ContentStrategistWorker.processBrief d.toDeployment payload
    return
  | .blogDraft => do
    let _ ← BlogDraftWorker.processBrief d.toDeployment payload
    return
  | .critique => do
    let request ← parse (createBlogDraftCritiqueRequest d.runtime payload)
    let _ ← CritiqueWorker.critique d request
    return

end Consumer

/-- The commands the stored events were made from, oldest first. -/
def commands (o : InMemoryOutboxRepository) : List EnqueueOutboxEvent :=
  o.events.map (·.toEnqueueOutboxEvent)

/-- What happens to the outbox that the content workers share. -/
inductive Operation where
  /-- Somebody else enqueues an event. -/
  | store (now : Moment) (command : EnqueueOutboxEvent)
  /-- A stored event is delivered, for the first time or again, to a worker with
  the model and the playbooks it has then. -/
  | deliver (index : Nat) (now : Moment) (llmCallRunner : Option LlmCallRunner)
      (playbookRepository : Option PlaybookVersionStore)
  /-- The publisher marks an event. -/
  | consume (tenantId : String) (eventId : Nat) (consumedAt : Instant)

/-- The deployment of a worker at a delivery. -/
def wired (d : CritiqueDeployment) (now : Moment) (llmCallRunner : Option LlmCallRunner)
    (playbookRepository : Option PlaybookVersionStore) : CritiqueDeployment :=
  { d with
    now
    llmCallRunner
    playbookRepository }

def deliver (d : CritiqueDeployment) (command : EnqueueOutboxEvent) : Work Unit :=
  match Consumer.of command.eventType with
  | some consumer => consumer.handle d command.payload
  | none => pure ()

/-- What a handler throws is up to the consumer loop; what it stored stays. -/
def perform (d : CritiqueDeployment) (w : World) : Operation → World
  | .store now command =>
    { w with outbox := ((InMemoryOutboxRepository.enqueue now.time command).run w.outbox).2 }
  | .deliver index now llmCallRunner playbookRepository =>
    match (commands w.outbox)[index]? with
    | some command => ((deliver (wired d now llmCallRunner playbookRepository) command).run w).2
    | none => w
  | .consume tenantId eventId consumedAt =>
    { w with
      outbox := ((InMemoryOutboxRepository.markConsumed tenantId eventId consumedAt).run w.outbox).2 }

/-- The types of the events that only the content workers make. -/
def handoffs : List String :=
  ["intel_brief.v1", "content_opportunity.v1", "content_brief.v1", "blog_draft.v1",
    "critique.completed.v1"]

end VantGrowth.Content.Pipeline
