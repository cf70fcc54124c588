import HeatingPortal.Plant.Simulated
import HeatingPortal.Web.Portal

/-!
# Sessions on a simulated plant

A world is a simulated plant and a recording of what is published. Serving a request runs its
program on the plant, and publishes the system mode if the request committed one.
-/

namespace HeatingPortal.Web

open Notice Plant

/-- A simulated plant and a recording sink. -/
structure World where
  plant : Simulated
  sink : Recording

namespace World

/-- A world in which nothing is published yet. -/
def ofPlant (plant : Simulated) : World :=
  ⟨plant, .empty⟩

/-- Runs a program on the plant. -/
def run {α : Type} (world : World) (program : Program α) : α × World :=
  let (value, plant) := world.plant.run program
  (value, { world with plant })

/-- Publishes the system mode that a request committed. -/
def commit (world : World) : Option UInt8 → List Warning × World
  | none => ([], world)
  | some composite =>
    let (warnings, sink) := world.sink.notify composite
    (warnings, { world with sink })

/-- Serves a request: the response, the warnings, and the world afterwards. -/
def serve (portal : Portal) (request : Request) (world : World) :
    (Response × List Warning) × World :=
  let (outcome, world) := world.run (portal.serve request)
  let (lost, world) := world.commit outcome.publish
  ((outcome.response, outcome.warnings ++ lost), world)

/-- The world after an intervention in the plant. -/
def intervene (world : World) (change : Simulated → Simulated) : World :=
  { world with plant := change world.plant }

/-- The world with a sink that fails, or that works again. -/
def setSinkFailing (world : World) (failing : Bool) : World :=
  { world with sink := { world.sink with failing } }

end World

/-! ### Events -/

/-- What happens in a session. -/
inductive Event where
  | request (request : Request)
  /-- A call to the plant that no request makes. -/
  | call (operation : Operation)
  /-- An operation fails from now on. -/
  | failOn (label : String)
  /-- An operation succeeds again. -/
  | recover (label : String)
  /-- A schedule changes the standing mode of an entity. -/
  | standingMode (entity : Entity) (mode : Int64)
  /-- The recorded writes are forgotten. -/
  | clearCalls
  /-- The sink fails from now on, or works again. -/
  | sinkFailing (failing : Bool)

namespace World

/-- What a client and the operator see of an event. -/
def seen (portal : Portal) (world : World) : Event → Option (Response × List Warning)
  | .request request => some (world.serve portal request).1
  | _ => none

/-- The world after an event. -/
def after (portal : Portal) (world : World) : Event → World
  | .request request => (world.serve portal request).2
  | .call operation => (world.run operation.send).2
  | .failOn label => world.intervene (·.failOn label)
  | .recover label => world.intervene (·.recover label)
  | .standingMode entity mode => world.intervene (·.setStandingMode entity mode)
  | .clearCalls => world.intervene (·.clearCalls)
  | .sinkFailing failing => world.setSinkFailing failing

/-- The world after a session. -/
def afterAll (portal : Portal) (world : World) (events : List Event) : World :=
  events.foldl (after portal) world

end World

end HeatingPortal.Web
