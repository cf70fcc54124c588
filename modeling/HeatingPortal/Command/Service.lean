import HeatingPortal.Command.Arguments
import HeatingPortal.Notice.Announcement
import HeatingPortal.Web.Portal
import HeatingPortal.Wire

/-!
# The service

What `serve` prepares from its arguments and the settings: a portal, the plant behind it, where
notices go, and where to listen.
-/

namespace HeatingPortal.Command

open Notice Plant Web Wire

/-- The plant behind a portal. -/
inductive PlantSource where
  | simulated (plant : Simulated)
  /-- A bridge at an address, and how long a call to it may take, in milliseconds. -/
  | bridge (base : String) (timeout : Nat)

/-- A service ready to listen. -/
structure Service where
  portal : Portal
  plant : PlantSource
  sink : Sink
  /-- How long a notice may take, in milliseconds. -/
  noticeTimeout : Nat
  host : String
  port : Nat
  /-- Whether the system mode is published once the plant answers. -/
  announces : Bool

/-- The plant that arguments ask for. -/
def ServeArguments.plant (arguments : ServeArguments) : Except Error PlantSource :=
  match arguments.simulate, arguments.bridge with
  | true, _ => .ok (.simulated .demo)
  | false, some url => .ok (.bridge url arguments.bridgeTimeout)
  | false, none => .error (.input .noPlant)

/-- The sink that arguments ask for. -/
def ServeArguments.sink (arguments : ServeArguments) : Sink :=
  arguments.noticeUrl.elim .log .webhook

/-- Prepares a service. -/
def Service.prepare (arguments : ServeArguments) (settings : Settings) :
    Except Error Service := do
  let plant ← arguments.plant
  return {
    portal := (Portal.ofSettings settings).withIdentityHeader arguments.identityHeader
    plant
    sink := arguments.sink
    noticeTimeout := arguments.noticeTimeout
    host := arguments.host
    port := arguments.port
    announces := true }

/-- Refuses to listen on a host that is no address. -/
def requireAddress (host : String) : Except Error Unit :=
  if isAddress host then .ok () else .error (.input (.hostAddress host))

/-- The system modes that a service publishes when it starts on a simulated plant. -/
def startupNotices (announces : Bool) (plant : Simulated) : List UInt8 :=
  if announces then (announce (readAt plant []) .empty (enoughAttempts [])).sink.published
  else []

end HeatingPortal.Command
