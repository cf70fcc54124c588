import HeatingPortal.Plant.SystemMode
import HeatingPortal.Text.Json
import HeatingPortal.Text.Quoted
import HeatingPortal.Wire

/-!
# Publishing the system mode

Whoever wants to know of changes of the system mode is told through a sink: the log, a recording,
or a web address. A sink that fails loses the notice, and nothing else comes of it.
-/

namespace HeatingPortal.Notice

open Plant Text Wire

/-! ### Notices -/

/-- A notice of the system mode and the time of its publication. -/
def notice (composite : UInt8) (publishedAt : String) : Json :=
  .object
    [("system_mode", .integer composite.toNat),
     ("primary", .integer (primaryOf composite).toNat),
     ("suppress", .bool (suppressOf composite)), ("published_at", .string publishedAt)]

/-- Why a notice was lost. -/
inductive PublishError where
  | unreachable (reason : String)
  | status (code : Nat)
deriving DecidableEq

/-- The wording of a lost notice. -/
def PublishError.message : PublishError → String
  | unreachable reason => "publish target unreachable: " ++ reason
  | status code => "publish target answered HTTP " ++ ofInteger code

/-! ### Sinks -/

/-- Where notices go. -/
inductive Sink where
  | log
  | recording
  | webhook (url : String)
deriving DecidableEq

namespace Sink

/-- A sink in words. -/
def describe : Sink → String
  | log => "log"
  | recording => "recording"
  | webhook url => "webhook " ++ url

/-- A sink as it is shown to an operator. -/
def summary (sink : Sink) : String :=
  "Notifier \x7b sink: " ++ quoted sink.describe ++ " \x7d"

end Sink

/-- The request that carries a notice to a path. -/
def webhookRequest (path : String) (composite : UInt8) (publishedAt : String) : Outgoing :=
  ⟨"POST", path, (notice composite publishedAt).write⟩

/-- What became of a notice that was sent to a web address. -/
def published : Delivery → Except PublishError Unit
  | .answered status _ => if 400 ≤ status then .error (.status status) else .ok ()
  | .lost reason => .error (.unreachable reason)

/-- A sink that keeps what is published, unless it is made to fail. -/
structure Recording where
  /-- The published system modes, oldest first. -/
  published : List UInt8
  failing : Bool
deriving DecidableEq

namespace Recording

/-- A recording of nothing. -/
def empty : Recording :=
  ⟨[], false⟩

/-- Publishes a system mode. -/
def publish (recording : Recording) (composite : UInt8) :
    Except PublishError Unit × Recording :=
  if recording.failing then (.error (.unreachable "recording sink set to fail"), recording)
  else (.ok (), { recording with published := recording.published ++ [composite] })

end Recording

end HeatingPortal.Notice
