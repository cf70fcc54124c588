import HeatingPortal.Plant.SystemMode
import HeatingPortal.Web.Response

/-!
# The page of the system mode

The page shows the system mode and the readings of the visible sensors, each location resolved on
its own. A submission must choose a mode on offer; it is written in two calls and then published.
-/

namespace HeatingPortal.Web

open Caller Form Plant

/-! ### Sensors -/

/-- The visible sensors of a location. -/
def sensorsAt (settings : Settings) (caller : Identity) (location : Location) :
    Except Error (List Sensor) := do
  let ids ← (resolveIds settings caller location.sensorKeys).mapError Error.settings
  return (ids.getD []).map (Sensor.mk location)

/-- The visible sensors, outdoor ones first. -/
def sensors (settings : Settings) (caller : Identity) : Except Error (List Sensor) := do
  return (← sensorsAt settings caller .outdoor) ++ (← sensorsAt settings caller .indoor)

/-- A reading that may have failed, and the warning in that case. -/
def readingOf (sensor : Sensor) : Except Failure Number.Binary64 → Reading × List Warning
  | .ok temperature => (⟨sensor, some temperature⟩, [])
  | .error failure => (⟨sensor, none⟩, [.sensorUnread failure])

/-- Reads one sensor after another; a failure leaves its reading empty. -/
def readSensors : List Sensor → Program (List Reading × List Warning)
  | [] => return ([], [])
  | sensor :: rest => do
    let (reading, warnings) := readingOf sensor (← (Operation.temperature sensor.id).send.run)
    let (readings, later) ← readSensors rest
    return (reading :: readings, warnings ++ later)

/-! ### Showing -/

/-- Shows the system mode. -/
def showSystemMode (settings : Settings) (caller : Identity) : Task Error Outcome := do
  let modes ← Task.ofExcept (systemModes settings caller)
  let sensors ← Task.ofExcept (sensors settings caller)
  let mode ← readSystemMode.ofPlant .plant
  let (readings, warnings) ← readSensors sensors
  return {
    response := .plain 200 <| .system {
      caller
      tier := .of settings caller
      mode := some mode
      form := (Form.system modes).fill (systemTexts mode) []
      readings }
    warnings
    publish := none }

/-! ### Submitting -/

/-- The system mode as far as it can be read, and the warning if it cannot. -/
def liveMode : Except Failure UInt8 → Option UInt8 × List Warning
  | .ok mode => (some mode, [])
  | .error failure => (none, [.liveModeUnread (.plant failure)])

/-- Shows a rejected submission again, with the system mode if it can be read. -/
def showRejectedMode (settings : Settings) (caller : Identity) (form : Form) (submission : Texts)
    (rejections : Rejections) : Program Outcome := do
  let (mode, warnings) := liveMode (← readSystemMode.run)
  let texts := form.attempted ((mode.map systemTexts).getD []) submission
  return {
    response := .plain 422 <| .system {
      caller
      tier := .of settings caller
      mode
      form := form.fill texts rejections
      readings := [] }
    warnings
    publish := none }

/-- The change that accepted values ask for. -/
def modeChange (values : Values) : Except Error SystemModeChange :=
  match values.choice? modeKey with
  | some code => SystemModeChange.ofCode code (values.isChecked suppressKey)
  | none => .error (.other "validated form lacks a mode")

/-- Submits the form of the system mode. -/
def submitSystemMode (settings : Settings) (caller : Identity) (submission : Texts) :
    Task Error Outcome := do
  let modes ← Task.ofExcept (systemModes settings caller)
  let form := Form.system modes
  match form.validate submission with
  | .error rejections => showRejectedMode settings caller form submission rejections
  | .ok values =>
    let change ← Task.ofExcept (modeChange values)
    let composite ← change.apply
    return ⟨.redirect "/", [], some composite⟩

end HeatingPortal.Web
