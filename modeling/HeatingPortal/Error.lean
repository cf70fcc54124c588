import HeatingPortal.Plant.Failure
import HeatingPortal.Settings.Fault

/-!
# Errors of the portal

Every way in which a request or a command can fail, with its wording and, for requests, the
status and the code that a client sees.
-/

namespace HeatingPortal

/-! ### Rejected fields

A submission is rejected field by field. The rejections keep the order of the fields. -/

namespace Form

/-- Why a field was rejected. -/
structure Rejection where
  field : String
  reason : String
deriving DecidableEq

/-- The rejections of a submission, in the order of the fields. -/
abbrev Rejections :=
  List Rejection

/-- The reason of the first rejection of a field. -/
def Rejections.reason? (rejections : Rejections) (field : String) : Option String :=
  (rejections.find? (·.field = field)).map (·.reason)

/-- All rejections in one line. -/
def Rejections.message (rejections : Rejections) : String :=
  String.intercalate "; " (rejections.map fun rejection =>
    rejection.field ++ ": " ++ rejection.reason)

end Form

/-! ### Errors -/

open Plant Form Settings

/-- An input from outside that cannot be used. -/
inductive InputFault where
  /-- A word names no kind of entity. -/
  | unknownKind (word : String)
  /-- There is no settings file, neither given nor by default. -/
  | noSettingsFile
  /-- A host is no address. -/
  | hostAddress (host : String)
  /-- Neither a bridge nor the simulated plant is chosen. -/
  | noPlant
  /-- A fault that is known by its description only. -/
  | described (text : String)

/-- The wording of an input that cannot be used. -/
def InputFault.message : InputFault → String
  | unknownKind word => s!"unknown entity kind '{word}'"
  | noSettingsFile => "no configuration file given and no default location (set TG_CONFIG)"
  | hostAddress host => s!"Invalid host address '{host}': invalid IP address syntax"
  | noPlant => "either --gateway-url or --simulate is required"
  | described text => text

/-- A failed request or command. -/
inductive Error where
  /-- The system refused an operation. -/
  | system (text : String)
  /-- The settings have a fault. -/
  | settings (fault : Fault)
  /-- The settings hold nothing for the caller under a key. -/
  | disabled (key : String)
  /-- The caller cannot see the entity. -/
  | unknownEntity (entity : Entity)
  /-- A text is no id. -/
  | malformedId (text : String)
  /-- Fields of a submission were rejected. -/
  | rejected (rejections : Rejections)
  /-- A call to the plant failed. -/
  | plant (failure : Failure)
  /-- A call to the plant failed after another one took effect. -/
  | halfDone (applied : String) (failed : String) (failure : Failure)
  /-- An input cannot be used. -/
  | input (fault : InputFault)
  /-- Anything else. -/
  | other (text : String)

namespace Error

/-- The wording of an error. -/
def message : Error → String
  | system text => "IO error: " ++ text
  | settings fault => Fault.heading ++ fault.message
  | disabled key => s!"Disabled by configuration: '{key}' is not set"
  | unknownEntity entity => s!"Unknown {entity.kind.word}: {Text.ofInt64 entity.id}"
  | malformedId text => "Invalid ID format: " ++ text
  | rejected rejections => "Invalid submission: " ++ rejections.message
  | plant failure => "Gateway error: " ++ failure.message
  | halfDone applied failed failure =>
    s!"Partial update: {applied} succeeded, {failed} failed: {failure.message}"
  | input fault => "Invalid input: " ++ fault.message
  | other text => text

/-- The status of the response to a request that fails so. -/
def status : Error → Nat
  | disabled _ | unknownEntity _ => 404
  | malformedId _ | input _ => 400
  | rejected _ => 422
  | plant _ => 502
  | halfDone .. | settings _ | system _ | other _ => 500

/-- The code by which a client tells errors apart. -/
def code : Error → String
  | disabled _ => "configuration_disabled"
  | unknownEntity _ => "unknown_entity"
  | malformedId _ => "malformed_identifier"
  | input _ => "invalid_input"
  | rejected _ => "validation"
  | plant _ => "gateway_error"
  | halfDone .. => "partial_mutation_failure"
  | settings _ | system _ | other _ => "internal"

end Error

end HeatingPortal
