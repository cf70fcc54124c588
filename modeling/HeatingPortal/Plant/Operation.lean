import HeatingPortal.Number.Binary64
import HeatingPortal.Plant.Failure

/-!
# Operations of the plant

Every call that the plant understands, with the type of its reply, its name in messages and what
it is aimed at.
-/

namespace HeatingPortal.Plant

open Number

/-- The temperatures of an entity: three to hold, the one aimed at now and the one measured. -/
structure Setpoints where
  comfort : Binary64
  eco : Binary64
  frost : Binary64
  target : Binary64
  current : Binary64
deriving DecidableEq

/-- A call to the plant. -/
inductive Operation where
  | name (entity : Entity)
  /-- The mode that holds without an override. -/
  | standingMode (entity : Entity)
  /-- The mode in effect. -/
  | currentMode (entity : Entity)
  | overrideActive (entity : Entity)
  | setOverride (entity : Entity) (mode : Int64)
  | clearOverride (entity : Entity)
  /-- What is added to the temperatures to hold. -/
  | offset (entity : Entity)
  | setOffset (entity : Entity) (value : Binary64)
  | setpoints (entity : Entity)
  | hasAmbientSensor (entity : Entity)
  | systemMode
  | setSystemMode (primary : UInt8)
  | suppressFlag
  | setSuppressFlag (suppress : Bool)
  | temperature (sensor : Int64)
deriving DecidableEq

namespace Operation

/-- What the plant answers to a call. -/
@[reducible]
def Reply : Operation → Type
  | name _ => String
  | standingMode _ | currentMode _ => Int64
  | overrideActive _ | hasAmbientSensor _ | suppressFlag => Bool
  | offset _ | temperature _ => Binary64
  | setpoints _ => Setpoints
  | systemMode => UInt8
  | setOverride .. | clearOverride _ | setOffset .. | setSystemMode _ | setSuppressFlag _ => Unit

/-- The name of an operation in messages. -/
def label : Operation → String
  | name _ => "name"
  | standingMode _ => "standing_mode"
  | currentMode _ => "current_mode"
  | overrideActive _ => "override_active"
  | setOverride .. => "set_override"
  | clearOverride _ => "clear_override"
  | offset _ => "offset"
  | setOffset .. => "set_offset"
  | setpoints _ => "setpoints"
  | hasAmbientSensor _ => "has_ambient_sensor"
  | systemMode => "system_mode"
  | setSystemMode _ => "set_system_mode"
  | suppressFlag => "suppress_flag"
  | setSuppressFlag _ => "set_suppress_flag"
  | temperature _ => "temperature"

/-- What an operation is aimed at. -/
def target : Operation → Target
  | name e | standingMode e | currentMode e | overrideActive e | setOverride e _
  | clearOverride e | offset e | setOffset e _ | setpoints e | hasAmbientSensor e => .entity e
  | systemMode | setSystemMode _ | suppressFlag | setSuppressFlag _ => .runtime
  | temperature sensor => .sensor sensor

/-- A call that changes the plant. -/
def isWrite : Operation → Bool
  | setOverride .. | clearOverride _ | setOffset .. | setSystemMode _ | setSuppressFlag _ => true
  | _ => false

/-- The failure of a call. -/
def failure (operation : Operation) (cause : Cause) (detail : String) : Failure :=
  ⟨operation.label, operation.target, cause, detail⟩

end Operation

end HeatingPortal.Plant
