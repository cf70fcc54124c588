import HeatingPortal.Plant.Program
import HeatingPortal.Text.Json

/-!
# Snapshots

All that the plant tells about an entity, read in one go.
-/

namespace HeatingPortal.Plant

open Number Text

/-- The state of an entity as the plant tells it. -/
structure Snapshot where
  entity : Entity
  name : String
  standingMode : Int64
  currentMode : Int64
  overrideActive : Bool
  offset : Binary64
  setpoints : Setpoints
  hasAmbientSensor : Bool
deriving DecidableEq

namespace Snapshot

/-- Reads the state of an entity. -/
def fetch (entity : Entity) : Task Failure Snapshot := do
  return {
    entity
    name := ← (Operation.name entity).send
    standingMode := ← (Operation.standingMode entity).send
    currentMode := ← (Operation.currentMode entity).send
    overrideActive := ← (Operation.overrideActive entity).send
    offset := ← (Operation.offset entity).send
    setpoints := ← (Operation.setpoints entity).send
    hasAmbientSensor := ← (Operation.hasAmbientSensor entity).send }

end Snapshot

/-! ### JSON -/

/-- The kind and id of an entity as fields. -/
def Entity.fields (entity : Entity) : List (String × Json) :=
  [("kind", .string entity.kind.word), ("id", .integer entity.id.toInt)]

/-- The temperatures as an object. -/
def Setpoints.toJson (setpoints : Setpoints) : Json :=
  .object
    [("comfort", .number setpoints.comfort), ("eco", .number setpoints.eco),
     ("frost", .number setpoints.frost), ("target", .number setpoints.target),
     ("current", .number setpoints.current)]

/-- A snapshot as an object. -/
def Snapshot.toJson (snapshot : Snapshot) : Json :=
  .object (snapshot.entity.fields ++
    [("name", .string snapshot.name), ("standing_mode", .integer snapshot.standingMode.toInt),
     ("current_mode", .integer snapshot.currentMode.toInt),
     ("override_active", .bool snapshot.overrideActive), ("offset", .number snapshot.offset),
     ("setpoints", snapshot.setpoints.toJson),
     ("has_ambient_sensor", .bool snapshot.hasAmbientSensor)])

end HeatingPortal.Plant
