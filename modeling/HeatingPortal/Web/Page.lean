import HeatingPortal.Form.Render

/-!
# Pages

What the portal shows: typed pages and their JSON documents, and the name and version under which
it presents itself.
-/

namespace HeatingPortal

/-! ### The product -/

/-- The name of the portal. -/
def product : String :=
  "thermogate"

/-- The version of the portal. -/
def productVersion : String :=
  "0.1.0"

end HeatingPortal

namespace HeatingPortal.Web

open Caller Form Number Plant Settings Text

/-! ### The system mode -/

/-- Where a sensor measures. -/
inductive Location where
  | outdoor
  | indoor
deriving DecidableEq

namespace Location

/-- All locations, in the order in which they are shown. -/
def all : List Location :=
  [outdoor, indoor]

/-- The name of a location. -/
def word : Location → String
  | outdoor => "outdoor"
  | indoor => "indoor"

/-- The keys of the visible sensors of a location. -/
def sensorKeys : Location → KeyPair
  | outdoor => .outdoorSensors
  | indoor => .indoorSensors

end Location

/-- A sensor at its location. -/
structure Sensor where
  location : Location
  id : Int64
deriving DecidableEq

/-- A sensor and its temperature, unless that could not be read. -/
structure Reading where
  sensor : Sensor
  temperature : Option Binary64
deriving DecidableEq

/-- The page of the system mode. -/
structure SystemPage where
  caller : Identity
  tier : Tier
  /-- The system mode, unless it could not be read. -/
  mode : Option UInt8
  form : Filled
  readings : List Reading
deriving DecidableEq

/-- A reading as an object. -/
def Reading.toJson (reading : Reading) : Json :=
  .object
    [("location", .string reading.sensor.location.word),
     ("id", .integer reading.sensor.id.toInt),
     ("temperature", .ofOption .number reading.temperature)]

/-- The page of the system mode as an object. -/
def SystemPage.toJson (page : SystemPage) : Json :=
  .object
    [("identity", .ofOption .string page.caller.name?), ("tier", .string page.tier.word),
     ("system_mode", .ofOption (fun mode => .integer mode.toNat) page.mode),
     ("form", page.form.toJson), ("sensors", .array (page.readings.map Reading.toJson))]

/-! ### Entities -/

/-- An entity in a list. -/
structure Listed where
  entity : Entity
  name : String
deriving DecidableEq

/-- The list of the visible entities of a kind. -/
structure ListPage where
  kind : Kind
  tier : Tier
  entities : List Listed
deriving DecidableEq

/-- The page of an entity. -/
structure EntityPage where
  tier : Tier
  entity : Entity
  form : Filled
  /-- The state of the entity, unless it could not be read. -/
  state : Option Snapshot
deriving DecidableEq

/-- Where an entity is shown. -/
def entityLocation (entity : Entity) : String :=
  "/" ++ entity.path

/-- An entity in a list as an object. -/
def Listed.toJson (listed : Listed) : Json :=
  .object
    [("id", .integer listed.entity.id.toInt), ("name", .string listed.name),
     ("path", .string (entityLocation listed.entity))]

/-- A list of entities as an object. -/
def ListPage.toJson (page : ListPage) : Json :=
  .object
    [("kind", .string page.kind.word), ("tier", .string page.tier.word),
     ("entities", .array (page.entities.map Listed.toJson))]

/-- The page of an entity as an object; the state only where there is one. -/
def EntityPage.toJson (page : EntityPage) : Json :=
  .object
    ([("tier", .string page.tier.word)] ++ page.entity.fields ++ [("form", page.form.toJson)] ++
     (page.state.map fun snapshot => ("state", snapshot.toJson)).toList)

/-! ### Other documents -/

/-- The manifest of a portal with a title, as an object. -/
def manifestJson (title : String) : Json :=
  .object
    [("name", .string title), ("short_name", .string title), ("start_url", .string "/"),
     ("display", .string "standalone")]

/-- The state of the portal as an object: the plant is reachable when its mode could be read. -/
def statusJson (mode : Option UInt8) : Json :=
  .object
    [("name", .string product), ("version", .string productVersion),
     ("gateway", .string (if mode.isSome then "reachable" else "unreachable")),
     ("system_mode", .ofOption (fun mode => .integer mode.toNat) mode)]

/-- An error as an object; a rejected submission lists its fields. -/
def errorJson (error : Error) : Json :=
  .object
    ([("error", .string error.code), ("message", .string error.message)] ++
     match error with
     | .rejected rejections => [("fields", .array (rejections.map Rejection.toJson))]
     | _ => [])

end HeatingPortal.Web
