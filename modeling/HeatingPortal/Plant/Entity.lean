import HeatingPortal.Settings.Key
import HeatingPortal.Text.Integer

/-!
# Entities of the plant

An entity is a heating circuit or a hot-water tank and has an id among those of its kind. Its
path names it in requests, and the last part of a path reads back to its id.
-/

namespace HeatingPortal.Plant

open Settings

/-- The kinds of entities. -/
inductive Kind where
  | circuit
  | tank
deriving DecidableEq

namespace Kind

/-- All kinds, in the order in which they are shown. -/
def all : List Kind :=
  [circuit, tank]

/-- The name of one entity of a kind. -/
def word : Kind → String
  | circuit => "circuit"
  | tank => "tank"

/-- The name of all entities of a kind. -/
def collection : Kind → String
  | circuit => "circuits"
  | tank => "tanks"

/-- The keys of the visible ids. -/
def idKeys : Kind → KeyPair
  | circuit => .circuits
  | tank => .tanks

/-- The keys of the run modes on offer. -/
def runModeKeys : Kind → KeyPair
  | circuit => .circuitRunModes
  | tank => .tankRunModes

/-- The kind of a word for one or for all of its entities. -/
def ofWord? (text : String) : Option Kind :=
  all.find? fun kind => text = kind.word || text = kind.collection

end Kind

/-- A controllable entity. -/
structure Entity where
  kind : Kind
  id : Int64
deriving DecidableEq

namespace Entity

/-- The entity of a kind whose id is written in a text; blanks around it do not matter. -/
def read? (kind : Kind) (text : String) : Option Entity :=
  (Text.trimmedInt64? text).map (Entity.mk kind)

/-- The path of an entity, relative to the root. -/
def path (entity : Entity) : String :=
  entity.kind.collection ++ "/" ++ Text.ofInt64 entity.id

/-- The entity in words. -/
def describe (entity : Entity) : String :=
  entity.kind.word ++ " " ++ Text.ofInt64 entity.id

end Entity

end HeatingPortal.Plant
