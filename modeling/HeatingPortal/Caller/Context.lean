import HeatingPortal.Caller.Resolution
import HeatingPortal.Plant.Entity

/-!
# What a caller may reach

The context of a request is resolved once: the modes on offer for the system mode, or the visible
ids and the run modes of a kind of entities. Only a visible entity can be addressed.
-/

namespace HeatingPortal.Caller

open Settings Plant

/-- What one caller may see of one kind of entities. -/
structure EntityContext where
  kind : Kind
  ids : List Int64
  /-- The run modes on offer; without any list overrides are off. -/
  runModes : Option (List Choice)

/-- The value that a caller must have for a request to go on. -/
def demand {α : Type} (pair : KeyPair) : Except Fault (Option α) → Except Error α
  | .error fault => .error (.settings fault)
  | .ok none => .error (.disabled pair.standard)
  | .ok (some value) => .ok value

/-- The system modes on offer for a caller. -/
def systemModes (settings : Settings) (caller : Identity) : Except Error (List Choice) :=
  demand .modes (resolveChoices settings caller .modes)

namespace EntityContext

/-- The context of a caller for a kind of entities. -/
def of (settings : Settings) (caller : Identity) (kind : Kind) : Except Error EntityContext := do
  let ids ← demand kind.idKeys (resolveIds settings caller kind.idKeys)
  let runModes ← (resolveChoices settings caller kind.runModeKeys).mapError .settings
  return ⟨kind, ids, runModes⟩

/-- The visible entities, in the order of their ids in the settings. -/
def visible (context : EntityContext) : List Entity :=
  context.ids.map (Entity.mk context.kind)

/-- The visible entity whose id is written in a text. -/
def address (context : EntityContext) (text : String) : Except Error Entity :=
  match Entity.read? context.kind text with
  | none => .error (.malformedId text)
  | some entity =>
    if context.ids.contains entity.id then .ok entity else .error (.unknownEntity entity)

end EntityContext

/-- What a form is made for. -/
inductive Context where
  | system (modes : List Choice)
  | entity (context : EntityContext)

namespace Context

/-- The visible entities; the system mode has none. -/
def visible : Context → List Entity
  | system _ => []
  | entity c => c.visible

/-- The visible entity whose id is written in a text. -/
def address : Context → String → Except Error Entity
  | system _, _ => .error (.other "the system mode has no addressable entities")
  | entity c, text => c.address text

end Context

end HeatingPortal.Caller
