import HeatingPortal.Plant.Override
import HeatingPortal.Web.Response

/-!
# The pages of entities

The visible entities of a kind are listed by name. Each has a page with its state, and a form
that changes the offset and, where run modes are on offer, the override.
-/

namespace HeatingPortal.Web

open Caller Form Plant

/-! ### Showing -/

/-- Reads the name of an entity for a list. -/
def readListed (entity : Entity) : Task Failure Listed := do
  return ⟨entity, ← (Operation.name entity).send⟩

/-- Lists the visible entities of a kind. -/
def listEntities (settings : Settings) (caller : Identity) (kind : Kind) :
    Task Error Outcome := do
  let context ← Task.ofExcept (EntityContext.of settings caller kind)
  let entities ← Task.ofPlant .plant (context.visible.mapM readListed)
  return .ofResponse <| .plain 200 <| .entities {
    kind
    tier := .of settings caller
    entities }

/-- The context of a caller for a kind, and the visible entity of an id. -/
def addressed (settings : Settings) (caller : Identity) (kind : Kind) (id : String) :
    Except Error (EntityContext × Entity) := do
  let context ← EntityContext.of settings caller kind
  return (context, ← context.address id)

/-- Shows an entity. -/
def showEntity (settings : Settings) (caller : Identity) (kind : Kind) (id : String) :
    Task Error Outcome := do
  let (context, entity) ← Task.ofExcept (addressed settings caller kind id)
  let snapshot ← (Snapshot.fetch entity).ofPlant .plant
  return .ofResponse <| .plain 200 <| .entity {
    tier := .of settings caller
    entity
    form := (Form.entity kind context.runModes).fill (entityTexts snapshot) []
    state := some snapshot }

/-! ### Submitting -/

/-- The state of an entity as far as it can be read, and the warning if it cannot. -/
def liveState : Except Failure Snapshot → Option Snapshot × List Warning
  | .ok snapshot => (some snapshot, [])
  | .error failure => (none, [.liveStateUnread (.plant failure)])

/-- Shows a rejected submission again, with the state of the entity if it can be read. -/
def showRejectedEntity (settings : Settings) (caller : Identity) (entity : Entity) (form : Form)
    (submission : Texts) (rejections : Rejections) : Program Outcome := do
  let (state, warnings) := liveState (← (Snapshot.fetch entity).run)
  let texts := form.attempted ((state.map entityTexts).getD []) submission
  return {
    response := .plain 422 <| .entity {
      tier := .of settings caller
      entity
      form := form.fill texts rejections
      state }
    warnings
    publish := none }

/-- What accepted values ask of the override, if they choose a run mode. -/
def overrideRequest? (values : Values) : Option OverrideRequest :=
  (values.choice? runModeKey).map fun mode => ⟨mode, values.isChecked overrideKey⟩

/-- Submits the form of an entity. -/
def submitEntity (settings : Settings) (caller : Identity) (kind : Kind) (id : String)
    (submission : Texts) : Task Error Outcome := do
  let (context, entity) ← Task.ofExcept (addressed settings caller kind id)
  let form := Form.entity kind context.runModes
  match form.validate submission with
  | .error rejections => showRejectedEntity settings caller entity form submission rejections
  | .ok values =>
    let plan ← Task.ofPlant .plant
      (ChangePlan.build entity (values.decimal? offsetKey) (overrideRequest? values))
    plan.apply
    return .ofResponse (.redirect (entityLocation entity))

end HeatingPortal.Web
