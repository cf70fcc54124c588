import HeatingPortal.Plant.Entity
import HeatingPortal.Text.Percent
import HeatingPortal.Web.Request
import HeatingPortal.Web.Target

/-!
# Routes

The path of a target decides what a request is about. A path is matched as it was sent; only the
id of an entity is decoded, and not before the route is known.
-/

namespace HeatingPortal.Web

open Plant

/-- What a request is about. -/
inductive Route where
  /-- The system mode. -/
  | system
  /-- All visible entities of a kind. -/
  | entities (kind : Kind)
  /-- One entity, by an id that is not decoded yet. -/
  | entity (kind : Kind) (segment : String)
  /-- The manifest of the portal as an application. -/
  | manifest
  /-- Whether the portal works. -/
  | status
deriving DecidableEq

/-- The kind whose entities have a collection. -/
def collectionKind? (collection : List Char) : Option Kind :=
  Kind.all.find? fun kind => kind.collection.toList = collection

namespace Route

/-- The route of the parts of a path after its first slash. -/
def ofParts? : List (List Char) → Option Route
  | [[]] => some system
  | [part] =>
    if part = "manifest.json".toList then some manifest
    else (collectionKind? part).map entities
  | [part, id] =>
    if part = "api".toList ∧ id = "status".toList then some status
    else if id.isEmpty then none
    else (collectionKind? part).map fun kind => entity kind (String.ofList id)
  | _ => none

/-- The route of a target. -/
def ofTarget? (target : String) : Option Route :=
  match Text.pieces '/' (pathOf target) with
  | [] :: parts => ofParts? parts
  | _ => none

/-- Whether forms can be submitted to a route. -/
def takesForms : Route → Bool
  | system | entity .. => true
  | entities _ | manifest | status => false

/-- Whether a route answers a method. -/
def allows (route : Route) : Method → Bool
  | .get | .head => true
  | .post => route.takesForms
  | .other => false

end Route

end HeatingPortal.Web
