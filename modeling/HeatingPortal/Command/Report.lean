import HeatingPortal.Caller.Context
import HeatingPortal.Web.Page

/-!
# Reports on settings

What `config check` and `config resolve` tell: the keys of the settings, and what a caller gets
from them and can reach. Every report can be written as JSON and for humans.
-/

namespace HeatingPortal.Command

open Caller Plant Settings Text

/-- A report in its two forms. -/
structure Report where
  json : Json
  /-- The lines for humans. -/
  lines : List String

/-- The text of a report. -/
def Report.text (report : Report) (human : Bool) : String :=
  if human then String.intercalate "\n" report.lines else report.json.write

/-! ### Checked settings -/

/-- The report on settings that have passed the check. -/
def checked (path : String) (settings : Settings) : Report where
  json := .object
    [("path", .string path), ("valid", .bool true), ("version", .integer settings.version.toInt),
     ("keys", .array (settings.keys.map .string)),
     ("admin_configured", .bool (settings.nonemptyText? adminName).isSome)]
  lines :=
    ["Configuration OK: " ++ path, "  version: " ++ ofInt64 settings.version,
     "  admin: " ++ (if (settings.nonemptyText? adminName).isSome then "configured" else "none"),
     "  keys (" ++ ofInteger settings.size ++ "):"] ++ settings.keys.map ("    " ++ ·)

/-! ### Resolved settings -/

/-- Where a caller finds the form of the system mode, if there is one. -/
def reachableMode (settings : Settings) (caller : Identity) : List String :=
  match systemModes settings caller with
  | .ok _ => ["/"]
  | .error _ => []

/-- Where a caller finds the entities of a kind. -/
def reachableEntities (settings : Settings) (caller : Identity) (kind : Kind) : List String :=
  match EntityContext.of settings caller kind with
  | .ok context => context.visible.map Web.entityLocation
  | .error _ => []

/-- All that a caller can reach. -/
def reachable (settings : Settings) (caller : Identity) : List String :=
  reachableMode settings caller ++ Kind.all.flatMap (reachableEntities settings caller)

/-- What a pair of keys gives a caller, as an object. -/
def pairJson (settings : Settings) (caller : Identity) (pair : KeyPair) : Json :=
  let resolved := resolve settings caller pair
  .object
    [("privileged_key", .string pair.privileged), ("standard_key", .string pair.standard),
     ("source", .ofOption (fun r => .string r.source.word) resolved),
     ("value", .ofOption (·.value.toJson) resolved)]

/-- What a pair of keys gives a caller, in a line. -/
def pairLine (settings : Settings) (caller : Identity) (pair : KeyPair) : String :=
  "  " ++ pair.standard ++ ": " ++
    match resolve settings caller pair with
    | some resolved => resolved.value.toJson.write ++ " [" ++ resolved.source.word ++ "]"
    | none => "disabled"

/-- All that a caller can reach, in a line. -/
def reachableLine (settings : Settings) (caller : Identity) : String :=
  match reachable settings caller with
  | [] => "Reachable: nothing"
  | locations => "Reachable: " ++ String.intercalate ", " locations

/-- The report on what a caller gets from the settings. -/
def resolved (settings : Settings) (caller : Identity) : Report where
  json := .object
    [("identity", .ofOption .string caller.name?),
     ("tier", .string (Tier.of settings caller).word),
     ("app_title", .ofOption .string (settings.text? appTitle)),
     ("pairs", .array (KeyPair.all.map (pairJson settings caller))),
     ("reachable", .array ((reachable settings caller).map .string))]
  lines :=
    ("Identity: " ++ caller.describe ++ " (" ++ (Tier.of settings caller).word ++ ")") ::
      KeyPair.all.map (pairLine settings caller) ++ [reachableLine settings caller]

end HeatingPortal.Command
