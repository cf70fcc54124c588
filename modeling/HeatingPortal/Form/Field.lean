import HeatingPortal.Caller.Context

/-!
# Forms

A form is a title and a list of fields. It depends on what the caller may choose and on nothing
else; its values come from outside, as texts by the key of their field.
-/

namespace HeatingPortal.Form

open Settings Plant

/-! ### Texts by key -/

/-- Texts by key; of equal keys the first counts. -/
abbrev Texts :=
  List (String × String)

/-- The text of a key. -/
def Texts.get? (texts : Texts) (key : String) : Option String :=
  texts.lookup key

/-- The texts of pairs of which the last counts. -/
def Texts.ofPairs (pairs : List (String × String)) : Texts :=
  pairs.reverse

/-! ### Fields -/

/-- What a field holds. -/
inductive FieldKind where
  /-- A text that is only shown. -/
  | display
  | decimal
  | choice (choices : List Choice)
  | checkbox
deriving DecidableEq

namespace FieldKind

/-- The name of a kind of fields. -/
def word : FieldKind → String
  | display => "display"
  | decimal => "decimal"
  | choice _ => "choice"
  | checkbox => "checkbox"

/-- Whether a submission may change the field. -/
def isEditable : FieldKind → Bool
  | display => false
  | _ => true

/-- The choices of a field that has some. -/
def choices? : FieldKind → Option (List Choice)
  | choice choices => some choices
  | _ => none

end FieldKind

/-- A field of a form. -/
structure Field where
  key : String
  label : String
  kind : FieldKind
deriving DecidableEq

/-! ### Keys -/

/-- The key of the system mode. -/
def modeKey : String :=
  "sysmode"

/-- The key of the suppress flag. -/
def suppressKey : String :=
  "suppress"

/-- The key of the offset. -/
def offsetKey : String :=
  "offset"

/-- The key of the run mode. -/
def runModeKey : String :=
  "runmode"

/-- The key of the override. -/
def overrideKey : String :=
  "override"

end HeatingPortal.Form

namespace HeatingPortal

open Form Settings Plant Caller

/-- A form for one caller. -/
structure Form where
  title : String
  fields : List Form.Field
deriving DecidableEq

namespace Form

/-- The form of the system mode. -/
def system (modes : List Choice) : Form where
  title := "System"
  fields :=
    [⟨modeKey, "Mode", .choice modes⟩, ⟨suppressKey, "Suppress", .checkbox⟩]

/-- The fields of the run mode, where overrides are on. -/
def runModeFields : Option (List Choice) → List Field
  | none => []
  | some modes =>
    [⟨runModeKey, "Run mode", .choice modes⟩, ⟨overrideKey, "Override", .checkbox⟩]

/-- The title of the form of an entity. -/
def entityTitle : Kind → String
  | .circuit => "Heating circuit"
  | .tank => "Hot-water tank"

/-- The form of an entity. -/
def entity (kind : Kind) (runModes : Option (List Choice)) : Form where
  title := entityTitle kind
  fields :=
    [⟨"name", "Name", .display⟩, ⟨"comfort", "Comfort", .display⟩, ⟨"eco", "Eco", .display⟩,
     ⟨"frost", "Frost-free", .display⟩, ⟨offsetKey, "Offset", .decimal⟩] ++
     runModeFields runModes

/-- The form of a context. -/
def ofContext : Context → Form
  | .system modes => system modes
  | .entity context => entity context.kind context.runModes

/-- Whether a form has a field of a key. -/
def hasField (form : Form) (key : String) : Bool :=
  form.fields.any (·.key = key)

end Form

end HeatingPortal
