import HeatingPortal.Form.Check
import HeatingPortal.Plant.Snapshot
import HeatingPortal.Plant.SystemMode

/-!
# Showing forms

A form is shown with texts from the plant, or again with what was submitted and why it was
rejected. What is only shown always comes from the plant.
-/

namespace HeatingPortal.Form

open Number Settings Plant Text

/-! ### Filled forms -/

/-- What a field shows. -/
inductive Shown where
  | nothing
  | text (value : String)
  | code (value : Int64)
  | ticked (value : Bool)
deriving DecidableEq

/-- A field with what it shows. -/
structure FilledField where
  field : Field
  value : Shown
  /-- Why the field was rejected, if it was. -/
  error : Option String
deriving DecidableEq

/-- A form with what its fields show. -/
structure Filled where
  title : String
  valid : Bool
  fields : List FilledField
deriving DecidableEq

/-- What a choice shows: the code that a text spells, or else the text. -/
def shownChoice : Option String → Shown
  | none => .nothing
  | some raw =>
    match trimmedInt64? raw with
    | some code => .code code
    | none => .text raw

/-- What a kind of fields shows of a text. -/
def FieldKind.shown (raw : Option String) : FieldKind → Shown
  | .display | .decimal => .text (raw.getD "")
  | .choice _ => shownChoice raw
  | .checkbox => .ticked (checkCheckbox raw)

/-- A field with the text of its key and the reason of its rejection. -/
def Field.fill (texts : Texts) (rejections : Rejections) (field : Field) : FilledField :=
  ⟨field, field.kind.shown (texts.get? field.key), rejections.reason? field.key⟩

/-- Fills a form with texts; it is valid when nothing was rejected. -/
def fill (form : Form) (texts : Texts) (rejections : Rejections) : Filled where
  title := form.title
  valid := rejections.isEmpty
  fields := form.fields.map (Field.fill texts rejections)

/-- The text with which a field is shown again. -/
def Field.attempted? (live submission : Texts) (field : Field) : Option (String × String) :=
  ((if field.kind.isEditable then submission else live).get? field.key).map (field.key, ·)

/-- The texts with which a rejected form is shown again: what is editable as it was submitted,
and the rest as it is. -/
def attempted (form : Form) (live submission : Texts) : Texts :=
  form.fields.filterMap (Field.attempted? live submission)

/-! ### Texts of the plant -/

/-- The text that ticks a checkbox. -/
def tick : String :=
  "on"

/-- A ticked checkbox as texts; one that is not ticked has none. -/
def tickTexts (key : String) (ticked : Bool) : Texts :=
  if ticked then [(key, tick)] else []

/-- The texts of the system mode. -/
def systemTexts (composite : UInt8) : Texts :=
  (modeKey, ofInteger (primaryOf composite).toNat) ::
    tickTexts suppressKey (suppressOf composite)

/-- The texts of an entity. -/
def entityTexts (snapshot : Snapshot) : Texts :=
  [("name", snapshot.name), ("comfort", snapshot.setpoints.comfort.oneDecimal),
   ("eco", snapshot.setpoints.eco.oneDecimal), ("frost", snapshot.setpoints.frost.oneDecimal),
   (offsetKey, snapshot.offset.oneDecimal), (runModeKey, ofInt64 snapshot.currentMode)] ++
  tickTexts overrideKey snapshot.overrideActive

/-! ### JSON -/

/-- What a field shows. -/
def Shown.toJson : Shown → Json
  | nothing => .null
  | text value => .string value
  | code value => .integer value.toInt
  | ticked value => .bool value

/-- A filled field as an object; choices and the error only where there are some. -/
def FilledField.toJson (filled : FilledField) : Json :=
  .object
    ([("key", .string filled.field.key), ("label", .string filled.field.label),
      ("type", .string filled.field.kind.word), ("editable", .bool filled.field.kind.isEditable),
      ("value", filled.value.toJson)] ++
     (filled.field.kind.choices?.map fun choices => ("choices", choicesJson choices)).toList ++
     (filled.error.map fun reason => ("error", Json.string reason)).toList)

/-- A filled form as an object. -/
def Filled.toJson (filled : Filled) : Json :=
  .object
    [("title", .string filled.title), ("valid", .bool filled.valid),
     ("fields", .array (filled.fields.map FilledField.toJson))]

/-- A rejection as an object. -/
def Rejection.toJson (rejection : Rejection) : Json :=
  .object [("field", .string rejection.field), ("reason", .string rejection.reason)]

end HeatingPortal.Form
