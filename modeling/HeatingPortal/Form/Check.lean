import HeatingPortal.Form.Field
import HeatingPortal.Number.Decimal

/-!
# Checking submissions

Every editable field is checked on its own, from the text under its key alone. A
submission is accepted when all its fields are, and rejected otherwise with the reason of
each field that is not.
-/

namespace HeatingPortal.Form

open Number Settings

/-! ### Single fields -/

/-- The reason for a text that is no decimal number. -/
def notDecimal : String :=
  "not a decimal number"

/-- The reason for a choice where nothing can be chosen. -/
def noChoices : String :=
  "no choices available"

/-- The reason for a missing choice. -/
def required : String :=
  "required"

/-- The reason for a choice that is not on offer. -/
def notAllowed : String :=
  "not an allowed choice"

/-- A decimal number without blanks or an exponent, unless it is too large
for a finite double. -/
def checkDecimal (raw : Option String) : Except String Binary64 :=
  match (Binary64.ofPlainDecimal? (raw.getD "")).filter (·.isFinite) with
  | some value => .ok value
  | none => .error notDecimal

/-- The code of a choice on offer; blanks around it do not matter. -/
def checkChoice (raw : Option String) (choices : List Choice) : Except String Int64 :=
  let text := Text.trim (raw.getD "")
  if choices.isEmpty then .error noChoices
  else if text.isEmpty then .error required
  else
    match Text.int64? text with
    | some code => if choices.any (·.code = code) then .ok code else .error notAllowed
    | none => .error notAllowed

/-- The words that tick a checkbox. -/
def tickWords : List String :=
  ["on", "true", "1", "yes"]

/-- Whether a text ticks a checkbox; case and blanks do not matter. -/
def checkCheckbox (raw : Option String) : Bool :=
  match raw with
  | none => false
  | some text => tickWords.contains ((Text.trim text).map Char.toLower)

/-! ### Whole submissions -/

/-- A value that a field accepted. -/
inductive FieldValue where
  | decimal (value : Binary64)
  | choice (code : Int64)
  | checked (value : Bool)
deriving DecidableEq

/-- The accepted values by the keys of their fields. -/
abbrev Values :=
  List (String × FieldValue)

namespace Values

/-- The number under a key. -/
def decimal? (values : Values) (key : String) : Option Binary64 :=
  match values.lookup key with
  | some (.decimal value) => some value
  | _ => none

/-- The code under a key. -/
def choice? (values : Values) (key : String) : Option Int64 :=
  match values.lookup key with
  | some (.choice code) => some code
  | _ => none

/-- Whether the checkbox under a key is ticked. -/
def isChecked (values : Values) (key : String) : Bool :=
  match values.lookup key with
  | some (.checked value) => value
  | _ => false

end Values

/-- Checks a text as the value of a kind of fields; what is only shown is not checked. -/
def FieldKind.check (raw : Option String) : FieldKind → Option (Except String FieldValue)
  | .display => none
  | .decimal => some ((checkDecimal raw).map .decimal)
  | .choice choices => some ((checkChoice raw choices).map .choice)
  | .checkbox => some (.ok (.checked (checkCheckbox raw)))

/-- Checks the text of a field in a submission. -/
def Field.check (submission : Texts) (field : Field) : Option (Except String FieldValue) :=
  field.kind.check (submission.get? field.key)

/-- The accepted value of a field, with its key. -/
def Field.value? (submission : Texts) (field : Field) : Option (String × FieldValue) :=
  match field.check submission with
  | some (.ok value) => some (field.key, value)
  | _ => none

/-- The rejection of a field. -/
def Field.rejection? (submission : Texts) (field : Field) : Option Rejection :=
  match field.check submission with
  | some (.error reason) => some ⟨field.key, reason⟩
  | _ => none

/-- The rejections of a submission, in the order of the fields. -/
def rejections (form : Form) (submission : Texts) : Rejections :=
  form.fields.filterMap (Field.rejection? submission)

/-- The values of a submission, or why it is rejected. -/
def validate (form : Form) (submission : Texts) : Except Rejections Values :=
  if (form.rejections submission).isEmpty then
    .ok (form.fields.filterMap (Field.value? submission))
  else
    .error (form.rejections submission)

end HeatingPortal.Form
