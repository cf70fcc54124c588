import HeatingPortal.Text.Json

/-!
# Values of the settings

A key holds a scalar, a list of choices or a list of ids. The accessors decide what may stand for
what: a single integer is a list of one id, and an empty list is also an empty list of choices.
-/

namespace HeatingPortal.Settings

open Number Text

/-- A selectable code with its label. -/
structure Choice where
  code : Int64
  label : String
deriving DecidableEq

/-- A single setting. -/
inductive Scalar where
  | integer (value : Int64)
  | real (value : Binary64)
  | bool (value : Bool)
  | text (value : String)
deriving DecidableEq

/-- What a key holds. -/
inductive Value where
  | scalar (value : Scalar)
  | choices (list : List Choice)
  | ids (list : List Int64)
deriving DecidableEq

namespace Value

/-- The text of a text scalar. -/
def text? : Value → Option String
  | scalar (.text value) => some value
  | _ => none

/-- The choices of a list of choices or of an empty list. -/
def choices? : Value → Option (List Choice)
  | choices list => some list
  | ids [] => some []
  | _ => none

/-- The ids of a list, or the one id that a single integer is. -/
def ids? : Value → Option (List Int64)
  | ids list => some list
  | scalar (.integer id) => some [id]
  | _ => none

/-- A value that holds nothing usable: an empty text or list. -/
def isEmpty : Value → Bool
  | scalar (.text value) => value.isEmpty
  | scalar _ => false
  | choices list => list.isEmpty
  | ids list => list.isEmpty

end Value

/-! ### JSON -/

/-- A choice as an object of code and label. -/
def Choice.toJson (choice : Choice) : Json :=
  .object [("code", .integer choice.code.toInt), ("label", .string choice.label)]

/-- A list of choices. -/
def choicesJson (list : List Choice) : Json :=
  .array (list.map Choice.toJson)

/-- A scalar as itself. -/
def Scalar.toJson : Scalar → Json
  | integer value => .integer value.toInt
  | real value => .number value
  | bool value => .bool value
  | text value => .string value

/-- A scalar as itself, a list as an array. -/
def Value.toJson : Value → Json
  | scalar value => value.toJson
  | choices list => choicesJson list
  | ids list => .array (list.map fun id => .integer id.toInt)

end HeatingPortal.Settings
