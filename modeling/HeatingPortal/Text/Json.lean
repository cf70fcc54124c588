import HeatingPortal.Number.Decimal

/-!
# JSON documents

A document is written without spaces, its objects in the order of their fields. A number that is
not finite has no JSON form and is written as `null`.
-/

namespace HeatingPortal.Text

open Number

/-- A JSON document. -/
inductive Json where
  | null
  | bool (value : Bool)
  | integer (value : Int)
  | number (value : Binary64)
  | string (value : String)
  | array (items : List Json)
  | object (fields : List (String × Json))

namespace Json

/-- The document of an optional value; nothing is `null`. -/
def ofOption {α : Type} (f : α → Json) : Option α → Json
  | none => null
  | some value => f value

/-- What stands for a character inside a JSON string. -/
def stringChar (c : Char) : List Char :=
  match c with
  | '"' => ['\\', '"']
  | '\\' => ['\\', '\\']
  | '\n' => ['\\', 'n']
  | '\r' => ['\\', 'r']
  | '\t' => ['\\', 't']
  | '\x08' => ['\\', 'b']
  | '\x0c' => ['\\', 'f']
  | c =>
    if c.toNat < 0x20 then
      ['\\', 'u', '0', '0', Nat.digitChar (c.toNat / 16), Nat.digitChar (c.toNat % 16)]
    else [c]

/-- The text of a JSON string. -/
def writeString (text : String) : String :=
  String.ofList ('"' :: (text.toList.flatMap stringChar ++ ['"']))

/-- The text of a number, `null` when it is not finite. -/
def writeNumber (value : Binary64) : String :=
  if value.isFinite then jsonLayout.write value else "null"

mutual

/-- The text of a document. -/
def write : Json → String
  | null => "null"
  | bool value => if value then "true" else "false"
  | integer value => Text.ofInteger value
  | number value => writeNumber value
  | string value => writeString value
  | array items => "[" ++ String.intercalate "," (writeItems items) ++ "]"
  | object fields => "\x7b" ++ String.intercalate "," (writeFields fields) ++ "\x7d"

/-- The texts of the items of an array. -/
def writeItems : List Json → List String
  | [] => []
  | item :: rest => item.write :: writeItems rest

/-- The texts of the fields of an object. -/
def writeFields : List (String × Json) → List String
  | [] => []
  | (name, value) :: rest => (writeString name ++ ":" ++ value.write) :: writeFields rest

end

end Json

end HeatingPortal.Text
