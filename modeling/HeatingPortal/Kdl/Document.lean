import HeatingPortal.Number.Decimal
import HeatingPortal.Text.Quoted

/-!
# KDL documents

A document is a list of nodes. A node has a name, entries (arguments, and properties by name) and
perhaps a block of child nodes. Type annotations, comments and layout are not part of the tree.
-/

namespace HeatingPortal.Kdl

open Number

/-- The value of an argument or a property. -/
inductive Value where
  | text (value : String)
  | integer (value : Int)
  | real (value : Binary64)
  | bool (value : Bool)
  | null
deriving DecidableEq

/-- How a value is named in a message: its sort, and the value in parentheses. -/
def Value.describe : Value → String
  | text value => "String(" ++ Text.quoted value ++ ")"
  | integer value => "Integer(" ++ Text.ofInteger value ++ ")"
  | real value => "Float(" ++ messageLayout.write value ++ ")"
  | bool true => "Bool(true)"
  | bool false => "Bool(false)"
  | null => "Null"

/-- An argument, or a property when it has a name. -/
structure Entry where
  name : Option String
  value : Value
deriving DecidableEq

/-- A node of a document. -/
structure Node where
  name : String
  entries : List Entry
  /-- The block of child nodes; an empty block differs from none. -/
  children : Option (List Node)

/-- A document: its nodes in order. -/
abbrev Document :=
  List Node

end HeatingPortal.Kdl
