import HeatingPortal.Text.Integer
import HeatingPortal.Text.Percent

/-!
# Other services and hosts

A request that the portal sends to another service, with what becomes of it, and the addresses
that hosts may have.
-/

namespace HeatingPortal.Wire

open Text

/-! ### Requests to other services -/

/-- A request to another service. -/
structure Outgoing where
  method : String
  path : String
  body : String
deriving DecidableEq

/-- What becomes of a request. -/
inductive Delivery where
  | answered (status : Nat) (body : String)
  | lost (reason : String)
deriving DecidableEq

/-- The address of a service without the slashes at its end. -/
def trimBase (base : String) : String :=
  String.ofList (base.toList.reverse.dropWhile (· = '/')).reverse

/-! ### Host addresses

A host's address in numbers is four decimal parts, or eight hexadecimal groups of which a run may
be left out once. The last two groups may be written as four decimal parts. -/

/-- A decimal part: at most three digits, below 256, and no zero before another digit. -/
def isDecimalPart (cs : List Char) : Bool :=
  cs.length ≤ 3 && (natural? cs).any (· < 256) && (cs.length = 1 || cs.head? ≠ some '0')

/-- Four decimal parts between points. -/
def isFourParts (cs : List Char) : Bool :=
  (pieces '.' cs).length = 4 && (pieces '.' cs).all isDecimalPart

/-- A hexadecimal digit. -/
def isHexDigit (c : Char) : Bool :=
  ('0' ≤ c && c ≤ '9') || ('a' ≤ c && c ≤ 'f') || ('A' ≤ c && c ≤ 'F')

/-- A hexadecimal group: up to four digits. -/
def isGroup (cs : List Char) : Bool :=
  !cs.isEmpty && cs.length ≤ 4 && cs.all isHexDigit

/-- How many groups the parts between colons stand for; four decimal parts at the end are two. -/
def groupCount? : List (List Char) → Option Nat
  | [] => some 0
  | [last] => if isGroup last then some 1 else if isFourParts last then some 2 else none
  | group :: rest => if isGroup group then (groupCount? rest).map (· + 1) else none

/-- How many groups a text stands for; the empty text has none. -/
def groups? (cs : List Char) : Option Nat :=
  if cs.isEmpty then some 0 else groupCount? (pieces ':' cs)

/-- The texts before and after the first two colons in a row. -/
def splitAtGap? : List Char → Option (List Char × List Char)
  | [] => none
  | ':' :: ':' :: rest => some ([], rest)
  | c :: rest => (splitAtGap? rest).map fun (front, back) => (c :: front, back)

/-- Eight groups, or fewer than eight around a gap before which no decimal part stands. -/
def isGroups (cs : List Char) : Bool :=
  match splitAtGap? cs with
  | none => groups? cs = some 8
  | some (front, back) =>
    match groups? front, groups? back with
    | some n, some m => n + m < 8 && !front.contains '.'
    | _, _ => false

/-- A text that is the address of a host. -/
def isAddress (host : String) : Bool :=
  isFourParts host.toList || isGroups host.toList

end HeatingPortal.Wire
