import HeatingPortal.Number.Binary64
import HeatingPortal.Text.Integer

/-!
# Decimal text of doubles

The digits of a double are the fewest that read back to it, and of those the nearest to its exact
value. The rest is a matter of a layout: which of two equally near decimals is written, which
exponents are written positionally, and how the exponent is written otherwise. A form shows one
decimal instead, rounded from the exact value.
-/

namespace HeatingPortal.Number

/-! ### Shortest digits -/

/-- The decimal number `digits · 10 ^ exponent`. -/
structure Decimal where
  digits : Nat
  exponent : Int
deriving DecidableEq

/-- The exponent of the first digit of a positive number of units. -/
def leadingExponent (units : Nat) : Int :=
  ((Nat.toDigits 10 (units * powerOfTen 400 / unitsPerOne)).length : Int) - 401

/-- A decimal number reads back to a magnitude when that is the double nearest to it. -/
def Decimal.readsBack (decimal : Decimal) (magnitude : Magnitude) : Bool :=
  Binary64.ofDecimal false decimal.digits decimal.exponent = .finite false magnitude

/-- Which of two equally near decimals is taken. -/
inductive Tie where
  /-- The one with the even last digit. -/
  | even
  /-- The greater one. -/
  | up
deriving DecidableEq

/-- The whole number nearest to `num / den`. -/
def Tie.nearest : Tie → Nat → Nat → Nat
  | even, num, den => nearestEven num den
  | up, num, den => (2 * num + den) / (2 * den)

/-- Units and divisor of a magnitude counted in steps of `10 ^ exponent`. -/
def gridQuotient (units : Nat) (exponent : Int) : Nat × Nat :=
  if 0 ≤ exponent then (units, unitsPerOne * powerOfTen exponent.toNat)
  else (units * powerOfTen (-exponent).toNat, unitsPerOne)

/-- Of the two neighbours on the grid of `10 ^ exponent`, the nearer one that reads back. -/
def gridDecimal? (tie : Tie) (magnitude : Magnitude) (exponent : Int) : Option Decimal :=
  let (num, den) := gridQuotient magnitude.units exponent
  let near := tie.nearest num den
  let far := if near = num / den then near + 1 else near - 1
  ([near, far].map (Decimal.mk · exponent)).find? (·.readsBack magnitude)

/-- The first grid, from coarse to fine, that has a point reading back. -/
def firstDecimal? (tie : Tie) (magnitude : Magnitude) (leading : Int) : List Nat → Option Decimal
  | [] => none
  | more :: rest =>
    (gridDecimal? tie magnitude (leading - more)).or (firstDecimal? tie magnitude leading rest)

/-- Moves zeros from the end of the digits into the exponent, at most `limit` of them. -/
def Decimal.normalize (decimal : Decimal) : Nat → Decimal
  | 0 => decimal
  | limit + 1 =>
    if decimal.digits % 10 = 0 then normalize ⟨decimal.digits / 10, decimal.exponent + 1⟩ limit
    else decimal

/-- The fewest digits that read back to a positive magnitude; seventeen always do. -/
def Magnitude.shortest (tie : Tie) (magnitude : Magnitude) : Decimal :=
  let leading := leadingExponent magnitude.units
  ((firstDecimal? tie magnitude leading (List.range 17)).getD ⟨0, 0⟩).normalize 17

/-! ### Layouts -/

/-- How the digits of a double are laid out. -/
structure Layout where
  /-- Which of two equally near decimals is written. -/
  tie : Tie
  /-- The least exponent of the first digit written positionally. -/
  positionalFrom : Int
  /-- The greatest exponent of the first digit written positionally. -/
  positionalTo : Int
  /-- Whether a positive exponent carries a plus sign. -/
  plus : Bool

namespace Layout

/-- The digits of a positional number whose first digit has a given exponent; a point and at
least one digit after it are always written. -/
def positional (digits : List Char) (leading : Int) : List Char :=
  if leading < 0 then
    '0' :: '.' :: (List.replicate (-leading - 1).toNat '0' ++ digits)
  else
    let whole := leading.toNat + 1
    let padded := digits ++ List.replicate (whole - digits.length) '0'
    let fraction := padded.drop whole
    padded.take whole ++ '.' :: (if fraction.isEmpty then ['0'] else fraction)

/-- One digit, the others after a point, and the exponent after an `e`. -/
def scientific (layout : Layout) (digits : List Char) (leading : Int) : List Char :=
  let mantissa := match digits with
    | first :: second :: rest => first :: '.' :: second :: rest
    | _ => digits
  let mark := if layout.plus && 0 ≤ leading then ['e', '+'] else ['e']
  mantissa ++ mark ++ (Text.ofInteger leading).toList

/-- The digits of a magnitude in this layout. -/
def magnitude (layout : Layout) (value : Magnitude) : List Char :=
  if value.units = 0 then "0.0".toList
  else
    let shortest := value.shortest layout.tie
    let digits := Nat.toDigits 10 shortest.digits
    let leading := shortest.exponent + digits.length - 1
    if layout.positionalFrom ≤ leading && leading ≤ layout.positionalTo then
      positional digits leading
    else
      layout.scientific digits leading

/-- Puts a minus in front of a negative number. -/
def signed (negative : Bool) (cs : List Char) : String :=
  String.ofList (if negative then '-' :: cs else cs)

/-- The text of a double; the infinities are `inf` and `-inf`. -/
def write (layout : Layout) : Binary64 → String
  | .nan => "NaN"
  | .infinite negative => signed negative "inf".toList
  | .finite negative value => signed negative (layout.magnitude value)

end Layout

/-- The layout of numbers in a JSON document. -/
def jsonLayout : Layout where
  tie := .even
  positionalFrom := -5
  positionalTo := 15
  plus := true

/-- The layout of numbers quoted in a message. -/
def messageLayout : Layout where
  tie := .up
  positionalFrom := -4
  positionalTo := 15
  plus := false

/-! ### One decimal -/

/-- The number of tenths nearest to a magnitude. -/
def Magnitude.tenths (magnitude : Magnitude) : Nat :=
  nearestEven (magnitude.units * 10) unitsPerOne

/-- The text of a number of tenths. -/
def tenthsText (tenths : Nat) : List Char :=
  Nat.toDigits 10 (tenths / 10) ++ '.' :: Nat.toDigits 10 (tenths % 10)

/-- The text of a double with one decimal; the sign of a negative number that
rounds to zero stays. -/
def Binary64.oneDecimal : Binary64 → String
  | .nan => "NaN"
  | .infinite negative => Layout.signed negative "inf".toList
  | .finite negative value => Layout.signed negative (tenthsText value.tenths)

/-! ### Reading -/

/-- Reads an optional sign, one or more digits, and optionally a point with
zero or more digits. -/
def Binary64.ofPlainDecimal? (text : String) : Option Binary64 :=
  let (negative, cs) := Text.splitSign text.toList
  let whole := cs.takeWhile (· != '.')
  let fraction := (cs.dropWhile (· != '.')).drop 1
  (Text.natural? whole).bind fun value =>
    (Text.foldDigits value fraction).map fun digits =>
      ofDecimal negative digits (-(fraction.length : Int))

end HeatingPortal.Number
