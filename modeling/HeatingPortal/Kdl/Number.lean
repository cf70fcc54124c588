import HeatingPortal.Kdl.Character
import HeatingPortal.Kdl.Document

/-!
# Numbers of KDL

A number is an optional sign and digits of base ten, or of another base after `0x`, `0o` or `0b`,
whose letter may be a capital; underscores may follow the first digit. With a point or an
exponent it is a real number, and else an integer. The digits before the point, after it and in
the exponent each make a number of at most 127 bits, and so do those of an integer.
-/

namespace HeatingPortal.Kdl

open Number

/-- The value of a digit in some base up to sixteen. -/
def digitValue? (base : Nat) (c : Char) : Option Nat :=
  let value :=
    if isDigit c then c.toNat - '0'.toNat
    else if 'a' ≤ c && c ≤ 'f' then c.toNat - 'a'.toNat + 10
    else if 'A' ≤ c && c ≤ 'F' then c.toNat - 'A'.toNat + 10
    else base
  if value < base then some value else none

/-- The first number too large for a run of digits. -/
def digitsBound : Nat :=
  powerOfTwo 127

/-- Reads a run of digits that begins with a digit and may then hold underscores; gives the
value, unless it is too large, and the number of digits. -/
def digits? (base : Nat) : List Char → Option (Nat × Nat)
  | [] => none
  | first :: rest =>
    ((digitValue? base first).bind fun value =>
      rest.foldlM
        (fun (value, count) c =>
          if c = '_' then some (value, count)
          else (digitValue? base c).map fun digit => (base * value + digit, count + 1))
        (value, 1)).filter (·.1 < digitsBound)

/-- An integer with its sign. -/
def signedInteger (negative : Bool) (value : Nat) : Value :=
  .integer (if negative then -(value : Int) else value)

/-- Splits at the first character that satisfies a condition, which belongs to neither part. -/
def splitAt? (p : Char → Bool) (cs : List Char) : List Char × Option (List Char) :=
  (cs.takeWhile (!p ·),
   match cs.dropWhile (!p ·) with
   | [] => none
   | _ :: rest => some rest)

/-- The exponent of a real number. -/
def exponent? (cs : List Char) : Option Int :=
  let (negative, cs) := Text.splitSign cs
  (digits? 10 cs).map fun (value, _) => if negative then -(value : Int) else value

/-- Reads a number of base ten without its sign. -/
def decimal? (negative : Bool) (cs : List Char) : Option Value :=
  match splitAt? (fun c => c = 'e' || c = 'E') cs with
  | (mantissa, exponent) =>
    match splitAt? (· = '.') mantissa with
    | (whole, fraction) =>
      (digits? 10 whole).bind fun (value, _) =>
        match fraction, exponent with
        | none, none => some (signedInteger negative value)
        | _, _ => do
          let power ← exponent.elim (some 0) exponent?
          let (digits, places) ← match fraction with
            | none => some (value, 0)
            | some fraction =>
              (digits? 10 fraction).map fun (part, count) =>
                (value * powerOfTen count + part, count)
          return .real (.ofDecimal negative digits (power - places))

/-- The base that a letter after a zero announces. -/
def base? : Char → Option Nat
  | 'x' | 'X' => some 16
  | 'o' | 'O' => some 8
  | 'b' | 'B' => some 2
  | _ => none

/-- Splits off a zero and the letter of a base. -/
def splitBase? : List Char → Option (Nat × List Char)
  | '0' :: letter :: rest => (base? letter).map fun base => (base, rest)
  | _ => none

/-- Reads a number. -/
def number? (cs : List Char) : Option Value :=
  match Text.splitSign cs with
  | (negative, rest) =>
    match splitBase? rest with
    | some (base, digits) => (digits? base digits).map (signedInteger negative ·.1)
    | none => decimal? negative rest

end HeatingPortal.Kdl
