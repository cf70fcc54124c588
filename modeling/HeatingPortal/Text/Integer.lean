import HeatingPortal.Text.Blank

/-!
# Integers written in decimal

An integer is one optional sign and one or more ASCII digits, with nothing before, between or
after. Codes and ids are 64-bit words, so their readers also refuse what does not fit.
-/

namespace HeatingPortal.Text

/-- The value of an ASCII digit. -/
def digitValue? (c : Char) : Option Nat :=
  if '0' ≤ c ∧ c ≤ '9' then some (c.toNat - '0'.toNat) else none

/-- The number that digits stand for after those already read. -/
def foldDigits (read : Nat) : List Char → Option Nat
  | [] => some read
  | c :: rest => (digitValue? c).bind fun digit => foldDigits (10 * read + digit) rest

/-- Reads one or more ASCII digits. -/
def natural? : List Char → Option Nat
  | [] => none
  | c :: rest => foldDigits 0 (c :: rest)

/-- Splits off one leading sign; the first part says whether it was a minus. -/
def splitSign : List Char → Bool × List Char
  | '+' :: rest => (false, rest)
  | '-' :: rest => (true, rest)
  | cs => (false, cs)

/-- Reads an optional sign and one or more ASCII digits. -/
def integer? (cs : List Char) : Option Int :=
  (natural? (splitSign cs).2).map fun n => if (splitSign cs).1 then -(n : Int) else n

/-- The first integer too large for a 64-bit word; its negative is the smallest one that fits. -/
def wordBound : Int :=
  9223372036854775808

/-- The 64-bit word of an integer in its range. -/
def word? (n : Int) : Option Int64 :=
  if -wordBound ≤ n ∧ n < wordBound then some (Int64.ofInt n) else none

/-- Reads an integer that fits a 64-bit word. -/
def int64? (text : String) : Option Int64 :=
  (integer? text.toList).bind word?

/-- Reads an integer that fits a 64-bit word, after trimming. -/
def trimmedInt64? (text : String) : Option Int64 :=
  int64? (trim text)

/-- Writes an integer in decimal, with a minus when it is negative. -/
def ofInteger (n : Int) : String :=
  match n with
  | .ofNat n => String.ofList (Nat.toDigits 10 n)
  | .negSucc n => String.ofList ('-' :: Nat.toDigits 10 (n + 1))

/-- Writes a 64-bit word in decimal. -/
def ofInt64 (n : Int64) : String :=
  ofInteger n.toInt

/-- A word survives the way through its integer. -/
theorem word?_toInt (n : Int64) : word? n.toInt = some n := by
  have low := n.le_toInt
  have high := n.toInt_lt
  rw [word?, if_pos ⟨low, high⟩, Int64.ofInt_toInt]

end HeatingPortal.Text
