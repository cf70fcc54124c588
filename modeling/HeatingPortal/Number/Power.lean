/-!
# Powers

The powers of two and ten on which the ranges and the digits of numbers rest, and the powers of
words. A product of two words may be too large for a word. It is then none, and so is a power
that needs such a product.
-/

namespace HeatingPortal.Number

/-! ### Powers of two and ten -/

/-- A power of two. -/
def powerOfTwo (n : Nat) : Nat :=
  Nat.pow 2 n

/-- A power of ten. -/
def powerOfTen (n : Nat) : Nat :=
  Nat.pow 10 n

theorem powerOfTwo_pos (n : Nat) : 0 < powerOfTwo n :=
  Nat.two_pow_pos n

theorem powerOfTen_pos (n : Nat) : 0 < powerOfTen n :=
  Nat.pow_pos (by decide)

/-! ### Checked powers

A product is taken for each binary digit of the exponent, so that a large exponent is
no long computation. -/

/-- The product of two words, if it fits a word. -/
def checkedProduct (first second : UInt64) : Option UInt64 :=
  if first.toNat * second.toNat < UInt64.size then some (first * second) else none

/-- A word times the power that the last binary digit of an exponent asks for. -/
def timesLastDigit (held base : UInt64) (exponent : UInt32) : Option UInt64 :=
  if exponent % 2 = 1 then checkedProduct held base else some held

/-- A word times a power, digit by digit of the exponent. The base is not squared behind the last
digit, where its square may not fit although the power does. -/
def timesPower (held base : UInt64) (exponent : UInt32) : Option UInt64 :=
  if exponent = 0 then some held
  else if exponent = 1 then timesLastDigit held base exponent
  else
    (timesLastDigit held base exponent).bind fun held =>
      (checkedProduct base base).bind fun square => timesPower held square (exponent / 2)
termination_by exponent.toNat
decreasing_by
  have hpos : exponent.toNat ≠ 0 := fun h => ‹exponent ≠ 0› (UInt32.toNat_inj.mp h)
  simp only [UInt32.toNat_div, UInt32.reduceToNat]
  omega

/-- The power of a word, if it fits a word. -/
def checkedPower (base : UInt64) (exponent : UInt32) : Option UInt64 :=
  timesPower 1 base exponent

end HeatingPortal.Number
