import HeatingPortal.Number.Power

/-!
# Double-precision numbers

A finite double is a whole number of units of `2⁻¹⁰⁷⁴` of which at most 53 leading bits are used,
so its value is an exact natural number of units and a sign. Rounding takes the nearest such
number, and of two equally near ones the one with the even last bit.
-/

namespace HeatingPortal.Number

/-! ### Rounding -/

/-- The whole number nearest to `num / den`, the even one of two equally near. -/
def nearestEven (num den : Nat) : Nat :=
  let low := num / den
  let twice := 2 * (num % den)
  if twice < den ∨ (twice = den ∧ low % 2 = 0) then low else low + 1

/-- The place of the point in a number of units, in bits. -/
def pointBits : Nat :=
  1074

/-- The number of units in one. -/
def unitsPerOne : Nat :=
  powerOfTwo pointBits

/-- The units between neighbouring doubles at a magnitude: 53 leading bits are kept. -/
def spacing (units : Nat) : Nat :=
  powerOfTwo (units.log2 - 52)

/-- The first magnitude beyond the finite doubles, `2¹⁰²⁴` in units. -/
def tooLarge : Nat :=
  powerOfTwo (1024 + pointBits)

theorem unitsPerOne_pos : 0 < unitsPerOne :=
  powerOfTwo_pos pointBits

theorem tooLarge_pos : 0 < tooLarge :=
  powerOfTwo_pos (1024 + pointBits)

/-- A number of units is a magnitude when its spacing divides it and it is not too large. -/
def IsMagnitude (units : Nat) : Prop :=
  units % spacing units = 0 ∧ units < tooLarge

instance (units : Nat) : Decidable (IsMagnitude units) :=
  inferInstanceAs (Decidable (_ ∧ _))

/-- The absolute value of a finite double. -/
structure Magnitude where
  /-- How many units of `2⁻¹⁰⁷⁴` it is. -/
  units : Nat
  sound : IsMagnitude units
deriving DecidableEq

/-- The multiple of the spacing nearest to `num / den` units. -/
def roundedUnits (num den : Nat) : Nat :=
  let step := spacing (num / den)
  nearestEven num (den * step) * step

/-- The double nearest to `num / den` units, unless that is too large. -/
def Magnitude.round? (num den : Nat) : Option Magnitude :=
  if sound : IsMagnitude (roundedUnits num den) then some ⟨roundedUnits num den, sound⟩ else none

/-- The magnitude zero. -/
def Magnitude.zero : Magnitude :=
  ⟨0, Nat.zero_mod _, tooLarge_pos⟩

/-! ### Doubles -/

/-- A double-precision number; zeros keep their sign, and all NaNs are one. -/
inductive Binary64 where
  | nan
  | infinite (negative : Bool)
  | finite (negative : Bool) (magnitude : Magnitude)
deriving DecidableEq

namespace Binary64

/-- Neither infinite nor NaN. -/
def isFinite : Binary64 → Bool
  | finite _ _ => true
  | _ => false

/-- The double nearest to `±(num / den)` units; beyond the finite ones it is infinite. -/
def ofUnits (negative : Bool) (num den : Nat) : Binary64 :=
  match Magnitude.round? num den with
  | some magnitude => finite negative magnitude
  | none => infinite negative

/-- The double nearest to `± digits · 10 ^ exponent`.

An exponent far outside the range decides the result before any power is computed: a number of at
least `10⁴⁰⁰` is infinite, and one below `10⁻³⁹⁹` is zero. -/
def ofDecimal (negative : Bool) (digits : Nat) (exponent : Int) : Binary64 :=
  if digits = 0 then finite negative .zero
  else if 400 ≤ exponent then infinite negative
  else if exponent + digits.log2 < -400 then finite negative .zero
  else if 0 ≤ exponent then ofUnits negative (digits * powerOfTen exponent.toNat * unitsPerOne) 1
  else ofUnits negative (digits * unitsPerOne) (powerOfTen (-exponent).toNat)

/-- The double nearest to an integer. -/
def ofInt (n : Int) : Binary64 :=
  ofDecimal (n < 0) n.natAbs 0

end Binary64

end HeatingPortal.Number
