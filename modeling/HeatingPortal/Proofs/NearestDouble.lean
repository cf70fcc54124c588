import HeatingPortal.Proofs.NearestMagnitude

/-!
# The nearest double

A decimal below the midpoint of the greatest finite double and `2¹⁰²⁴` becomes the double nearest
to it, with the sign written, and any other one becomes infinite. The shortcuts for exponents far
outside the range agree with this.

Zero is a double with either sign, so it takes the number and the sign to
determine the nearest double.
-/

namespace HeatingPortal.Number

/-! ### Decimals -/

/-- The midpoint between the greatest finite double and `2¹⁰²⁴`, where the infinities begin. -/
def finiteBound : ℚ :=
  2 ^ 1024 - 2 ^ 970

lemma isMagnitude_roundedUnits_iff (num : ℕ) {den : ℕ} (hden : 0 < den) :
    IsMagnitude (roundedUnits num den) ↔ (num / den / unitsPerOne : ℚ) < finiteBound := by
  have hpos : (0 : ℚ) < 2 ^ pointBits := by positivity
  have hend : 1024 + pointBits = 970 + pointBits + 54 := by omega
  have hmultiple : roundedUnits num den % spacing (roundedUnits num den) = 0 :=
    Nat.mod_eq_zero_of_dvd (spacing_dvd_roundedUnits num den)
  rw [IsMagnitude, and_iff_right hmultiple, tooLarge_eq, hend,
    roundedUnits_lt_two_pow_iff num hden, ← hend, unitsPerOne_eq, Nat.cast_pow, Nat.cast_ofNat,
    div_lt_iff₀ hpos, finiteBound, sub_mul, ← pow_add, ← pow_add]

lemma finiteBound_le_pow {power : ℕ} (h : 400 ≤ power) : finiteBound ≤ 10 ^ power := by
  have hlow : (0 : ℚ) ≤ 2 ^ 970 := pow_nonneg two_pos.le 970
  calc finiteBound ≤ 2 ^ 1024 := sub_le_self _ hlow
    _ ≤ 2 ^ (3 * power) := pow_le_pow_right₀ one_le_two (by omega)
    _ = 8 ^ power := by
      rw [pow_mul]
      norm_num
    _ ≤ 10 ^ power := pow_le_pow_left₀ (by norm_num) (by norm_num) power

lemma one_le_finiteBound : 1 ≤ finiteBound := by
  have hone : (1 : ℚ) ≤ 2 ^ 970 := one_le_pow₀ one_le_two
  have hnext : (2 ^ 970 * 2 : ℚ) ≤ 2 ^ 1024 := by
    rw [← pow_succ]
    exact pow_le_pow_right₀ one_le_two (by decide)
  rw [finiteBound, le_sub_iff_add_le]
  calc (1 + 2 ^ 970 : ℚ) ≤ 2 ^ 970 + 2 ^ 970 := add_le_add_left hone _
    _ = 2 ^ 970 * 2 := (mul_two _).symm
    _ ≤ 2 ^ 1024 := hnext

namespace Binary64

/-- A quotient within the range is rounded to the nearest double. -/
lemma exists_ofUnits_eq_finite {num den : ℕ} (hden : 0 < den)
    (h : (num / den / unitsPerOne : ℚ) < finiteBound) (negative : Bool) :
    ∃ magnitude : Magnitude, ofUnits negative num den = finite negative magnitude ∧
      magnitude.IsNearest (num / den / unitsPerOne) := by
  have hsound := (isMagnitude_roundedUnits_iff num hden).mpr h
  have hround : Magnitude.round? num den = some ⟨_, hsound⟩ := dif_pos hsound
  refine ⟨⟨_, hsound⟩, ?_, Magnitude.isNearest_roundedUnits num hden hsound⟩
  unfold ofUnits
  rw [hround]

/-- A quotient beyond the range becomes infinite. -/
lemma ofUnits_eq_infinite {num den : ℕ} (hden : 0 < den)
    (h : finiteBound ≤ num / den / unitsPerOne) (negative : Bool) :
    ofUnits negative num den = infinite negative := by
  have hunsound := mt (isMagnitude_roundedUnits_iff num hden).mp h.not_gt
  have hround : Magnitude.round? num den = none := dif_neg hunsound
  unfold ofUnits
  rw [hround]

variable {digits : ℕ} {exponent : ℤ}

/-- The quotient as which a decimal is rounded. -/
lemma ofDecimal_cases (negative : Bool) (hdigits : digits ≠ 0) (hhigh : exponent < 400)
    (hlow : -400 ≤ exponent + digits.log2) :
    ∃ num den : ℕ, 0 < den ∧ (num / den / unitsPerOne : ℚ) = digits * 10 ^ exponent ∧
      ofDecimal negative digits exponent = ofUnits negative num den := by
  have hpos := cast_unitsPerOne_pos.ne'
  unfold ofDecimal
  rw [if_neg hdigits, if_neg (by omega), if_neg (by omega)]
  split
  · next hpositive =>
    refine ⟨_, _, Nat.one_pos, ?_, rfl⟩
    obtain ⟨power, rfl⟩ := Int.eq_ofNat_of_zero_le hpositive
    rw [powerOfTen_eq]
    push_cast
    rw [div_one, mul_div_cancel_right₀ _ hpos, Int.toNat_natCast, zpow_natCast]
  · next hnegative =>
    refine ⟨_, _, powerOfTen_pos _, ?_, rfl⟩
    obtain ⟨power, hpower⟩ := Int.eq_ofNat_of_zero_le (by omega : 0 ≤ -exponent)
    obtain rfl : exponent = -power := by omega
    rw [powerOfTen_eq]
    push_cast
    rw [neg_neg, Int.toNat_natCast, zpow_neg, zpow_natCast]
    field_simp

/-- An exponent far below the range makes a decimal smaller than half a unit. -/
lemma decimal_lt_half_unit (h : exponent + digits.log2 < -400) :
    (digits * 10 ^ exponent : ℚ) < 1 / unitsPerOne / 2 := by
  obtain ⟨power, hpower⟩ : ∃ power : ℕ, exponent + digits.log2 = -((power + 1 : ℕ) : ℤ) :=
    ⟨(-(exponent + digits.log2) - 1).toNat, by omega⟩
  have hdigits : (digits : ℚ) ≤ 2 * 10 ^ digits.log2 := by
    have hle : digits ≤ 2 * 10 ^ digits.log2 := by
      calc digits ≤ 2 ^ (digits.log2 + 1) := Nat.lt_log2_self.le
        _ = 2 * 2 ^ digits.log2 := Nat.pow_succ'
        _ ≤ 2 * 10 ^ digits.log2 := Nat.mul_le_mul_left 2 (Nat.pow_le_pow_left (by decide) _)
    exact_mod_cast hle
  have hunit : (unitsPerOne : ℚ) ≤ 10 ^ power := by
    exact_mod_cast unitsPerOne_le (by omega : 324 ≤ power)
  have hpos := cast_unitsPerOne_pos
  calc (digits * 10 ^ exponent : ℚ) ≤ 2 * 10 ^ digits.log2 * 10 ^ exponent :=
        mul_le_mul_of_nonneg_right hdigits (by positivity)
    _ = 2 * 10 ^ (exponent + digits.log2) := by
      rw [zpow_add₀ (by norm_num), zpow_natCast]
      ring
    _ = 2 / (10 ^ power * 10) := by
      rw [hpower, zpow_neg, zpow_natCast, pow_succ, div_eq_mul_inv]
    _ < 1 / unitsPerOne / 2 := by
      rw [div_div, div_lt_div_iff₀ (by positivity) (mul_pos hpos two_pos)]
      linarith

lemma finiteBound_le_decimal (hdigits : digits ≠ 0) (h : 400 ≤ exponent) :
    finiteBound ≤ digits * 10 ^ exponent := by
  obtain ⟨power, rfl⟩ := Int.eq_ofNat_of_zero_le (by omega : 0 ≤ exponent)
  have hone : (1 : ℚ) ≤ digits := by exact_mod_cast Nat.one_le_iff_ne_zero.mpr hdigits
  calc finiteBound ≤ 10 ^ power := finiteBound_le_pow (by omega)
    _ ≤ digits * 10 ^ (power : ℤ) := by
      rw [zpow_natCast]
      exact le_mul_of_one_le_left (by positivity) hone

/-- A decimal within the range is rounded to the nearest double, with its sign. -/
theorem exists_ofDecimal_eq_finite (h : digits * 10 ^ exponent < finiteBound) (negative : Bool) :
    ∃ magnitude : Magnitude, ofDecimal negative digits exponent = finite negative magnitude ∧
      magnitude.IsNearest (digits * 10 ^ exponent) := by
  by_cases hdigits : digits = 0
  · refine ⟨.zero, if_pos hdigits, Magnitude.isNearest_zero (by positivity) ?_⟩
    have hpos := cast_unitsPerOne_pos
    rw [hdigits, Nat.cast_zero, zero_mul]
    exact half_pos (one_div_pos.mpr hpos)
  have hhigh : exponent < 400 := by
    by_contra hlarge
    exact absurd h (finiteBound_le_decimal hdigits (not_lt.mp hlarge)).not_gt
  by_cases hsmall : exponent + digits.log2 < -400
  · refine ⟨.zero, ?_, Magnitude.isNearest_zero (by positivity) (decimal_lt_half_unit hsmall)⟩
    unfold ofDecimal
    rw [if_neg hdigits, if_neg (by omega), if_pos hsmall]
  · obtain ⟨num, den, hden, hvalue, hrounded⟩ :=
      ofDecimal_cases negative hdigits hhigh (not_lt.mp hsmall)
    rw [hrounded, ← hvalue]
    rw [← hvalue] at h
    exact exists_ofUnits_eq_finite hden h negative

/-- A decimal beyond the range becomes infinite. -/
theorem ofDecimal_eq_infinite (h : finiteBound ≤ digits * 10 ^ exponent) (negative : Bool) :
    ofDecimal negative digits exponent = infinite negative := by
  have hdigits : digits ≠ 0 := by
    rintro rfl
    rw [Nat.cast_zero, zero_mul] at h
    exact absurd (one_le_finiteBound.trans h) (by decide)
  by_cases hhigh : 400 ≤ exponent
  · unfold ofDecimal
    rw [if_neg hdigits, if_pos hhigh]
  by_cases hsmall : exponent + digits.log2 < -400
  · -- Half a unit is far within the range.
    have hone : (1 : ℚ) ≤ unitsPerOne := by exact_mod_cast unitsPerOne_pos
    have hunit : 1 / (unitsPerOne : ℚ) ≤ 1 := div_le_one_of_le₀ hone (zero_le_one.trans hone)
    have htiny := decimal_lt_half_unit hsmall
    have hlarge := one_le_finiteBound.trans h
    linarith
  · obtain ⟨num, den, hden, hvalue, hrounded⟩ :=
      ofDecimal_cases negative hdigits (not_le.mp hhigh) (not_lt.mp hsmall)
    rw [hrounded]
    rw [← hvalue] at h
    exact ofUnits_eq_infinite hden h negative

end Binary64

/-! ### Signs -/

/-- The number of a sign and an absolute value. -/
def withSign (negative : Bool) (size : ℚ) : ℚ :=
  if negative then -size else size

lemma abs_withSign_sub (negative : Bool) (first second : ℚ) :
    |withSign negative first - withSign negative second| = |first - second| := by
  cases negative with
  | false => rfl
  | true =>
    change |-first - -second| = _
    rw [neg_sub_neg, abs_sub_comm]

lemma abs_withSign_sub_not (negative : Bool) {first second : ℚ} (hfirst : 0 ≤ first)
    (hsecond : 0 ≤ second) :
    |withSign negative first - withSign (!negative) second| = first + second := by
  have hsum : 0 ≤ first + second := add_nonneg hfirst hsecond
  cases negative with
  | false =>
    change |first - -second| = _
    rw [sub_neg_eq_add, abs_of_nonneg hsum]
  | true =>
    change |-first - second| = _
    rw [← neg_add', abs_neg, abs_of_nonneg hsum]

lemma withSign_zero (negative : Bool) : withSign negative 0 = 0 := by
  cases negative <;> rfl

lemma withSign_injective {negative : Bool} : Function.Injective (withSign negative) := by
  intro first second h
  cases negative with
  | false => exact h
  | true => exact neg_injective h

namespace Binary64

/-- The number that a finite double stands for. -/
def toRat : Binary64 → ℚ
  | finite negative magnitude => withSign negative magnitude.toRat
  | _ => 0

/-- Whether a double carries a minus. -/
def isNegative : Binary64 → Bool
  | nan => false
  | infinite negative => negative
  | finite negative _ => negative

/-- The last of the bits that a finite double keeps is zero. -/
def IsEven : Binary64 → Prop
  | finite _ magnitude => magnitude.IsEven
  | _ => False

/-- The finite double nearest to a number, the even one of two equally near. -/
structure IsNearest (value : Binary64) (x : ℚ) : Prop where
  isFinite : value.isFinite = true
  le_abs (other : Binary64) (h : other.isFinite = true) : |x - value.toRat| ≤ |x - other.toRat|
  even (other : Binary64) (h : other.isFinite = true) (hne : other.toRat ≠ value.toRat)
    (heq : |x - other.toRat| = |x - value.toRat|) : value.IsEven

variable {negative : Bool} {magnitude : Magnitude} {size : ℚ}

/-- The nearest magnitude makes the nearest double: those of the other sign are farther away. -/
lemma isNearest_finite_iff (hsize : 0 ≤ size) :
    (finite negative magnitude).IsNearest (withSign negative size) ↔
      magnitude.IsNearest size := by
  have hsame (other : Magnitude) :
      |withSign negative size - (finite negative other).toRat| = |size - other.toRat| :=
    abs_withSign_sub negative size other.toRat
  constructor
  · intro h
    constructor
    · intro other
      rw [← hsame, ← hsame]
      exact h.le_abs (finite negative other) rfl
    · intro other hne heq
      rw [← hsame, ← hsame] at heq
      exact h.even (finite negative other) rfl (withSign_injective.ne hne) heq
  · intro h
    have hzero : |size - Magnitude.zero.toRat| = size := by
      rw [Magnitude.toRat_zero, sub_zero, abs_of_nonneg hsize]
    have hopposite (other : Magnitude) :
        |withSign negative size - (finite (!negative) other).toRat| = size + other.toRat :=
      abs_withSign_sub_not negative hsize other.toRat_nonneg
    constructor
    · rfl
    · rintro (_ | _ | ⟨sign, other⟩) hfinite
      · cases hfinite
      · cases hfinite
      rw [hsame]
      rcases Bool.eq_or_eq_not sign negative with rfl | rfl
      · rw [hsame]
        exact h.le_abs other
      · rw [hopposite]
        linarith [h.le_abs .zero, other.toRat_nonneg]
    · rintro (_ | _ | ⟨sign, other⟩) hfinite hne heq
      · cases hfinite
      · cases hfinite
      rw [hsame] at heq
      rcases Bool.eq_or_eq_not sign negative with rfl | rfl
      · rw [hsame] at heq
        exact h.even other (fun hrat => hne (congrArg (withSign sign) hrat)) heq
      · -- As near on the other side of zero is zero alone, which has the sign of neither.
        rw [hopposite] at heq
        have hle := h.le_abs .zero
        have hother : other.toRat = 0 := by linarith [other.toRat_nonneg]
        refine h.even .zero ?_ (by linarith)
        rw [Magnitude.toRat_zero]
        intro hmagnitude
        rw [toRat, toRat, hother, ← hmagnitude, withSign_zero, withSign_zero] at hne
        exact hne rfl

/-- A double with a sign and an absolute value to which it is nearest is determined by them. -/
lemma IsNearest.unique {value other : Binary64} (h : value.IsNearest (withSign negative size))
    (hother : other.IsNearest (withSign negative size)) (hsize : 0 ≤ size)
    (hsign : value.isNegative = negative) (hagain : other.isNegative = negative) :
    value = other := by
  rcases value with _ | _ | ⟨sign, magnitude⟩
  · cases h.isFinite
  · cases h.isFinite
  rcases other with _ | _ | ⟨sign, other⟩
  · cases hother.isFinite
  · cases hother.isFinite
  cases hsign
  cases hagain
  have hfirst := (isNearest_finite_iff hsize).mp h
  have hsecond := (isNearest_finite_iff hsize).mp hother
  rw [hfirst.unique hsecond]

/-! ### Rounded decimals -/

section

variable {digits : ℕ} {exponent : ℤ}

/-- A decimal becomes finite exactly below the end of the range. -/
lemma isFinite_ofDecimal_iff (negative : Bool) :
    (ofDecimal negative digits exponent).isFinite = true ↔
      (digits * 10 ^ exponent : ℚ) < finiteBound := by
  rcases lt_or_ge (digits * 10 ^ exponent : ℚ) finiteBound with hbelow | habove
  · obtain ⟨magnitude, hrounded, -⟩ := exists_ofDecimal_eq_finite hbelow negative
    rw [hrounded]
    exact iff_of_true rfl hbelow
  · rw [ofDecimal_eq_infinite habove]
    exact iff_of_false Bool.false_ne_true habove.not_gt

/-- Below the end of the range a decimal becomes the nearest double with
its sign, and no other. -/
theorem ofDecimal_eq_iff {value : Binary64} (h : digits * 10 ^ exponent < finiteBound) :
    ofDecimal negative digits exponent = value ↔ value.isNegative = negative ∧
      value.IsNearest (withSign negative (digits * 10 ^ exponent)) := by
  have hsize : (0 : ℚ) ≤ digits * 10 ^ exponent := by positivity
  obtain ⟨magnitude, hrounded, hmagnitude⟩ := exists_ofDecimal_eq_finite h negative
  have hnearest := (@isNearest_finite_iff negative _ _ hsize).mpr hmagnitude
  rw [hrounded]
  constructor
  · rintro rfl
    exact ⟨rfl, hnearest⟩
  · rintro ⟨hsign, hvalue⟩
    exact hnearest.unique hvalue hsize rfl hsign

end

end Binary64

end HeatingPortal.Number
