import HeatingPortal.Number.Binary64
import Mathlib.Data.Nat.Log
import Mathlib.Tactic.Linarith
import Mathlib.Tactic.Ring

/-!
# Rounding to the nearest double

A quotient that differs from a magnitude by less than one part in `2⁵⁴` rounds to that magnitude.
Half the distance to the next double is at least that much, also below a power of two, where the
doubles on the lower side stand twice as close.

Rounding does not depend on how a quotient is written: numerator and denominator may be
multiplied alike, and a decimal may carry zeros at its end.
-/

namespace HeatingPortal.Number

/-! ### Whole numbers -/

/-- A quotient that is nearer to a whole number than one half rounds to it. -/
lemma nearestEven_eq {num den whole : ℕ} (hlow : 2 * (whole * den) < 2 * num + den)
    (hhigh : 2 * num < 2 * (whole * den) + den) : nearestEven num den = whole := by
  unfold nearestEven
  rcases Nat.lt_or_ge num (whole * den) with hbelow | habove
  · -- The quotient lies in the upper half below the whole number.
    obtain ⟨low, rfl⟩ : ∃ low, whole = low + 1 := by
      apply Nat.exists_eq_succ_of_ne_zero
      rintro rfl
      simp at hbelow
    have hwhole : (low + 1) * den = low * den + den := Nat.succ_mul low den
    rw [hwhole] at hlow hhigh
    have hdiv : num / den = low := Nat.div_eq_of_lt_le (by omega) hbelow
    have hmod : num % den = num - low * den := by rw [Nat.mod_eq_sub_div_mul, hdiv]
    simp only [hdiv, hmod]
    rw [if_neg (by omega)]
  · have hdiv : num / den = whole := by
      apply Nat.div_eq_of_lt_le habove
      rw [Nat.succ_mul]
      omega
    have hmod : num % den = num - whole * den := by rw [Nat.mod_eq_sub_div_mul, hdiv]
    simp only [hdiv, hmod]
    rw [if_pos (by omega)]

lemma nearestEven_mul_left {factor : ℕ} (hfactor : 0 < factor) (num den : ℕ) :
    nearestEven (factor * num) (factor * den) = nearestEven num den := by
  have hmod : 2 * (factor * (num % den)) = factor * (2 * (num % den)) := by ring
  simp only [nearestEven, Nat.mul_div_mul_left _ _ hfactor, Nat.mul_mod_mul_left, hmod,
    Nat.mul_lt_mul_left hfactor, Nat.mul_left_cancel_iff hfactor]

/-- Two multiples of a step that differ are at least that step apart. -/
lemma add_le_of_dvd {step first second : ℕ} (hfirst : step ∣ first) (hsecond : step ∣ second)
    (h : first < second) : first + step ≤ second := by
  obtain ⟨a, rfl⟩ := hfirst
  obtain ⟨b, rfl⟩ := hsecond
  have hlt : a < b := Nat.lt_of_mul_lt_mul_left h
  calc step * a + step = step * (a + 1) := by ring
    _ ≤ step * b := Nat.mul_le_mul_left step hlt

/-! ### Spacing -/

lemma spacing_eq (units : ℕ) : spacing units = 2 ^ (units.log2 - 52) := rfl

lemma spacing_pos (units : ℕ) : 0 < spacing units :=
  powerOfTwo_pos _

/-- A magnitude has at most 53 leading bits. -/
lemma lt_spacing (units : ℕ) : units < 2 ^ 53 * spacing units := by
  calc units < 2 ^ (units.log2 + 1) := Nat.lt_log2_self
    _ ≤ 2 ^ (53 + (units.log2 - 52)) := Nat.pow_le_pow_right (by decide) (by omega)
    _ = 2 ^ 53 * spacing units := by rw [Nat.pow_add, spacing_eq]

lemma spacing_dvd_two_pow {units k : ℕ} (h : units.log2 ≤ k) : spacing units ∣ 2 ^ k := by
  rw [spacing_eq]
  exact Nat.pow_dvd_pow 2 (by omega)

/-- Below the next power of two the spacing is at most that of a number. -/
lemma spacing_dvd_spacing {whole units : ℕ} (h : units < 2 ^ (whole.log2 + 1)) :
    spacing units ∣ spacing whole := by
  rw [spacing_eq]
  rw [spacing_eq]
  apply Nat.pow_dvd_pow
  by_cases hzero : units = 0
  · simp [hzero]
  have hlog := (Nat.log2_lt hzero).mpr h
  omega

/-- A multiple of a spacing, up to the next power of two, is a multiple of its own spacing. -/
lemma spacing_dvd_self {whole units : ℕ} (hdvd : spacing whole ∣ units)
    (hle : units ≤ 2 ^ (whole.log2 + 1)) : spacing units ∣ units := by
  rcases hle.eq_or_lt with hpower | hbelow
  · rw [hpower]
    exact spacing_dvd_two_pow (by rw [Nat.log2_two_pow])
  · exact (spacing_dvd_spacing hbelow).trans hdvd

/-! ### Near quotients -/

/-- A quotient that differs from a number of units by less than one part in `2⁵⁴`. -/
structure IsNear (num den units : ℕ) : Prop where
  low : 2 ^ 54 * (units * den) < 2 ^ 54 * num + units * den
  high : 2 ^ 54 * num < 2 ^ 54 * (units * den) + units * den

namespace IsNear

variable {num den units : ℕ}

lemma den_pos (h : IsNear num den units) : 0 < den := by
  obtain ⟨hlow, hhigh⟩ := h
  apply Nat.pos_of_ne_zero
  rintro rfl
  omega

lemma units_ne_zero (h : IsNear num den units) : units ≠ 0 := by
  obtain ⟨hlow, hhigh⟩ := h
  rintro rfl
  omega

/-- A near quotient stays below the next power of two. -/
lemma div_lt (h : IsNear num den units) (hdvd : spacing units ∣ units) :
    num / den < 2 ^ (units.log2 + 1) := by
  have hgap : units + spacing units ≤ 2 ^ (units.log2 + 1) :=
    add_le_of_dvd hdvd (spacing_dvd_two_pow (Nat.le_succ _)) Nat.lt_log2_self
  have hhigh := h.high
  have hgap := Nat.mul_le_mul_right den hgap
  have hbits := Nat.mul_le_mul_right den (lt_spacing units).le
  rw [Nat.div_lt_iff_lt_mul h.den_pos]
  rw [Nat.add_mul] at hgap
  rw [Nat.mul_assoc] at hbits
  omega

/-- A quotient near to a magnitude that is no power of two stays above the power below it. -/
lemma le_div (h : IsNear num den units) (hdvd : spacing units ∣ units)
    (hpower : units ≠ 2 ^ units.log2) : 2 ^ units.log2 ≤ num / den := by
  have hlt : 2 ^ units.log2 < units :=
    lt_of_le_of_ne (Nat.log2_self_le h.units_ne_zero) hpower.symm
  have hgap : 2 ^ units.log2 + spacing units ≤ units :=
    add_le_of_dvd (spacing_dvd_two_pow le_rfl) hdvd hlt
  have hlow := h.low
  have hgap := Nat.mul_le_mul_right den hgap
  have hbits := Nat.mul_le_mul_right den (lt_spacing units).le
  rw [Nat.le_div_iff_mul_le h.den_pos]
  rw [Nat.add_mul] at hgap
  rw [Nat.mul_assoc] at hbits
  omega

/-- A quotient near to a power of two is at least half of it. -/
lemma half_le_div (h : IsNear num den units) {k : ℕ} (hpower : units = 2 ^ (k + 1)) :
    2 ^ k ≤ num / den := by
  have hlow := h.low
  have hdouble : 2 ^ (k + 1) * den = 2 * (2 ^ k * den) := by ring
  rw [Nat.le_div_iff_mul_le h.den_pos]
  rw [hpower, hdouble] at hlow
  omega

/-- The spacing at a near quotient divides the magnitude, which has at most 53 bits of it. -/
lemma spacing_div (h : IsNear num den units) (hdvd : spacing units ∣ units) :
    spacing (num / den) ∣ units ∧ units ≤ 2 ^ 53 * spacing (num / den) := by
  by_cases hpower : units = 2 ^ units.log2
  · cases hlog : units.log2 with
    | zero =>
      have hsmall := h.div_lt hdvd
      rw [hlog] at hpower hsmall
      have hone : spacing (num / den) = 1 := by
        rcases Nat.le_one_iff_eq_zero_or_eq_one.mp (Nat.le_of_lt_succ hsmall) with hzero | hone
        · rw [hzero]
          decide
        · rw [hone]
          decide
      rw [hone, hpower]
      decide
    | succ k =>
      rw [hlog] at hpower
      have hlow := h.half_le_div hpower
      have hhigh := h.div_lt hdvd
      have hne : num / den ≠ 0 := by
        have hpos : 0 < 2 ^ k := Nat.two_pow_pos k
        omega
      have hlogs : (num / den).log2 = k ∨ (num / den).log2 = k + 1 := by
        rw [hlog] at hhigh
        have hfirst := (Nat.le_log2 hne).mpr hlow
        have hlast := (Nat.log2_lt hne).mpr hhigh
        omega
      constructor
      · rw [hpower]
        apply spacing_dvd_two_pow
        omega
      · rw [hpower, spacing_eq, ← Nat.pow_add]
        apply Nat.pow_le_pow_right (by decide)
        omega
  · -- In the binade of the magnitude the spacing is that of the magnitude.
    have hlow := h.le_div hdvd hpower
    have hne : num / den ≠ 0 := by
      have hpos : 0 < 2 ^ units.log2 := Nat.two_pow_pos _
      omega
    have hlog : (num / den).log2 = units.log2 :=
      (Nat.log2_eq_iff hne).mpr ⟨hlow, h.div_lt hdvd⟩
    rw [spacing_eq, hlog, ← spacing_eq]
    exact ⟨hdvd, (lt_spacing units).le⟩

/-- A quotient near to a magnitude rounds to it. -/
theorem roundedUnits_eq (h : IsNear num den units) (hdvd : spacing units ∣ units) :
    roundedUnits num den = units := by
  obtain ⟨⟨count, hcount⟩, hbits⟩ := h.spacing_div hdvd
  have hlow := h.low
  have hhigh := h.high
  have hwide := Nat.mul_le_mul_right den hbits
  have hwhole : count * (den * spacing (num / den)) = units * den := by
    rw [hcount]
    ring
  have hnearest : nearestEven num (den * spacing (num / den)) = count := by
    rw [Nat.mul_assoc, Nat.mul_comm (spacing _)] at hwide
    apply nearestEven_eq
    · rw [hwhole]
      omega
    · rw [hwhole]
      omega
  simp only [roundedUnits, hnearest]
  rw [Nat.mul_comm, ← hcount]

lemma ofUnits_eq {magnitude : Magnitude} (h : IsNear num den magnitude.units) (negative : Bool) :
    Binary64.ofUnits negative num den = .finite negative magnitude := by
  obtain ⟨hmultiple, -⟩ := magnitude.sound
  have hrounded := h.roundedUnits_eq (Nat.dvd_of_mod_eq_zero hmultiple)
  have hround : Magnitude.round? num den = some magnitude := by
    obtain ⟨units, sound⟩ := magnitude
    subst hrounded
    exact dif_pos sound
  unfold Binary64.ofUnits
  rw [hround]

end IsNear

/-! ### Other ways to write a quotient -/

lemma roundedUnits_mul_left {factor : ℕ} (hfactor : 0 < factor) (num den : ℕ) :
    roundedUnits (factor * num) (factor * den) = roundedUnits num den := by
  simp only [roundedUnits, Nat.mul_div_mul_left _ _ hfactor, Nat.mul_assoc,
    nearestEven_mul_left hfactor]

namespace Binary64

lemma ofUnits_mul_left {factor : ℕ} (hfactor : 0 < factor) (negative : Bool) (num den : ℕ) :
    ofUnits negative (factor * num) (factor * den) = ofUnits negative num den := by
  have hround : Magnitude.round? (factor * num) (factor * den) = Magnitude.round? num den := by
    unfold Magnitude.round?
    simp only [roundedUnits_mul_left hfactor]
  unfold ofUnits
  rw [hround]

variable {negative : Bool} {digits : ℕ} {exponent : ℤ}

/-- In the range of doubles a decimal is rounded as a quotient of powers of ten. -/
lemma ofDecimal_eq (hdigits : digits ≠ 0) (hlow : -400 ≤ exponent) (hhigh : exponent < 400) :
    ofDecimal negative digits exponent =
      ofUnits negative (digits * 10 ^ exponent.toNat * unitsPerOne)
        (10 ^ (-exponent).toNat) := by
  unfold ofDecimal
  rw [if_neg hdigits, if_neg (by omega), if_neg (by omega)]
  split
  · next hpositive =>
    have hnegative : (-exponent).toNat = 0 := by omega
    rw [hnegative]
    rfl
  · next hnegative =>
    have hpositive : exponent.toNat = 0 := by omega
    rw [hpositive, Nat.pow_zero, Nat.mul_one]
    rfl

/-- A zero at the end of a decimal is as good as one more in the exponent. -/
lemma ofDecimal_mul_ten (hlow : -400 ≤ exponent) (hhigh : exponent + 1 < 400) :
    ofDecimal negative (digits * 10) exponent = ofDecimal negative digits (exponent + 1) := by
  by_cases hzero : digits = 0
  · simp [hzero, ofDecimal]
  rw [ofDecimal_eq (by omega) hlow (by omega), ofDecimal_eq hzero (by omega) hhigh]
  rcases lt_or_ge exponent 0 with hnegative | hpositive
  · have hpower : (-exponent).toNat = (-(exponent + 1)).toNat + 1 := by omega
    have hone : exponent.toNat = 0 := by omega
    have hnext : (exponent + 1).toNat = 0 := by omega
    have hnum : digits * 10 * 10 ^ 0 * unitsPerOne = 10 * (digits * 10 ^ 0 * unitsPerOne) := by
      ring
    have hden (count : ℕ) : 10 ^ (count + 1) = 10 * 10 ^ count := Nat.pow_succ'
    rw [hpower, hone, hnext, hnum, hden]
    exact ofUnits_mul_left (by decide) negative _ _
  · have hpower : (exponent + 1).toNat = exponent.toNat + 1 := by omega
    have hone : (-exponent).toNat = 0 := by omega
    have hnext : (-(exponent + 1)).toNat = 0 := by omega
    have hnum (count : ℕ) : digits * 10 * 10 ^ count = digits * 10 ^ (count + 1) := by ring
    rw [hpower, hone, hnext, hnum]

lemma ofDecimal_mul_pow (count : ℕ) (hlow : -400 ≤ exponent) (hhigh : exponent + count < 400) :
    ofDecimal negative (digits * 10 ^ count) exponent =
      ofDecimal negative digits (exponent + count) := by
  induction count generalizing exponent with
  | zero => simp
  | succ count ih =>
    have hnext : exponent + 1 + count = exponent + (count + 1 : ℕ) := by omega
    rw [Nat.pow_succ, ← Nat.mul_assoc, ofDecimal_mul_ten hlow (by omega),
      ih (by omega) (by omega), hnext]

/-- A sign in front changes nothing but the sign. -/
lemma ofDecimal_signed {magnitude : Magnitude}
    (h : ofDecimal false digits exponent = .finite false magnitude) (negative : Bool) :
    ofDecimal negative digits exponent = .finite negative magnitude := by
  have hunits {num den : ℕ} (hfinite : ofUnits false num den = .finite false magnitude) :
      ofUnits negative num den = .finite negative magnitude := by
    unfold ofUnits at hfinite ⊢
    split at hfinite
    · cases hfinite
      rfl
    · cases hfinite
  unfold ofDecimal at h ⊢
  split_ifs at h ⊢
  · cases h
    rfl
  · cases h
    rfl
  · exact hunits h
  · exact hunits h

end Binary64

end HeatingPortal.Number
