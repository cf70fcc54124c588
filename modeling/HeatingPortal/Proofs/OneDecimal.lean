import HeatingPortal.Form.Check
import HeatingPortal.Proofs.NumberText

/-!
# Reading back one decimal

A form shows a number with one decimal. Of a finite number that text reads back, to the double
nearest to the decimal shown; the texts of the infinities and of NaN do not read back.

A multiple of its own spacing is what rounding yields for every quotient, so only the size of the
result is at stake. From `10¹⁵` on the decimal is so near to the number that rounding returns to
it, and below that no rounding reaches the end of the range.
-/

namespace HeatingPortal.Number

/-! ### Magnitudes -/

lemma powerOfTwo_eq (exponent : ℕ) : powerOfTwo exponent = 2 ^ exponent := rfl

lemma unitsPerOne_eq : unitsPerOne = 2 ^ pointBits := powerOfTwo_eq pointBits

lemma tooLarge_eq : tooLarge = 2 ^ (1024 + pointBits) := powerOfTwo_eq (1024 + pointBits)

lemma nearestEven_le (num den : ℕ) : nearestEven num den ≤ num / den + 1 := by
  simp only [nearestEven]
  split <;> omega

/-- Rounding does not go beyond the next power of two. -/
lemma roundedUnits_le (num den : ℕ) : roundedUnits num den ≤ 2 ^ ((num / den).log2 + 1) := by
  set step := spacing (num / den) with hstep
  have hpower : step ∣ 2 ^ ((num / den).log2 + 1) := spacing_dvd_two_pow (Nat.le_succ _)
  have hfloor : num / den / step * step ≤ num / den := Nat.div_mul_le_self _ _
  calc roundedUnits num den = nearestEven num (den * step) * step := rfl
    _ ≤ (num / den / step + 1) * step := by
      rw [Nat.div_div_eq_div_mul]
      exact Nat.mul_le_mul_right step (nearestEven_le _ _)
    _ = num / den / step * step + step := Nat.succ_mul _ _
    _ ≤ 2 ^ ((num / den).log2 + 1) :=
      add_le_of_dvd (Nat.dvd_mul_left _ _) hpower (hfloor.trans_lt Nat.lt_log2_self)

/-- What rounding yields is a multiple of its own spacing. -/
lemma spacing_dvd_roundedUnits (num den : ℕ) :
    spacing (roundedUnits num den) ∣ roundedUnits num den :=
  spacing_dvd_self (Nat.dvd_mul_left _ _) (roundedUnits_le num den)

namespace Binary64

/-- A quotient well inside the range rounds to a finite double. -/
lemma isFinite_ofUnits {num den bits : ℕ} (negative : Bool) (h : num / den < 2 ^ bits)
    (hpos : 0 < bits) (hbits : bits < 1024 + pointBits) :
    (ofUnits negative num den).isFinite = true := by
  have hlog : (num / den).log2 + 1 ≤ bits := by
    by_cases hzero : num / den = 0
    · rw [hzero]
      exact hpos
    · exact (Nat.log2_lt hzero).mpr h
  have hsmall : roundedUnits num den < tooLarge := by
    rw [tooLarge_eq]
    calc roundedUnits num den ≤ 2 ^ ((num / den).log2 + 1) := roundedUnits_le num den
      _ ≤ 2 ^ bits := Nat.pow_le_pow_right (by decide) hlog
      _ < 2 ^ (1024 + pointBits) := Nat.pow_lt_pow_right (by decide) hbits
  have hsound : IsMagnitude (roundedUnits num den) :=
    ⟨Nat.mod_eq_zero_of_dvd (spacing_dvd_roundedUnits num den), hsmall⟩
  have hround : Magnitude.round? num den = some ⟨_, hsound⟩ := dif_pos hsound
  unfold ofUnits
  rw [hround]
  rfl

/-- Rounded to tenths, a finite number stays finite. -/
lemma isFinite_ofDecimal_tenths (negative : Bool) (magnitude : Magnitude) :
    (ofDecimal negative magnitude.tenths (-1)).isFinite = true := by
  by_cases hzero : magnitude.tenths = 0
  · rw [hzero]
    rfl
  obtain ⟨hlow, hhigh⟩ := Tie.even.nearest_bounds (magnitude.units * 10) unitsPerOne_pos
  change 2 * (magnitude.units * 10) ≤ 2 * (magnitude.tenths * unitsPerOne) + unitsPerOne at hlow
  change 2 * (magnitude.tenths * unitsPerOne) ≤ 2 * (magnitude.units * 10) + unitsPerOne at hhigh
  have hdecimal : ofDecimal negative magnitude.tenths (-1) =
      ofUnits negative (magnitude.tenths * unitsPerOne) 10 := by
    have hnum : (-1 : ℤ).toNat = 0 := rfl
    have hden : (-(-1) : ℤ).toNat = 1 := rfl
    rw [ofDecimal_eq hzero (by decide) (by decide), hnum, hden, pow_zero, mul_one, pow_one]
  rw [hdecimal]
  rcases Nat.lt_or_ge (magnitude.units * 10) (10 ^ 16 * unitsPerOne) with hnear | hfar
  · have hsmall : magnitude.tenths * unitsPerOne / 10 < 2 ^ (pointBits + 54) := by
      rw [Nat.div_lt_iff_lt_mul (by decide), pow_add, ← unitsPerOne_eq]
      omega
    exact isFinite_ofUnits negative hsmall (by decide) (by decide)
  · rw [(isNear_of_half unitsPerOne_pos hfar hlow hhigh).ofUnits_eq negative]
    rfl

/-! ### Texts -/

lemma splitSign_signed (negative : Bool) {c : Char} (hdigit : c.isDigit = true)
    (rest : List Char) :
    Text.splitSign (Layout.signed negative (c :: rest)).toList = (negative, c :: rest) := by
  simp only [Layout.signed, String.toList_ofList]
  cases negative with
  | true => rfl
  | false =>
    -- A digit is no sign.
    simp only [Bool.false_eq_true, if_false]
    unfold Text.splitSign
    split
    · next heq =>
      obtain ⟨rfl, -⟩ := List.cons_eq_cons.mp heq
      exact absurd hdigit (by decide)
    · next heq =>
      obtain ⟨rfl, -⟩ := List.cons_eq_cons.mp heq
      exact absurd hdigit (by decide)
    · rfl

/-- Tenths read back as the decimal that they are. -/
lemma ofPlainDecimal?_tenthsText (negative : Bool) (tenths : ℕ) :
    ofPlainDecimal? (Layout.signed negative (tenthsText tenths)) =
      some (ofDecimal negative tenths (-1)) := by
  have hlast : tenths % 10 < 10 := Nat.mod_lt _ (by decide)
  have htext : tenthsText tenths =
      Nat.toDigits 10 (tenths / 10) ++ ['.', Nat.digitChar (tenths % 10)] := by
    rw [tenthsText, Nat.toDigits_of_lt_base hlast]
  have hdigits : ∀ c ∈ Nat.toDigits 10 (tenths / 10), c.isDigit = true :=
    fun _ => Text.isDigit_of_mem_toDigits
  have hbefore : ∀ c ∈ Nat.toDigits 10 (tenths / 10), (c != '.') = true := by
    intro c hmem
    simp [(Text.ne_of_isDigit (hdigits c hmem)).2.2.1]
  have hsign : Text.splitSign (Layout.signed negative (tenthsText tenths)).toList =
      (negative, tenthsText tenths) := by
    obtain ⟨first, rest, hfirst⟩ := List.exists_cons_of_ne_nil
      (Nat.toDigits_ne_nil : Nat.toDigits 10 (tenths / 10) ≠ [])
    rw [hfirst] at hdigits
    rw [htext, hfirst]
    exact splitSign_signed negative (hdigits first List.mem_cons_self) _
  have hwhole : (tenthsText tenths).takeWhile (· != '.') = Nat.toDigits 10 (tenths / 10) := by
    rw [htext, List.takeWhile_append_of_pos hbefore]
    simp
  have hfraction : (tenthsText tenths).dropWhile (· != '.') =
      ['.', Nat.digitChar (tenths % 10)] := by
    rw [htext, List.dropWhile_append_of_pos hbefore]
    simp
  have hvalue : Text.foldDigits (tenths / 10) [Nat.digitChar (tenths % 10)] = some tenths := by
    have hdigit : ∀ c ∈ [Nat.digitChar (tenths % 10)], c.isDigit = true := by
      rw [← Nat.toDigits_of_lt_base hlast]
      exact fun _ => Text.isDigit_of_mem_toDigits
    rw [Text.foldDigits_of_isDigit hdigit, Nat.ofDigitChars_cons, Nat.ofDigitChars_nil]
    change some (10 * (tenths / 10) + ((Nat.digitChar (tenths % 10)).toNat - 48)) = some tenths
    rw [Nat.toNat_digitChar_of_lt_ten hlast]
    congr 1
    omega
  simp only [ofPlainDecimal?, hsign, hwhole, hfraction, List.drop_one, List.tail_cons,
    Text.natural?_toDigits, Option.bind_some, hvalue, Option.map_some, List.length_singleton]
  rfl

/-- The text of a finite number reads back as its tenths, which are finite. -/
theorem exists_ofPlainDecimal?_oneDecimal {value : Binary64} (h : value.isFinite = true) :
    ∃ read, ofPlainDecimal? value.oneDecimal = some read ∧ read.isFinite = true := by
  cases value with
  | finite negative magnitude =>
    exact ⟨_, ofPlainDecimal?_tenthsText negative magnitude.tenths,
      isFinite_ofDecimal_tenths negative magnitude⟩
  | nan | infinite => cases h

/-- Of two equally near tenths the even one is shown. -/
example : (ofDecimal true 25 (-2)).oneDecimal = "-0.2" := by decide +kernel

lemma ofPlainDecimal?_oneDecimal_of_not_finite {value : Binary64} (h : value.isFinite = false) :
    ofPlainDecimal? value.oneDecimal = none := by
  cases value with
  | finite => cases h
  | nan => decide
  | infinite negative => cases negative <;> decide

end Binary64

end HeatingPortal.Number

namespace HeatingPortal.Form

open Number

/-- What a form shows of a number is accepted when the number is finite,
and as what it spells. -/
theorem checkDecimal_oneDecimal_eq_ok_iff {value read : Binary64} :
    checkDecimal (some value.oneDecimal) = .ok read ↔
      value.isFinite = true ∧ Binary64.ofPlainDecimal? value.oneDecimal = some read := by
  cases hfinite : value.isFinite with
  | false =>
    have hnone := Binary64.ofPlainDecimal?_oneDecimal_of_not_finite hfinite
    simp [checkDecimal, hnone]
  | true =>
    obtain ⟨spelled, hspelled, hfinite⟩ := Binary64.exists_ofPlainDecimal?_oneDecimal hfinite
    simp [checkDecimal, hspelled, Option.filter, hfinite]

end HeatingPortal.Form
