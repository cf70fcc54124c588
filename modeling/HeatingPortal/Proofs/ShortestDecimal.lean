import HeatingPortal.Number.Decimal
import HeatingPortal.Proofs.Rounding

/-!
# Seventeen digits suffice

The digits of a magnitude are looked for on finer and finer decimal grids, and the first point
that reads back is taken. The search always finds one: on the grid of seventeen digits the
nearest point differs from the magnitude by at most one part in `2 · 10¹⁶`, which is nearer than
`IsNear` asks for. What is found keeps its value when the zeros at its end move into the
exponent, so the digits of a magnitude read back to it (`readsBack_shortest`).
-/

namespace HeatingPortal.Number

variable {magnitude : Magnitude} {decimal : Decimal} {tie : Tie}

/-! ### The first digit -/

lemma powerOfTen_eq (exponent : ℕ) : powerOfTen exponent = 10 ^ exponent := rfl

lemma powerOfTen_le {first second : ℕ} (h : first ≤ second) : powerOfTen first ≤ 10 ^ second :=
  Nat.pow_le_pow_right (by decide) h

/-- A quotient lies between the powers of ten that its number of digits names. -/
lemma toDigits_div_bounds {num den : ℕ} (hden : 0 < den) (hone : den ≤ num) :
    ∃ first : ℕ, (Nat.toDigits 10 (num / den)).length = first + 1 ∧ 10 ^ first * den ≤ num ∧
      num < 10 ^ (first + 1) * den := by
  obtain ⟨first, hlength⟩ := Nat.exists_eq_succ_of_ne_zero
    (Nat.length_toDigits_pos (b := 10) (n := num / den)).ne'
  refine ⟨first, hlength, ?_, ?_⟩
  · rw [← Nat.le_div_iff_mul_le hden]
    cases first with
    | zero => exact (Nat.one_le_div_iff hden).mpr hone
    | succ fewer =>
      by_contra hless
      have hshort := (Nat.length_toDigits_le_iff (by decide) (Nat.succ_pos fewer)).mpr
        (not_le.mp hless)
      omega
  · rw [← Nat.div_lt_iff_lt_mul hden]
    exact (Nat.length_toDigits_le_iff (by decide) (Nat.succ_pos first)).mp hlength.le

/-- Powers of ten on both sides of a comparison cancel. -/
lemma pow_mul_le_iff (first shift den num : ℕ) :
    10 ^ first * den ≤ num * 10 ^ shift ↔
      10 ^ (first - shift) * den ≤ num * 10 ^ (shift - first) := by
  rcases Nat.le_total first shift with hle | hle
  · obtain ⟨more, rfl⟩ := Nat.exists_eq_add_of_le hle
    rw [Nat.sub_eq_zero_of_le hle, Nat.add_sub_cancel_left, pow_zero, one_mul, pow_add,
      Nat.mul_left_comm]
    exact Nat.mul_le_mul_left_iff (Nat.pow_pos (by decide))
  · obtain ⟨more, rfl⟩ := Nat.exists_eq_add_of_le hle
    rw [Nat.sub_eq_zero_of_le hle, Nat.add_sub_cancel_left, pow_zero, mul_one, pow_add,
      Nat.mul_assoc, Nat.mul_comm num]
    exact Nat.mul_le_mul_left_iff (Nat.pow_pos (by decide))

lemma unitsPerOne_le {exponent : ℕ} (h : 324 ≤ exponent) : unitsPerOne ≤ 10 ^ exponent := by
  have hleast : unitsPerOne ≤ powerOfTen 324 := by decide +kernel
  exact hleast.trans (powerOfTen_le h)

lemma units_lt (magnitude : Magnitude) : magnitude.units < powerOfTen 309 * unitsPerOne := by
  have hlarge : tooLarge ≤ powerOfTen 309 * unitsPerOne := by decide +kernel
  exact lt_of_lt_of_le magnitude.sound.2 hlarge

/-- The exponent of the first digit encloses a positive number of units between powers of ten. -/
lemma leadingExponent_spec {units : ℕ} (hpos : 0 < units) {leading : ℤ}
    (hleading : leadingExponent units = leading) :
    10 ^ leading.toNat * unitsPerOne ≤ units * 10 ^ (-leading).toNat ∧
      units * 10 ^ (-(leading + 1)).toNat < 10 ^ (leading + 1).toNat * unitsPerOne := by
  have hone : unitsPerOne ≤ units * powerOfTen 400 := by
    have hpower := unitsPerOne_le (by decide : 324 ≤ 400)
    rw [← powerOfTen_eq] at hpower
    exact hpower.trans (Nat.le_mul_of_pos_left _ hpos)
  obtain ⟨first, hlength, hlow, hhigh⟩ := toDigits_div_bounds unitsPerOne_pos hone
  have hfirst : leading = first - 400 := by
    unfold leadingExponent at hleading
    omega
  rw [powerOfTen_eq] at hlow hhigh
  have hlow := (pow_mul_le_iff first 400 _ _).mp hlow
  have hhigh := mt (pow_mul_le_iff (first + 1) 400 unitsPerOne units).mpr hhigh.not_ge
  have hnat : leading.toNat = first - 400 ∧ (-leading).toNat = 400 - first := by omega
  have hnext : (leading + 1).toNat = first + 1 - 400 ∧
      (-(leading + 1)).toNat = 400 - (first + 1) := by omega
  rw [hnat.1, hnat.2, hnext.1, hnext.2]
  exact ⟨hlow, not_le.mp hhigh⟩

lemma leadingExponent_bounds (hpos : 0 < magnitude.units) {leading : ℤ}
    (hleading : leadingExponent magnitude.units = leading) : -324 ≤ leading ∧ leading ≤ 308 := by
  obtain ⟨hlow, hhigh⟩ := leadingExponent_spec hpos hleading
  constructor
  · by_contra hless
    have hzero : (leading + 1).toNat = 0 := by omega
    have hwide : unitsPerOne ≤ 10 ^ (-(leading + 1)).toNat := unitsPerOne_le (by omega)
    have hmultiple : 10 ^ (-(leading + 1)).toNat ≤
        magnitude.units * 10 ^ (-(leading + 1)).toNat :=
      Nat.le_mul_of_pos_left _ hpos
    simp only [hzero, pow_zero, one_mul] at hhigh
    omega
  · by_contra hmore
    have hzero : (-leading).toNat = 0 := by omega
    have hpower := powerOfTen_le (by omega : 309 ≤ leading.toNat)
    simp only [hzero, pow_zero, mul_one] at hlow
    have hlarge := (Nat.mul_le_mul_right unitsPerOne hpower).trans hlow
    exact absurd hlarge (units_lt magnitude).not_ge

/-! ### Grids -/

lemma gridQuotient_eq (units : ℕ) (exponent : ℤ) : gridQuotient units exponent =
    (units * 10 ^ (-exponent).toNat, unitsPerOne * 10 ^ exponent.toNat) := by
  unfold gridQuotient
  split
  · have hnegative : (-exponent).toNat = 0 := by omega
    rw [hnegative, pow_zero, mul_one]
    rfl
  · have hpositive : exponent.toNat = 0 := by omega
    rw [hpositive, pow_zero, mul_one]
    rfl

/-- The nearest whole number is at most one half away. -/
lemma Tie.nearest_bounds (tie : Tie) (num : ℕ) {den : ℕ} (hden : 0 < den) :
    2 * num ≤ 2 * (tie.nearest num den * den) + den ∧
      2 * (tie.nearest num den * den) ≤ 2 * num + den := by
  cases tie with
  | even =>
    have hsplit := Nat.div_add_mod' num den
    have hmod := Nat.mod_lt num hden
    simp only [nearest, nearestEven]
    split
    · omega
    · rw [Nat.add_mul]
      omega
  | up =>
    have hsplit := Nat.div_add_mod' (2 * num + den) (2 * den)
    have hmod := Nat.mod_lt (2 * num + den) (by omega : 0 < 2 * den)
    have hdouble : (2 * num + den) / (2 * den) * (2 * den) =
        2 * ((2 * num + den) / (2 * den) * den) := by ring
    simp only [nearest]
    omega

/-- Half a step of the grid of seventeen digits is near. -/
lemma isNear_of_half {num den units step : ℕ} (hstep : 0 < step)
    (hwide : 10 ^ 16 * step ≤ units * den) (hlow : 2 * (units * den) ≤ 2 * num + step)
    (hhigh : 2 * num ≤ 2 * (units * den) + step) : IsNear num den units := by
  constructor <;> omega

/-- On the grid of seventeen digits a step is small. -/
lemma step_le {units : ℕ} (hpos : 0 < units) {exponent : ℤ}
    (hexponent : leadingExponent units - (16 : ℕ) = exponent) :
    10 ^ 16 * (unitsPerOne * 10 ^ exponent.toNat) ≤ units * 10 ^ (-exponent).toNat := by
  obtain ⟨hlow, -⟩ := leadingExponent_spec hpos rfl
  set leading := leadingExponent units
  have hshift : leading.toNat + (-exponent).toNat = 16 + exponent.toNat + (-leading).toNat := by
    omega
  apply Nat.le_of_mul_le_mul_right _ (Nat.pow_pos (by decide) : 0 < 10 ^ (-leading).toNat)
  calc 10 ^ 16 * (unitsPerOne * 10 ^ exponent.toNat) * 10 ^ (-leading).toNat
      = 10 ^ (16 + exponent.toNat + (-leading).toNat) * unitsPerOne := by
        rw [pow_add, pow_add]
        ring
    _ = 10 ^ leading.toNat * unitsPerOne * 10 ^ (-exponent).toNat := by
        rw [← hshift, pow_add]
        ring
    _ ≤ units * 10 ^ (-leading).toNat * 10 ^ (-exponent).toNat := Nat.mul_le_mul_right _ hlow
    _ = units * 10 ^ (-exponent).toNat * 10 ^ (-leading).toNat := Nat.mul_right_comm _ _ _

/-- On the grid of seventeen digits the nearest decimal reads back. -/
lemma readsBack_nearest (tie : Tie) (hpos : 0 < magnitude.units) {exponent : ℤ}
    (hexponent : leadingExponent magnitude.units - (16 : ℕ) = exponent) :
    (Decimal.mk (tie.nearest (magnitude.units * 10 ^ (-exponent).toNat)
      (unitsPerOne * 10 ^ exponent.toNat)) exponent).readsBack magnitude = true := by
  obtain ⟨hleast, hgreatest⟩ := leadingExponent_bounds hpos rfl
  have hwide := step_le hpos hexponent
  have hstep : 0 < unitsPerOne * 10 ^ exponent.toNat :=
    Nat.mul_pos unitsPerOne_pos (Nat.pow_pos (by decide))
  obtain ⟨hbelow, habove⟩ := tie.nearest_bounds (magnitude.units * 10 ^ (-exponent).toNat) hstep
  set digits := tie.nearest (magnitude.units * 10 ^ (-exponent).toNat)
    (unitsPerOne * 10 ^ exponent.toNat)
  have hdigits : digits ≠ 0 := by
    intro hzero
    rw [hzero] at hbelow
    omega
  have hnum : digits * 10 ^ exponent.toNat * unitsPerOne =
      digits * (unitsPerOne * 10 ^ exponent.toNat) := by ring
  have hlow : -400 ≤ exponent := by omega
  have hhigh : exponent < 400 := by omega
  rw [Decimal.readsBack, decide_eq_true_iff, Binary64.ofDecimal_eq hdigits hlow hhigh, hnum]
  exact (isNear_of_half hstep hwide hbelow habove).ofUnits_eq false

/-! ### The search -/

/-- A grid yields a decimal of its exponent that reads back. -/
lemma readsBack_of_gridDecimal? {exponent : ℤ}
    (h : gridDecimal? tie magnitude exponent = some decimal) :
    decimal.readsBack magnitude = true ∧ decimal.exponent = exponent := by
  unfold gridDecimal? at h
  have hread := List.find?_some h
  obtain ⟨digits, -, rfl⟩ := List.mem_map.mp (List.mem_of_find?_eq_some h)
  exact ⟨hread, rfl⟩

/-- The nearest decimal of a grid is taken if it reads back. -/
lemma gridDecimal?_of_nearest {exponent : ℤ} {num den : ℕ}
    (hquotient : gridQuotient magnitude.units exponent = (num, den))
    (h : (Decimal.mk (tie.nearest num den) exponent).readsBack magnitude = true) :
    gridDecimal? tie magnitude exponent = some ⟨tie.nearest num den, exponent⟩ := by
  unfold gridDecimal?
  rw [hquotient]
  exact List.find?_cons_of_pos h

lemma readsBack_of_firstDecimal? {leading : ℤ} {more : List ℕ}
    (h : firstDecimal? tie magnitude leading more = some decimal) :
    decimal.readsBack magnitude = true ∧
      ∃ places ∈ more, decimal.exponent = leading - places := by
  induction more with
  | nil => cases h
  | cons places rest ih =>
    rcases Option.or_eq_some_iff.mp h with h | ⟨-, h⟩
    · obtain ⟨hread, hexponent⟩ := readsBack_of_gridDecimal? h
      exact ⟨hread, places, List.mem_cons_self, hexponent⟩
    · obtain ⟨hread, found, hmem, hexponent⟩ := ih h
      exact ⟨hread, found, List.mem_cons_of_mem _ hmem, hexponent⟩

lemma firstDecimal?_isSome {leading : ℤ} {more : List ℕ} {places : ℕ} (hmem : places ∈ more)
    (h : (gridDecimal? tie magnitude (leading - places)).isSome = true) :
    (firstDecimal? tie magnitude leading more).isSome = true := by
  induction more with
  | nil => cases hmem
  | cons first rest ih =>
    rw [firstDecimal?, Option.isSome_or, Bool.or_eq_true]
    rcases List.mem_cons.mp hmem with rfl | hmem
    · exact .inl h
    · exact .inr (ih hmem)

/-! ### Zeros at the end -/

/-- A decimal still reads back when its zeros at the end have moved into the exponent. -/
lemma readsBack_normalize {limit : ℕ} (h : decimal.readsBack magnitude = true)
    (hlow : -400 ≤ decimal.exponent) (hhigh : decimal.exponent + limit < 400) :
    (decimal.normalize limit).readsBack magnitude = true := by
  induction limit generalizing decimal with
  | zero => exact h
  | succ limit ih =>
    rw [Decimal.normalize]
    split
    · next hzero =>
      refine ih ?_ ?_ ?_
      · have hdigits : decimal.digits / 10 * 10 = decimal.digits := by omega
        rw [Decimal.readsBack, decide_eq_true_iff] at h ⊢
        rw [← hdigits, Binary64.ofDecimal_mul_ten hlow (by omega)] at h
        exact h
      · dsimp only
        omega
      · dsimp only
        omega
    · exact h

/-- The digits of a positive magnitude read back to it. -/
theorem readsBack_shortest (tie : Tie) (hpos : 0 < magnitude.units) :
    Binary64.ofDecimal false (magnitude.shortest tie).digits (magnitude.shortest tie).exponent =
      .finite false magnitude := by
  obtain ⟨hleast, hgreatest⟩ := leadingExponent_bounds hpos rfl
  have hgrid := gridDecimal?_of_nearest (gridQuotient_eq _ _) (readsBack_nearest tie hpos rfl)
  have hsome :=
    firstDecimal?_isSome (by decide : 16 ∈ List.range 17) (Option.isSome_of_eq_some hgrid)
  obtain ⟨found, hfound⟩ := Option.isSome_iff_exists.mp hsome
  obtain ⟨hread, places, hmem, hexponent⟩ := readsBack_of_firstDecimal? hfound
  have hplaces : places < 17 := List.mem_range.mp hmem
  have hnormal : (found.normalize 17).readsBack magnitude = true :=
    readsBack_normalize hread (by omega) (by omega)
  have hshortest : magnitude.shortest tie = found.normalize 17 := by
    unfold Magnitude.shortest
    dsimp only
    rw [hfound, Option.getD_some]
  rw [Decimal.readsBack, decide_eq_true_iff] at hnormal
  rw [hshortest]
  exact hnormal

/-- A positive magnitude has a digit. -/
lemma digits_shortest_ne_zero (tie : Tie) (hpos : 0 < magnitude.units) :
    (magnitude.shortest tie).digits ≠ 0 := by
  intro hzero
  have hread := readsBack_shortest tie hpos
  unfold Binary64.ofDecimal at hread
  rw [if_pos hzero] at hread
  cases hread
  exact absurd hpos (Nat.lt_irrefl 0)

end HeatingPortal.Number
