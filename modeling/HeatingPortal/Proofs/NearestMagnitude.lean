import HeatingPortal.Proofs.OneDecimal
import Mathlib.Algebra.Order.Field.Power
import Mathlib.Algebra.Order.Floor.Semifield
import Mathlib.Data.Nat.Cast.Order.Field
import Mathlib.Data.Rat.Floor
import Mathlib.Tactic.FieldSimp
import Mathlib.Tactic.Positivity

/-!
# The nearest magnitude

Rounding a quotient yields the magnitude nearest to it, and of two equally near ones the one
whose last bit is zero. This determines the magnitude: between two whose last bits are zero lies
another one, and it is nearer to their midpoint than either.

Rounding counts in steps, the spacing at the quotient. A magnitude that is no multiple of the
step lies below the power of two that the quotient reaches, which is itself a multiple, so none
of them comes nearer. The range ends half a step below `2¹⁰²⁴`.
-/

namespace HeatingPortal.Number

/-! ### Whole numbers -/

/-- The whole number nearest to a number, the even one of two equally near. -/
structure IsNearestWhole (x : ℚ) (whole : ℕ) : Prop where
  near : |x - whole| ≤ 1 / 2
  even : |x - whole| = 1 / 2 → Even whole

/-- Up to half above a whole number, that one is nearest. -/
lemma isNearestWhole_add {whole : ℕ} {rest : ℚ} (hlow : 0 ≤ rest) (hhigh : rest ≤ 1 / 2)
    (heven : rest = 1 / 2 → Even whole) : IsNearestWhole (whole + rest) whole := by
  constructor
  · rwa [add_sub_cancel_left, abs_of_nonneg hlow]
  · rwa [add_sub_cancel_left, abs_of_nonneg hlow]

/-- From half above a whole number on, the next one is nearest. -/
lemma isNearestWhole_add_one {whole : ℕ} {rest : ℚ} (hlow : 1 / 2 ≤ rest) (hhigh : rest ≤ 1)
    (heven : rest = 1 / 2 → Even (whole + 1)) : IsNearestWhole (whole + rest) (whole + 1) := by
  have hdist : |(whole : ℚ) + rest - (whole + 1 : ℕ)| = 1 - rest := by
    rw [abs_sub_comm, abs_of_nonneg] <;> push_cast <;> linarith
  constructor
  · rw [hdist]
    linarith
  · rw [hdist]
    intro htie
    exact heven (by linarith)

lemma isNearestWhole_nearestEven (num : ℕ) {den : ℕ} (hden : 0 < den) :
    IsNearestWhole (num / den) (nearestEven num den) := by
  have hpos : (0 : ℚ) < den := by exact_mod_cast hden
  have hsplit : (num : ℚ) / den = (num / den : ℕ) + (num % den : ℕ) / den := by
    have hnum : (num : ℚ) = (num / den : ℕ) * den + (num % den : ℕ) := by
      exact_mod_cast (Nat.div_add_mod' num den).symm
    rw [hnum]
    field_simp
  have htie (h : ((num % den : ℕ) : ℚ) / den = 1 / 2) : num % den * 2 = den := by
    rw [div_eq_div_iff hpos.ne' two_ne_zero, one_mul] at h
    exact_mod_cast h
  simp only [nearestEven]
  rw [hsplit]
  split
  · next hdown =>
    have hhalf : ((num % den : ℕ) : ℚ) / den ≤ 1 / 2 := by
      have hle : num % den * 2 ≤ den := by omega
      rw [div_le_div_iff₀ hpos two_pos, one_mul]
      exact_mod_cast hle
    refine isNearestWhole_add (by positivity) hhalf fun h => ?_
    have htwice := htie h
    rw [Nat.even_iff]
    omega
  · next hup =>
    have hhalf : 1 / 2 ≤ ((num % den : ℕ) : ℚ) / den := by
      have hle : den ≤ num % den * 2 := by omega
      rw [div_le_div_iff₀ two_pos hpos, one_mul]
      exact_mod_cast hle
    have hone : ((num % den : ℕ) : ℚ) / den ≤ 1 := by
      rw [div_le_one hpos]
      exact_mod_cast (Nat.mod_lt num hden).le
    refine isNearestWhole_add_one hhalf hone fun h => ?_
    have htwice := htie h
    rw [Nat.even_iff]
    omega

/-- Between two whole numbers there is at least one. -/
lemma one_le_abs_sub_add_abs_sub {first second : ℕ} (hne : first ≠ second) (x : ℚ) :
    1 ≤ |x - first| + |x - second| := by
  have hone : (1 : ℚ) ≤ |(second : ℚ) - first| := by
    have hint : (1 : ℤ) ≤ |(second : ℤ) - first| := Int.one_le_abs (by omega)
    exact_mod_cast hint
  calc (1 : ℚ) ≤ |(x - first) - (x - second)| := by
        rw [sub_sub_sub_cancel_left]
        exact hone
    _ ≤ |x - first| + |x - second| := abs_sub _ _

namespace IsNearestWhole

variable {x : ℚ} {whole : ℕ}

lemma le_abs (h : IsNearestWhole x whole) (other : ℕ) : |x - whole| ≤ |x - other| := by
  by_cases hsame : other = whole
  · rw [hsame]
  have hone := one_le_abs_sub_add_abs_sub hsame x
  linarith [h.near]

lemma even_of_eq (h : IsNearestWhole x whole) {other : ℕ} (hne : other ≠ whole)
    (heq : |x - other| = |x - whole|) : Even whole := by
  have hone := one_le_abs_sub_add_abs_sub hne x
  exact h.even (le_antisymm h.near (by linarith))

/-- An even number is not reached exactly up to the midpoint below it. -/
lemma lt_iff (h : IsNearestWhole x whole) {bound : ℕ} (hbound : Even bound) :
    whole < bound ↔ x < bound - 1 / 2 := by
  have hnear := abs_le.mp h.near
  constructor
  · intro hlt
    by_contra hreached
    have hle : (whole : ℚ) + 1 ≤ bound := by exact_mod_cast hlt
    have hhalf : x - whole = 1 / 2 := by linarith
    have hnext : whole + 1 = bound := by
      have hcast : (whole : ℚ) + 1 = bound := by linarith
      exact_mod_cast hcast
    have heven := h.even (by rw [hhalf, abs_of_pos (by norm_num)])
    rw [Nat.even_iff] at heven hbound
    omega
  · intro hlt
    have hcast : (whole : ℚ) < bound := by linarith
    exact_mod_cast hcast

/-- There is one nearest whole number only. -/
lemma unique (h : IsNearestWhole x whole) {other : ℕ} (hother : IsNearestWhole x other) :
    whole = other := by
  by_contra hne
  have heq : |x - other| = |x - whole| := le_antisymm (hother.le_abs whole) (h.le_abs other)
  have hfirst := h.even_of_eq (Ne.symm hne) heq
  have hsecond := hother.even_of_eq hne heq.symm
  have hnear : |(whole : ℚ) - other| ≤ 1 := by
    calc |(whole : ℚ) - other| = |(x - other) - (x - whole)| := by rw [sub_sub_sub_cancel_left]
      _ ≤ |x - other| + |x - whole| := abs_sub _ _
      _ ≤ 1 := by linarith [h.near, hother.near]
  have hnear : |(whole : ℤ) - other| ≤ 1 := by exact_mod_cast hnear
  rw [abs_le] at hnear
  rw [Nat.even_iff] at hfirst hsecond
  omega

end IsNearestWhole

/-! ### Steps -/

section

variable {num den : ℕ}

/-- A power of two that a positive whole part reaches. -/
lemma two_pow_log2_le (hden : 0 < den) (hfloor : num / den ≠ 0) :
    (2 ^ (num / den).log2 : ℕ) ≤ (num / den : ℚ) := by
  have hpos : (0 : ℚ) < den := by exact_mod_cast hden
  have hle : 2 ^ (num / den).log2 * den ≤ num :=
    (Nat.le_div_iff_mul_le hden).mp (Nat.log2_self_le hfloor)
  rw [le_div_iff₀ hpos]
  exact_mod_cast hle

/-- The distance to a multiple of the step at a quotient, counted in steps. -/
lemma abs_sub_mul_spacing (num den count : ℕ) :
    |(num / den : ℚ) - (count * spacing (num / den) : ℕ)| =
      spacing (num / den) *
        |(num : ℚ) / (den * spacing (num / den) : ℕ) - count| := by
  have hstep : (0 : ℚ) < spacing (num / den) := by exact_mod_cast powerOfTwo_pos _
  have hsteps : (num / den : ℚ) - (count * spacing (num / den) : ℕ) =
      spacing (num / den) * ((num : ℚ) / (den * spacing (num / den) : ℕ) - count) := by
    push_cast
    field_simp
  rw [hsteps, abs_mul, abs_of_pos hstep]

lemma isNearestWhole_steps (num : ℕ) (hden : 0 < den) :
    IsNearestWhole (num / (den * spacing (num / den) : ℕ))
      (nearestEven num (den * spacing (num / den))) :=
  isNearestWhole_nearestEven num (Nat.mul_pos hden (powerOfTwo_pos _))

/-- No multiple of the step is nearer than the rounded quotient, and where one is as near, the
rounded quotient is an even number of steps. -/
lemma roundedUnits_nearest_of_dvd (hden : 0 < den) {other : ℕ}
    (hdvd : spacing (num / den) ∣ other) :
    |(num / den : ℚ) - roundedUnits num den| ≤ |(num / den : ℚ) - other| ∧
      (other ≠ roundedUnits num den →
        |(num / den : ℚ) - other| = |(num / den : ℚ) - roundedUnits num den| →
        Even (nearestEven num (den * spacing (num / den)))) := by
  obtain ⟨count, rfl⟩ := hdvd
  have hsteps := isNearestWhole_steps num hden
  have hstep : (0 : ℚ) < spacing (num / den) := by exact_mod_cast powerOfTwo_pos _
  rw [Nat.mul_comm, roundedUnits, abs_sub_mul_spacing, abs_sub_mul_spacing]
  constructor
  · exact mul_le_mul_of_nonneg_left (hsteps.le_abs count) hstep.le
  · intro hne heq
    refine hsteps.even_of_eq ?_ (mul_left_cancel₀ hstep.ne' heq)
    rintro rfl
    exact hne rfl

lemma Magnitude.spacing_dvd (magnitude : Magnitude) :
    spacing magnitude.units ∣ magnitude.units :=
  Nat.dvd_of_mod_eq_zero magnitude.sound.1

/-- A magnitude is a multiple of the step at a whole number, or lies below the power of two that
the number reaches. -/
lemma spacing_dvd_or_lt (magnitude : Magnitude) (whole : ℕ) :
    spacing whole ∣ magnitude.units ∨ 52 < whole.log2 ∧ magnitude.units < 2 ^ whole.log2 := by
  by_cases hfine : whole.log2 - 52 ≤ magnitude.units.log2 - 52
  · left
    refine Dvd.dvd.trans ?_ magnitude.spacing_dvd
    rw [spacing_eq]
    exact Nat.pow_dvd_pow 2 hfine
  · right
    refine ⟨by omega, ?_⟩
    calc magnitude.units < 2 ^ (magnitude.units.log2 + 1) := Nat.lt_log2_self
      _ ≤ 2 ^ whole.log2 := Nat.pow_le_pow_right (by decide) (by omega)

/-- No magnitude is nearer than the rounded quotient, and where one is as near, the rounded
quotient is an even number of steps. -/
lemma roundedUnits_nearest (num : ℕ) (hden : 0 < den) (other : Magnitude) :
    |(num / den : ℚ) - roundedUnits num den| ≤ |(num / den : ℚ) - other.units| ∧
      (other.units ≠ roundedUnits num den →
        |(num / den : ℚ) - other.units| = |(num / den : ℚ) - roundedUnits num den| →
        Even (nearestEven num (den * spacing (num / den)))) := by
  rcases spacing_dvd_or_lt other (num / den) with hdvd | ⟨hlong, hbelow⟩
  · exact roundedUnits_nearest_of_dvd hden hdvd
  · -- The power of two between the other magnitude and the quotient is nearer than the former.
    have hreached : (2 ^ (num / den).log2 : ℕ) ≤ (num / den : ℚ) := by
      apply two_pow_log2_le hden
      intro hzero
      rw [hzero] at hlong
      contradiction
    have hbelow : (other.units : ℚ) < (2 ^ (num / den).log2 : ℕ) := by exact_mod_cast hbelow
    obtain ⟨hnearest, -⟩ := roundedUnits_nearest_of_dvd hden (spacing_dvd_two_pow le_rfl)
    have hnearer : |(num / den : ℚ) - (2 ^ (num / den).log2 : ℕ)| <
        |(num / den : ℚ) - other.units| := by
      rw [abs_of_nonneg (sub_nonneg.mpr hreached),
        abs_of_nonneg (sub_nonneg.mpr (hbelow.le.trans hreached))]
      exact sub_lt_sub_left hbelow _
    exact ⟨hnearest.trans hnearer.le, fun _ heq => absurd heq (hnearest.trans_lt hnearer).ne'⟩

/-- An even number of steps has an even last bit. -/
lemma even_div_spacing {whole units : ℕ} (hdvd : spacing whole ∣ units)
    (hle : units ≤ 2 ^ (whole.log2 + 1)) (h : Even (units / spacing whole)) :
    Even (units / spacing units) := by
  rcases hle.eq_or_lt with hpower | hbelow
  · -- A power of two has all its other bits zero.
    rw [hpower, spacing_eq, Nat.log2_two_pow, Nat.pow_div (by omega) (by decide)]
    exact Nat.even_pow.mpr ⟨even_two, by omega⟩
  · -- In the same binade the step is a multiple of the spacing.
    have hfiner : spacing units ∣ spacing whole := spacing_dvd_spacing hbelow
    have hsplit : units / spacing units =
        units / spacing whole * (spacing whole / spacing units) := by
      rw [Nat.div_mul_div_comm hdvd hfiner, Nat.mul_comm units,
        Nat.mul_div_mul_left _ _ (spacing_pos whole)]
    rw [hsplit]
    exact h.mul_right _

/-! ### The end of the range -/

lemma lt_div_add_one (num den : ℕ) : (num / den : ℚ) < (num / den : ℕ) + 1 := by
  rw [← Nat.floor_div_eq_div (K := ℚ)]
  exact Nat.lt_floor_add_one _

/-- Rounding never falls below a power of two that is reached. -/
lemma two_pow_log2_le_roundedUnits (hden : 0 < den) (hfloor : num / den ≠ 0) :
    2 ^ (num / den).log2 ≤ roundedUnits num den := by
  have hreached := two_pow_log2_le hden hfloor
  obtain ⟨hnearest, -⟩ := roundedUnits_nearest_of_dvd hden (spacing_dvd_two_pow le_rfl)
  rw [abs_of_nonneg (sub_nonneg.mpr hreached)] at hnearest
  have hle := le_of_abs_le hnearest
  have hcast : ((2 ^ (num / den).log2 : ℕ) : ℚ) ≤ roundedUnits num den := by linarith
  exact_mod_cast hcast

/-- Rounding stays below a power of two exactly up to half a step below it: at the midpoint the
power is the even one of two neighbours. -/
theorem roundedUnits_lt_two_pow_iff (num : ℕ) (hden : 0 < den) (top : ℕ) :
    roundedUnits num den < 2 ^ (top + 54) ↔ (num / den : ℚ) < 2 ^ (top + 54) - 2 ^ top := by
  have htop : (0 : ℚ) < 2 ^ top := by positivity
  rcases lt_trichotomy (num / den).log2 (top + 53) with hlower | hlast | hbeyond
  · have hpower : 2 ^ ((num / den).log2 + 1) ≤ 2 ^ (top + 53) :=
      Nat.pow_le_pow_right (by decide) hlower
    have hrounded : roundedUnits num den < 2 ^ (top + 54) := by
      calc roundedUnits num den ≤ 2 ^ (top + 53) := (roundedUnits_le num den).trans hpower
        _ < 2 ^ (top + 54) := Nat.pow_lt_pow_right (by decide) (by omega)
    have hfloor : ((num / den : ℕ) : ℚ) + 1 ≤ 2 ^ (top + 53) := by
      exact_mod_cast Nat.lt_log2_self.trans_le hpower
    refine iff_of_true hrounded ?_
    calc (num / den : ℚ) < (num / den : ℕ) + 1 := lt_div_add_one num den
      _ ≤ 2 ^ (top + 53) := hfloor
      _ < 2 ^ (top + 54) - 2 ^ top := by
        ring_nf
        linarith
  · have hstep : spacing (num / den) = 2 * 2 ^ top := by
      rw [spacing_eq, hlast, ← Nat.pow_succ']
      rfl
    have hend : (2 ^ (top + 54) : ℕ) = 2 ^ 53 * (2 * 2 ^ top) := by ring
    have hsteps := isNearestWhole_steps num hden
    rw [roundedUnits]
    rw [hstep] at hsteps ⊢
    rw [hend, Nat.mul_lt_mul_right (by positivity), hsteps.lt_iff (by decide)]
    push_cast
    rw [div_lt_iff₀ (by positivity), div_lt_iff₀ (by exact_mod_cast hden)]
    exact iff_of_eq (congrArg ((num : ℚ) < ·) (by ring))
  · have hnonzero : num / den ≠ 0 := by
      intro hzero
      simp [hzero] at hbeyond
    have hpower : 2 ^ (top + 54) ≤ 2 ^ (num / den).log2 :=
      Nat.pow_le_pow_right (by decide) hbeyond
    refine iff_of_false ?_ ?_
    · exact not_lt.mpr (hpower.trans (two_pow_log2_le_roundedUnits hden hnonzero))
    · rw [not_lt]
      calc (2 ^ (top + 54) - 2 ^ top : ℚ) ≤ 2 ^ (top + 54) := by linarith
        _ ≤ (2 ^ (num / den).log2 : ℕ) := by exact_mod_cast hpower
        _ ≤ num / den := two_pow_log2_le hden hnonzero

end

/-! ### Magnitudes -/

lemma cast_unitsPerOne_pos : (0 : ℚ) < unitsPerOne := by
  exact_mod_cast unitsPerOne_pos

/-- The number that a magnitude stands for. -/
def Magnitude.toRat (magnitude : Magnitude) : ℚ :=
  magnitude.units / unitsPerOne

/-- The last of the bits that a magnitude keeps is zero. -/
def Magnitude.IsEven (magnitude : Magnitude) : Prop :=
  Even (magnitude.units / spacing magnitude.units)

/-- The magnitude nearest to a number, the even one of two equally near. -/
structure Magnitude.IsNearest (magnitude : Magnitude) (size : ℚ) : Prop where
  le_abs (other : Magnitude) : |size - magnitude.toRat| ≤ |size - other.toRat|
  even (other : Magnitude) (hne : other.toRat ≠ magnitude.toRat)
    (heq : |size - other.toRat| = |size - magnitude.toRat|) : magnitude.IsEven

namespace Magnitude

variable {magnitude other : Magnitude} {size : ℚ}

lemma units_injective (h : magnitude.units = other.units) : magnitude = other := by
  cases magnitude
  cases other
  cases h
  rfl

lemma toRat_nonneg (magnitude : Magnitude) : 0 ≤ magnitude.toRat := by
  rw [toRat]
  positivity

lemma toRat_of_units_eq_zero (h : magnitude.units = 0) : magnitude.toRat = 0 := by
  rw [toRat, h, Nat.cast_zero, zero_div]

lemma toRat_zero : Magnitude.zero.toRat = 0 :=
  toRat_of_units_eq_zero rfl

/-- Distances in units. -/
lemma abs_sub_toRat (num den : ℕ) (magnitude : Magnitude) :
    |(num / den / unitsPerOne : ℚ) - magnitude.toRat| =
      |(num / den : ℚ) - magnitude.units| / unitsPerOne := by
  have hpos := cast_unitsPerOne_pos
  rw [toRat, ← sub_div, abs_div, abs_of_pos hpos]

/-- What rounding yields is nearest, if it is not too large. -/
lemma isNearest_roundedUnits (num : ℕ) {den : ℕ} (hden : 0 < den)
    (sound : IsMagnitude (roundedUnits num den)) :
    IsNearest ⟨roundedUnits num den, sound⟩ (num / den / unitsPerOne) := by
  have hpos := cast_unitsPerOne_pos
  constructor
  · intro other
    rw [abs_sub_toRat, abs_sub_toRat]
    exact div_le_div_of_nonneg_right (roundedUnits_nearest num hden other).1 hpos.le
  · intro other hne heq
    rw [abs_sub_toRat, abs_sub_toRat, div_left_inj' hpos.ne'] at heq
    have hunits : other.units ≠ roundedUnits num den := by
      intro h
      exact hne (congrArg (fun units : ℕ => (units / unitsPerOne : ℚ)) h)
    have heven := (roundedUnits_nearest num hden other).2 hunits heq
    refine even_div_spacing (Nat.dvd_mul_left _ _) (roundedUnits_le num den) ?_
    change Even (nearestEven num (den * spacing (num / den)) * spacing (num / den) / _)
    rwa [Nat.mul_div_cancel _ (spacing_pos _)]

/-- Between two magnitudes whose last bits are zero lies another one. -/
lemma exists_between (hlt : magnitude.units < other.units) (hfirst : magnitude.IsEven)
    (hsecond : other.IsEven) :
    ∃ middle : Magnitude, magnitude.units < middle.units ∧ middle.units < other.units := by
  have hself := magnitude.spacing_dvd
  have hother : spacing magnitude.units ∣ other.units :=
    (spacing_dvd_spacing (hlt.trans Nat.lt_log2_self)).trans other.spacing_dvd
  have hstep : 0 < spacing magnitude.units := powerOfTwo_pos _
  have hnext : magnitude.units + spacing magnitude.units ≤ other.units :=
    add_le_of_dvd hself hother hlt
  have hend : magnitude.units + spacing magnitude.units ≤ 2 ^ (magnitude.units.log2 + 1) :=
    add_le_of_dvd hself (spacing_dvd_two_pow (Nat.le_succ _)) Nat.lt_log2_self
  rcases hnext.lt_or_eq with hbetween | hadjacent
  · have hsound : IsMagnitude (magnitude.units + spacing magnitude.units) := by
      refine ⟨Nat.mod_eq_zero_of_dvd ?_, hbetween.trans other.sound.2⟩
      exact spacing_dvd_self (Nat.dvd_add_self_right.mpr hself) hend
    exact ⟨⟨_, hsound⟩, Nat.lt_add_of_pos_right hstep, hbetween⟩
  · -- Adjacent magnitudes are consecutive numbers of steps, so one of the two is odd.
    have heven : Even (other.units / spacing magnitude.units) := by
      rw [hadjacent] at hend
      rcases hend.eq_or_lt with hpower | hbelow
      · rw [hpower, spacing_eq, Nat.pow_div (by omega) (by decide)]
        exact Nat.even_pow.mpr ⟨even_two, by omega⟩
      · have hsame : spacing magnitude.units = spacing other.units :=
          Nat.dvd_antisymm (spacing_dvd_spacing (hlt.trans Nat.lt_log2_self))
            (spacing_dvd_spacing hbelow)
        rw [hsame]
        exact hsecond
    rw [← hadjacent, Nat.add_div_right _ hstep, Nat.even_add_one] at heven
    exact absurd hfirst heven

/-- Of two nearest magnitudes neither is greater. -/
lemma IsNearest.units_le (h : magnitude.IsNearest size) (hother : other.IsNearest size) :
    other.units ≤ magnitude.units := by
  by_contra hlt
  have hlt := not_le.mp hlt
  have hpos := cast_unitsPerOne_pos
  have hrat {first second : Magnitude} (hlt : first.units < second.units) :
      first.toRat < second.toRat :=
    div_lt_div_of_pos_right (by exact_mod_cast hlt) hpos
  have hne := (hrat hlt).ne
  have heq : |size - other.toRat| = |size - magnitude.toRat| :=
    le_antisymm (hother.le_abs magnitude) (h.le_abs other)
  obtain ⟨middle, hlow, hhigh⟩ := exists_between hlt (h.even other hne.symm heq)
    (hother.even magnitude hne heq.symm)
  have hlow := hrat hlow
  have hhigh := hrat hhigh
  -- The number is the midpoint of the two, to which whatever lies between them is nearer.
  have hmiddle := h.le_abs middle
  rcases abs_eq_abs.mp heq with hsame | hopposite
  · linarith
  · rw [abs_of_nonneg (by linarith : 0 ≤ size - magnitude.toRat)] at hmiddle
    exact absurd hmiddle (not_le.mpr (abs_lt.mpr ⟨by linarith, by linarith⟩))

/-- There is one nearest magnitude only. -/
lemma IsNearest.unique (h : magnitude.IsNearest size) (hother : other.IsNearest size) :
    magnitude = other :=
  units_injective (le_antisymm (hother.units_le h) (h.units_le hother))

/-- Zero is nearest to a number below half a unit. -/
lemma isNearest_zero (hlow : 0 ≤ size) (hhigh : size < 1 / unitsPerOne / 2) :
    Magnitude.zero.IsNearest size := by
  have hpos := cast_unitsPerOne_pos
  constructor
  · intro other
    rw [toRat_zero, sub_zero, abs_of_nonneg hlow]
    by_cases hsame : other.units = 0
    · rw [toRat_of_units_eq_zero hsame, sub_zero, abs_of_nonneg hlow]
    have hone : (1 : ℚ) ≤ other.units := by exact_mod_cast Nat.one_le_iff_ne_zero.mpr hsame
    have hunit : 1 / (unitsPerOne : ℚ) ≤ other.toRat := div_le_div_of_nonneg_right hone hpos.le
    rw [abs_sub_comm, abs_of_nonneg (by linarith)]
    linarith
  · intro _ _ _
    exact ⟨0, Nat.zero_div _⟩

end Magnitude

end HeatingPortal.Number
