import HeatingPortal.Proofs.Literals
import HeatingPortal.Proofs.NearestDouble

/-!
# Plain decimals

A plain decimal is one or more ASCII digits after at most one sign, and optionally a point with
more digits after it. The check of a number accepts the plain decimals below the end of the
range, and nothing else, as the double nearest to what they spell, with the sign written. In
particular blanks, exponents, a point in front, and digits of other scripts are refused.
-/

namespace HeatingPortal.Number

/-! ### The grammar -/

/-- A text of digits, and possibly a point and more digits, that spells a number. -/
inductive IsUnsignedDecimal : List Char → ℚ → Prop
  | whole {digits : List Char} (hne : digits ≠ []) (hdigits : ∀ c ∈ digits, c.isDigit = true) :
      IsUnsignedDecimal digits (Nat.ofDigitChars 10 digits 0)
  | point {digits fraction : List Char} (hne : digits ≠ [])
      (hdigits : ∀ c ∈ digits, c.isDigit = true) (hfraction : ∀ c ∈ fraction, c.isDigit = true) :
      IsUnsignedDecimal (digits ++ '.' :: fraction)
        (Nat.ofDigitChars 10 digits 0 + Nat.ofDigitChars 10 fraction 0 / 10 ^ fraction.length)

/-- A text that spells a number, with the sign and the absolute value that it spells. -/
inductive IsDecimal : List Char → Bool → ℚ → Prop
  | unsigned {text : List Char} {size : ℚ} (h : IsUnsignedDecimal text size) :
      IsDecimal text false size
  | plus {text : List Char} {size : ℚ} (h : IsUnsignedDecimal text size) :
      IsDecimal ('+' :: text) false size
  | minus {text : List Char} {size : ℚ} (h : IsUnsignedDecimal text size) :
      IsDecimal ('-' :: text) true size

/-! ### Reading -/

/-- The digits on both sides of a point, as one number counted in units of the last digit. -/
lemma cast_ofDigitChars (whole : ℕ) (fraction : List Char) :
    (Nat.ofDigitChars 10 fraction whole * 10 ^ (-(fraction.length : ℤ)) : ℚ) =
      whole + Nat.ofDigitChars 10 fraction 0 / 10 ^ fraction.length := by
  have hpos : (10 ^ fraction.length : ℚ) ≠ 0 := by positivity
  rw [Nat.ofDigitChars_eq_ofDigitChars_zero, zpow_neg, zpow_natCast, ← div_eq_mul_inv]
  push_cast
  rw [add_div, mul_div_cancel_left₀ _ hpos]

section

variable {text : List Char}

/-- What is read before and after the first point makes a decimal. -/
lemma isUnsignedDecimal_of_read {whole digits : ℕ}
    (hwhole : Text.natural? (text.takeWhile (· != '.')) = some whole)
    (hdigits : Text.foldDigits whole ((text.dropWhile (· != '.')).drop 1) = some digits) :
    IsUnsignedDecimal text
      (digits * 10 ^ (-(((text.dropWhile (· != '.')).drop 1).length : ℤ))) := by
  obtain ⟨hne, hbefore, rfl⟩ := Text.natural?_eq_some_iff.mp hwhole
  have hsplit : text.takeWhile (· != '.') ++ text.dropWhile (· != '.') = text :=
    List.takeWhile_append_dropWhile
  cases hafter : text.dropWhile (· != '.') with
  | nil =>
    rw [hafter] at hdigits
    rw [hafter, List.append_nil] at hsplit
    rw [hsplit] at hne hbefore hdigits
    cases hdigits
    simpa using IsUnsignedDecimal.whole hne hbefore
  | cons c fraction =>
    have hpoint : c = '.' := by
      have hhead := List.head?_dropWhile_not (· != '.') text
      rw [hafter] at hhead
      simpa using hhead
    rw [hafter, List.drop_one, List.tail_cons] at hdigits
    have hfraction := Text.isDigit_of_foldDigits hdigits
    rw [Text.foldDigits_of_isDigit hfraction] at hdigits
    cases hdigits
    rw [List.drop_one, List.tail_cons, cast_ofDigitChars]
    rw [hafter, hpoint] at hsplit
    nth_rewrite 1 [← hsplit]
    exact .point hne hbefore hfraction

/-- A digit is no point. -/
lemma ne_point_of_isDigit (h : ∀ c ∈ text, c.isDigit = true) :
    ∀ c ∈ text, (c != '.') = true := by
  intro c hmem
  rw [bne_iff_ne]
  rintro rfl
  exact absurd (h _ hmem) (by decide)

/-- The digits of a decimal are read before and after the first point. -/
lemma IsUnsignedDecimal.exists_read {size : ℚ} (h : IsUnsignedDecimal text size) :
    ∃ whole digits : ℕ, Text.natural? (text.takeWhile (· != '.')) = some whole ∧
      Text.foldDigits whole ((text.dropWhile (· != '.')).drop 1) = some digits ∧
      size = digits * 10 ^ (-(((text.dropWhile (· != '.')).drop 1).length : ℤ)) := by
  cases h with
  | whole hne hdigits =>
    have hbefore := ne_point_of_isDigit hdigits
    have hwhole : text.takeWhile (· != '.') = text := List.takeWhile_eq_self_iff.mpr hbefore
    have hnone : text.dropWhile (· != '.') = [] := List.dropWhile_eq_nil_iff.mpr hbefore
    rw [hwhole, hnone]
    refine ⟨_, _, Text.natural?_eq_some_iff.mpr ⟨hne, hdigits, rfl⟩, rfl, ?_⟩
    simp
  | @point digits fraction hne hdigits hfraction =>
    have hbefore := ne_point_of_isDigit hdigits
    have hwhole : (digits ++ '.' :: fraction).takeWhile (· != '.') = digits := by
      rw [List.takeWhile_append_of_pos hbefore]
      simp
    have hpoint : (digits ++ '.' :: fraction).dropWhile (· != '.') = '.' :: fraction := by
      rw [List.dropWhile_append_of_pos hbefore]
      simp
    rw [hwhole, hpoint, List.drop_one, List.tail_cons]
    exact ⟨_, _, Text.natural?_eq_some_iff.mpr ⟨hne, hdigits, rfl⟩,
      Text.foldDigits_of_isDigit hfraction _, (cast_ofDigitChars _ _).symm⟩

/-- A decimal without a sign begins with a digit. -/
lemma IsUnsignedDecimal.splitSign_eq {size : ℚ} (h : IsUnsignedDecimal text size) :
    Text.splitSign text = (false, text) := by
  have hdigit : ∃ c rest, text = c :: rest ∧ c.isDigit = true := by
    cases h with
    | whole hne hdigits =>
      obtain ⟨c, rest, rfl⟩ := List.exists_cons_of_ne_nil hne
      exact ⟨c, rest, rfl, hdigits c List.mem_cons_self⟩
    | point hne hdigits _ =>
      obtain ⟨c, rest, rfl⟩ := List.exists_cons_of_ne_nil hne
      exact ⟨c, _, rfl, hdigits c List.mem_cons_self⟩
  obtain ⟨c, rest, rfl, hc⟩ := hdigit
  have hsign := Binary64.splitSign_signed false hc rest
  rwa [Layout.signed, String.toList_ofList] at hsign

/-- The sign that is split off makes a decimal of the rest one with that sign. -/
lemma isDecimal_of_splitSign {negative : Bool} {rest : List Char} {size : ℚ}
    (hsign : Text.splitSign text = (negative, rest)) (h : IsUnsignedDecimal rest size) :
    IsDecimal text negative size := by
  unfold Text.splitSign at hsign
  split at hsign
  · cases hsign
    exact .plus h
  · cases hsign
    exact .minus h
  · cases hsign
    exact .unsigned h

end

namespace Binary64

variable {text : String} {negative : Bool} {size : ℚ}

/-- What is read is the rounded value of a decimal. -/
lemma exists_isDecimal {value : Binary64} (h : ofPlainDecimal? text = some value) :
    ∃ (negative : Bool) (digits : ℕ) (exponent : ℤ), value = ofDecimal negative digits exponent ∧
      IsDecimal text.toList negative (digits * 10 ^ exponent) := by
  cases hsign : Text.splitSign text.toList with
  | mk negative rest =>
    simp only [ofPlainDecimal?, hsign] at h
    obtain ⟨whole, hwhole, hrest⟩ := Option.bind_eq_some_iff.mp h
    obtain ⟨digits, hdigits, rfl⟩ := Option.map_eq_some_iff.mp hrest
    exact ⟨negative, digits, _, rfl,
      isDecimal_of_splitSign hsign (isUnsignedDecimal_of_read hwhole hdigits)⟩

/-- Every decimal is read, as its rounded value. -/
lemma exists_ofPlainDecimal?_of_isDecimal (h : IsDecimal text.toList negative size) :
    ∃ (digits : ℕ) (exponent : ℤ), size = digits * 10 ^ exponent ∧
      ofPlainDecimal? text = some (ofDecimal negative digits exponent) := by
  have hread {rest : List Char} (hsign : Text.splitSign text.toList = (negative, rest))
      (hrest : IsUnsignedDecimal rest size) :
      ∃ (digits : ℕ) (exponent : ℤ), size = digits * 10 ^ exponent ∧
        ofPlainDecimal? text = some (ofDecimal negative digits exponent) := by
    obtain ⟨whole, digits, hwhole, hdigits, hsize⟩ := hrest.exists_read
    refine ⟨digits, _, hsize, ?_⟩
    simp only [ofPlainDecimal?, hsign, hwhole, Option.bind_some, hdigits, Option.map_some]
  generalize htext : text.toList = cs at h hread
  cases h with
  | unsigned h => exact hread h.splitSign_eq h
  | plus h | minus h => exact hread rfl h

end Binary64

/-! ### Two filters

A plain decimal is a text that passes two filters: the pattern of number fields, whose digits may
be those of any script, and the grammar of floating-point texts, which has ASCII digits only but
also exponents, numbers without a whole part, and words.
-/

/-- The signs that may stand in front of a number. -/
def signs : List (List Char) :=
  [[], ['+'], ['-']]

/-- What may separate a whole part from a fraction. -/
def points : List (List Char) :=
  [[], ['.']]

/-- A text of an optional sign, digits, an optional point and further digits,
over a class of digits. -/
inductive MatchesPattern (isNumeral : Char → Bool) : List Char → Prop
  | intro {sign digits point fraction : List Char} (hsign : sign ∈ signs) (hne : digits ≠ [])
      (hdigits : ∀ c ∈ digits, isNumeral c = true) (hpoint : point ∈ points)
      (hfraction : ∀ c ∈ fraction, isNumeral c = true) :
      MatchesPattern isNumeral (sign ++ (digits ++ (point ++ fraction)))

/-- The end of a floating-point text: nothing, or an exponent. -/
inductive IsExponent : List Char → Prop
  | none : IsExponent []
  | some {mark : Char} {sign digits : List Char} (hmark : mark ∈ ['e', 'E'])
      (hsign : sign ∈ signs) (hne : digits ≠ []) (hdigits : ∀ c ∈ digits, c.isDigit = true) :
      IsExponent (mark :: (sign ++ digits))

/-- A floating-point text: a word for infinity or no number in whatever case, or digits with an
optional point anywhere and an optional exponent. -/
inductive IsFloatText : List Char → Prop
  | word {sign word : List Char} (hsign : sign ∈ signs)
      (hword : word.map Char.toLower ∈ ["inf".toList, "infinity".toList, "nan".toList]) :
      IsFloatText (sign ++ word)
  | number {sign digits point fraction exponent : List Char} (hsign : sign ∈ signs)
      (hne : digits ++ fraction ≠ []) (hdigits : ∀ c ∈ digits, c.isDigit = true)
      (hpoint : point ∈ points) (hfraction : ∀ c ∈ fraction, c.isDigit = true)
      (hexponent : IsExponent exponent) :
      IsFloatText (sign ++ (digits ++ (point ++ (fraction ++ exponent))))

section

variable {text : List Char}

lemma IsUnsignedDecimal.matchesPattern {sign : List Char} {size : ℚ}
    (h : IsUnsignedDecimal text size) (hsign : sign ∈ signs) :
    MatchesPattern Char.isDigit (sign ++ text) := by
  cases h with
  | whole hne hdigits =>
    have hpoint : [] ∈ points := by decide
    simpa using MatchesPattern.intro hsign hne hdigits hpoint (List.forall_mem_nil _)
  | point hne hdigits hfraction =>
    have hpoint : ['.'] ∈ points := by decide
    exact .intro hsign hne hdigits hpoint hfraction

/-- Digits with an optional point are a decimal. -/
lemma exists_isUnsignedDecimal {digits point fraction : List Char} (hne : digits ≠ [])
    (hdigits : ∀ c ∈ digits, c.isDigit = true) (hpoint : point ∈ points)
    (hfraction : ∀ c ∈ fraction, c.isDigit = true) :
    ∃ size, IsUnsignedDecimal (digits ++ (point ++ fraction)) size := by
  simp only [points, List.mem_cons, List.not_mem_nil, or_false] at hpoint
  rcases hpoint with rfl | rfl
  · have hall : ∀ c ∈ digits ++ fraction, c.isDigit = true :=
      List.forall_mem_append.mpr ⟨hdigits, hfraction⟩
    exact ⟨_, .whole (List.append_ne_nil_of_left_ne_nil hne fraction) hall⟩
  · exact ⟨_, .point hne hdigits hfraction⟩

/-- The plain decimals are the texts of the pattern with ASCII digits. -/
lemma exists_isDecimal_iff_matchesPattern :
    (∃ negative size, IsDecimal text negative size) ↔ MatchesPattern Char.isDigit text := by
  constructor
  · rintro ⟨negative, size, h⟩
    cases h with
    | unsigned h => exact h.matchesPattern (by decide : [] ∈ signs)
    | plus h => exact h.matchesPattern (by decide : ['+'] ∈ signs)
    | minus h => exact h.matchesPattern (by decide : ['-'] ∈ signs)
  · rintro ⟨hsign, hne, hdigits, hpoint, hfraction⟩
    obtain ⟨size, h⟩ := exists_isUnsignedDecimal hne hdigits hpoint hfraction
    simp only [signs, List.mem_cons, List.not_mem_nil, or_false] at hsign
    rcases hsign with rfl | rfl | rfl
    · exact ⟨false, size, .unsigned h⟩
    · exact ⟨false, size, .plus h⟩
    · exact ⟨true, size, .minus h⟩

/-- A text of the pattern stays one over another class with the same characters of it. -/
lemma MatchesPattern.congr {isNumeral isOther : Char → Bool} (h : MatchesPattern isNumeral text)
    (hsame : ∀ c ∈ text, isNumeral c = isOther c) : MatchesPattern isOther text := by
  obtain ⟨hsign, hne, hdigits, hpoint, hfraction⟩ := h
  refine ⟨hsign, hne, ?_, hpoint, ?_⟩
  · intro c hmem
    rw [← hsame c (by simp [hmem])]
    exact hdigits c hmem
  · intro c hmem
    rw [← hsame c (by simp [hmem])]
    exact hfraction c hmem

/-- Digits of the pattern, if they are ASCII ones, make a floating-point text. -/
lemma MatchesPattern.isFloatText (h : MatchesPattern Char.isDigit text) : IsFloatText text := by
  obtain ⟨hsign, hne, hdigits, hpoint, hfraction⟩ := h
  have hnumber :=
    IsFloatText.number hsign (List.append_ne_nil_of_left_ne_nil hne _) hdigits hpoint
    hfraction .none
  simpa using hnumber

lemma toNat_lt_of_toLower {c : Char} (h : c.toLower.toNat < 128) : c.toNat < 128 := by
  unfold Char.toLower at h
  split at h
  · next hupper =>
    have hhigh : c.toNat ≤ 90 := hupper.2
    omega
  · exact h

/-- Floating-point texts are ASCII. -/
lemma IsFloatText.toNat_lt (h : IsFloatText text) : ∀ c ∈ text, c.toNat < 128 := by
  have hsigns : ∀ sign ∈ signs, ∀ c ∈ sign, c.toNat < 128 := by simp [signs]
  have hpoints : ∀ point ∈ points, ∀ c ∈ point, c.toNat < 128 := by simp [points]
  have hdigit {digits : List Char} (hdigits : ∀ c ∈ digits, c.isDigit = true) :
      ∀ c ∈ digits, c.toNat < 128 := by
    intro c hmem
    have hhigh : c.toNat ≤ 57 := (Char.isDigit_iff_toNat.mp (hdigits c hmem)).2
    omega
  cases h with
  | word hsign hword =>
    have hwords : ∀ word ∈ ["inf".toList, "infinity".toList, "nan".toList],
        ∀ c ∈ word, c.toNat < 128 := by simp
    refine List.forall_mem_append.mpr ⟨hsigns _ hsign, fun c hmem => toNat_lt_of_toLower ?_⟩
    exact hwords _ hword _ (List.mem_map_of_mem hmem)
  | number hsign _ hdigits hpoint hfraction hexponent =>
    simp only [List.forall_mem_append]
    refine ⟨hsigns _ hsign, hdigit hdigits, hpoints _ hpoint, hdigit hfraction, ?_⟩
    cases hexponent with
    | none => exact List.forall_mem_nil _
    | some hmark hmarked _ hdigits =>
      have hmarks : ∀ mark ∈ ['e', 'E'], mark.toNat < 128 := by simp
      simp only [List.forall_mem_cons, List.forall_mem_append]
      exact ⟨hmarks _ hmark, hsigns _ hmarked, hdigit hdigits⟩

/-- A text is read when it passes both filters, whatever digits of other
scripts the pattern admits.
-/
theorem isSome_ofPlainDecimal?_iff {isNumeral : Char → Bool}
    (hascii : ∀ c : Char, c.toNat < 128 → isNumeral c = c.isDigit) (text : String) :
    (Binary64.ofPlainDecimal? text).isSome = true ↔
      MatchesPattern isNumeral text.toList ∧ IsFloatText text.toList := by
  have hread : (Binary64.ofPlainDecimal? text).isSome = true ↔
      ∃ negative size, IsDecimal text.toList negative size := by
    rw [Option.isSome_iff_exists]
    constructor
    · rintro ⟨value, hvalue⟩
      obtain ⟨negative, digits, exponent, -, hdecimal⟩ := Binary64.exists_isDecimal hvalue
      exact ⟨negative, _, hdecimal⟩
    · rintro ⟨negative, size, hdecimal⟩
      obtain ⟨digits, exponent, -, hvalue⟩ :=
        Binary64.exists_ofPlainDecimal?_of_isDecimal hdecimal
      exact ⟨_, hvalue⟩
  rw [hread, exists_isDecimal_iff_matchesPattern]
  constructor
  · intro h
    have hfloat := h.isFloatText
    exact ⟨h.congr fun c hmem => (hascii c (hfloat.toNat_lt c hmem)).symm, hfloat⟩
  · rintro ⟨hpattern, hfloat⟩
    exact hpattern.congr fun c hmem => hascii c (hfloat.toNat_lt c hmem)

end

end HeatingPortal.Number

namespace HeatingPortal.Form

open Number

/-! ### The check -/

/-- A submitted text that spells a number below the end of the range. -/
def SpellsFinite (raw : Option String) (negative : Bool) (size : ℚ) : Prop :=
  ∃ text, raw = some text ∧ IsDecimal text.toList negative size ∧ size < finiteBound

lemma checkDecimal_eq_ok_iff {raw : Option String} {value : Binary64} :
    checkDecimal raw = .ok value ↔
      Binary64.ofPlainDecimal? (raw.getD "") = some value ∧ value.isFinite = true := by
  rw [← Option.filter_eq_some_iff, checkDecimal]
  cases (Binary64.ofPlainDecimal? (raw.getD "")).filter (·.isFinite) with
  | none => simp
  | some read => simp

lemma error_of_checkDecimal {raw : Option String} {reason : String}
    (h : checkDecimal raw = .error reason) : reason = notDecimal := by
  unfold checkDecimal at h
  split at h
  · cases h
  · cases h
    rfl

/-- A text that spells a number in the range is accepted, and nothing else. -/
lemma exists_checkDecimal_eq_ok_iff {raw : Option String} :
    (∃ value, checkDecimal raw = .ok value) ↔
      ∃ negative size, SpellsFinite raw negative size := by
  constructor
  · rintro ⟨value, hvalue⟩
    obtain ⟨hread, hfinite⟩ := checkDecimal_eq_ok_iff.mp hvalue
    cases raw with
    | none => cases hread
    | some text =>
      obtain ⟨negative, digits, exponent, rfl, hdecimal⟩ := Binary64.exists_isDecimal hread
      have hsize := (Binary64.isFinite_ofDecimal_iff negative).mp hfinite
      exact ⟨negative, _, text, rfl, hdecimal, hsize⟩
  · rintro ⟨negative, size, text, rfl, hdecimal, hsize⟩
    obtain ⟨digits, exponent, rfl, hread⟩ :=
      Binary64.exists_ofPlainDecimal?_of_isDecimal hdecimal
    exact ⟨_, checkDecimal_eq_ok_iff.mpr
      ⟨hread, (Binary64.isFinite_ofDecimal_iff negative).mpr hsize⟩⟩

/-- What is accepted of a text is the double nearest to what it spells, with the sign written. -/
lemma checkDecimal_eq_ok_iff_isNearest {raw : Option String} {negative : Bool} {size : ℚ}
    (h : SpellsFinite raw negative size) {value : Binary64} :
    checkDecimal raw = .ok value ↔
      value.isNegative = negative ∧ value.IsNearest (withSign negative size) := by
  obtain ⟨text, rfl, hdecimal, hsize⟩ := h
  obtain ⟨digits, exponent, rfl, hread⟩ := Binary64.exists_ofPlainDecimal?_of_isDecimal hdecimal
  rw [checkDecimal_eq_ok_iff, Option.getD_some, hread, Option.some.injEq,
    Binary64.ofDecimal_eq_iff hsize]
  exact and_iff_left_of_imp fun hnearest => hnearest.2.isFinite

/-- The check of a number accepts the plain decimals below the end of the range and nothing else,
each as the nearest double with the sign written, and has one reason for everything else. -/
theorem checkDecimal_exact (raw : Option String) :
    ((∃ value, checkDecimal raw = .ok value) ↔
      ∃ negative size, SpellsFinite raw negative size) ∧
    (∀ negative size, SpellsFinite raw negative size → ∀ value, checkDecimal raw = .ok value ↔
      value.isNegative = negative ∧ value.IsNearest (withSign negative size)) ∧
    (checkDecimal raw = .error "not a decimal number" ↔
      ¬∃ negative size, SpellsFinite raw negative size) := by
  refine ⟨exists_checkDecimal_eq_ok_iff,
    fun _ _ hspells _ => checkDecimal_eq_ok_iff_isNearest hspells, ?_⟩
  rw [← exists_checkDecimal_eq_ok_iff]
  cases hcheck : checkDecimal raw with
  | ok value => simp
  | error reason => simp [error_of_checkDecimal hcheck, notDecimal]

/-- Three tenths with a plus are read as the double nearest to them; a digit of
another script is refused. -/
theorem checkDecimal_exact_tenths :
    (∃ value, checkDecimal (some "+0.3") = .ok value ∧ value.isNegative = false ∧
      value.IsNearest (3 / 10)) ∧
    checkDecimal (some "٣") = .error "not a decimal number" := by
  have hspells : SpellsFinite (some "+0.3") false (3 / 10) := by
    refine ⟨_, rfl, ?_, lt_of_lt_of_le (by norm_num) one_le_finiteBound⟩
    have hdecimal := IsDecimal.plus (IsUnsignedDecimal.point (List.cons_ne_nil '0' [])
      (by simp) (by simp : ∀ c ∈ ['3'], c.isDigit = true))
    have hwhole : Nat.ofDigitChars 10 ['0'] 0 = 0 := rfl
    have hfraction : Nat.ofDigitChars 10 ['3'] 0 = 3 := rfl
    rw [hwhole, hfraction, Nat.cast_zero, zero_add] at hdecimal
    simpa using hdecimal
  obtain ⟨haccepted, hnearest, -⟩ := checkDecimal_exact (some "+0.3")
  obtain ⟨value, hvalue⟩ := haccepted.mpr ⟨false, 3 / 10, hspells⟩
  exact ⟨⟨value, hvalue, (hnearest false (3 / 10) hspells value).mp hvalue⟩, by decide +kernel⟩

end HeatingPortal.Form
