import HeatingPortal.Proofs.Integers
import HeatingPortal.Proofs.ShortestDecimal
import HeatingPortal.Text.JsonReader

/-!
# Numbers of JSON read back

A number is written as a sign, a whole part, perhaps a point with further digits, and perhaps an
exponent. However its digits are laid out, their value and the place of the point say which
decimal is meant (`Spells`), and since the digits of a double read back to it, so does its text.
An integer is written without point and exponent and is read as an integer again.
-/

namespace HeatingPortal.Text

open Number JsonToken

/-! ### Digits -/

lemma natural?_of_isDigit {digits : List Char} (hne : digits ≠ [])
    (h : ∀ c ∈ digits, c.isDigit = true) :
    natural? digits = some (Nat.ofDigitChars 10 digits 0) := by
  cases digits with
  | nil => exact absurd rfl hne
  | cons c rest => exact foldDigits_of_isDigit h 0

lemma ofDigitChars_replicate_zero (count read : ℕ) :
    Nat.ofDigitChars 10 (List.replicate count '0') read = read * 10 ^ count := by
  induction count generalizing read with
  | zero => simp
  | succ count ih =>
    rw [List.replicate_succ, Nat.ofDigitChars_cons, ih, pow_succ]
    simp
    ring

/-- The digits of a positive number do not begin with a zero. -/
lemma head_toDigits_ne_zero {n : ℕ} (hpos : n ≠ 0) : (Nat.toDigits 10 n).head? ≠ some '0' := by
  induction n using Nat.strong_induction_on with
  | _ n ih =>
    rcases Nat.lt_or_ge n 10 with hsmall | hlarge
    · have hdigit : ∀ digit < 10, digit ≠ 0 → [digit.digitChar].head? ≠ some '0' := by decide
      rw [Nat.toDigits_of_lt_base hsmall]
      exact hdigit n hsmall hpos
    · rw [Nat.toDigits_of_base_le (by decide) hlarge,
        List.head?_append_of_ne_nil _ Nat.toDigits_ne_nil]
      exact ih (n / 10) (by omega) (by omega)

lemma toDigits_length_or_head (n : ℕ) :
    (Nat.toDigits 10 n).length = 1 ∨ (Nat.toDigits 10 n).head? ≠ some '0' := by
  by_cases hzero : n = 0
  · subst hzero
    exact .inl rfl
  · exact .inr (head_toDigits_ne_zero hzero)

/-- A whole part is one digit, or more of which the first is no zero. -/
lemma whole?_of_isDigit {digits : List Char} (hne : digits ≠ [])
    (h : ∀ c ∈ digits, c.isDigit = true) (hhead : digits.length = 1 ∨ digits.head? ≠ some '0') :
    whole? digits = some (Nat.ofDigitChars 10 digits 0) := by
  unfold whole?
  split
  · simp at hhead
  · exact natural?_of_isDigit hne h

/-! ### Parts of a number -/

/-- The text after the whole part, with the digits after the point. -/
inductive IsFraction : List Char → List Char → Prop
  | none : IsFraction [] []
  | places {places : List Char} (hne : places ≠ []) (hdigits : ∀ c ∈ places, c.isDigit = true) :
      IsFraction ('.' :: places) places

/-- The text after the digits, with the exponent. -/
inductive IsExponent : List Char → ℤ → Prop
  | none : IsExponent [] 0
  | power {cs : List Char} {power : ℤ} (hchars : ∀ c ∈ cs, isWordChar c = true)
      (hpower : integer? cs = some power) : IsExponent ('e' :: cs) power

/-- A text that spells the decimal of some digits and an exponent, and is
not that of an integer. -/
structure Spells (cs : List Char) (digits : ℕ) (exponent : ℤ) : Prop where
  parts : ∃ whole fraction suffix places power, cs = whole ++ fraction ++ suffix ∧
    whole ≠ [] ∧ (∀ c ∈ whole, c.isDigit = true) ∧
    (whole.length = 1 ∨ whole.head? ≠ some '0') ∧
    IsFraction fraction places ∧ IsExponent suffix power ∧ (fraction ≠ [] ∨ suffix ≠ []) ∧
    digits = Nat.ofDigitChars 10 (whole ++ places) 0 ∧ exponent = power - places.length

lemma IsFraction.isDigit_places {text places : List Char} (h : IsFraction text places) :
    ∀ c ∈ places, c.isDigit = true := by
  cases h with
  | none => simp
  | places _ hdigits => exact hdigits

lemma IsFraction.places?_eq {text places : List Char} (h : IsFraction text places) :
    places? text = some places := by
  cases h with
  | none => rfl
  | places hne _ =>
    cases places with
    | nil => exact absurd rfl hne
    | cons => rfl

lemma IsExponent.power?_eq {text : List Char} {power : ℤ} (h : IsExponent text power) :
    power? text = some power := by
  cases h with
  | none => rfl
  | power _ hpower => exact hpower

lemma isWordChar_of_isDigit {c : Char} (h : c.isDigit = true) : isWordChar c = true := by
  simp [isWordChar, Char.isAlphanum, h]

/-- A digit is neither the letter of an exponent nor a point. -/
lemma ne_of_isDigit {c : Char} (h : c.isDigit = true) :
    c ≠ 'e' ∧ c ≠ 'E' ∧ c ≠ '.' ∧ c ≠ '-' := by
  refine ⟨?_, ?_, ?_, ?_⟩
  all_goals
    rintro rfl
    revert h
    decide

lemma splitBefore_append {p : Char → Bool} {front back : List Char}
    (hfront : ∀ c ∈ front, p c = false)
    (hback : back = [] ∨ ∃ c rest, back = c :: rest ∧ p c = true) :
    splitBefore p (front ++ back) = (front, back) := by
  have hnot : ∀ c ∈ front, (!p c) = true := by
    intro c hmem
    rw [hfront c hmem]
    rfl
  unfold splitBefore
  rw [List.takeWhile_append_of_pos hnot, List.dropWhile_append_of_pos hnot]
  rcases hback with rfl | ⟨c, rest, rfl, hc⟩
  · simp
  · simp [hc]

lemma splitBefore_exponent {front suffix : List Char} {power : ℤ}
    (hfront : ∀ c ∈ front, c ≠ 'e' ∧ c ≠ 'E') (hsuffix : IsExponent suffix power) :
    splitBefore (fun c => c = 'e' || c = 'E') (front ++ suffix) = (front, suffix) := by
  apply splitBefore_append
  · intro c hmem
    simp [hfront c hmem]
  · cases hsuffix with
    | none => exact .inl rfl
    | power => exact .inr ⟨'e', _, rfl, rfl⟩

lemma splitBefore_point {whole fraction places : List Char}
    (hdigits : ∀ c ∈ whole, c.isDigit = true) (hfraction : IsFraction fraction places) :
    splitBefore (· = '.') (whole ++ fraction) = (whole, fraction) := by
  apply splitBefore_append
  · intro c hmem
    simp [ne_of_isDigit (hdigits c hmem)]
  · cases hfraction with
    | none => exact .inl rfl
    | places => exact .inr ⟨'.', _, rfl, rfl⟩

/-! ### Reading -/

namespace Spells

variable {cs : List Char} {digits : ℕ} {exponent : ℤ}

lemma isWordChar (h : Spells cs digits exponent) : ∀ c ∈ cs, isWordChar c = true := by
  obtain ⟨whole, fraction, suffix, places, power, rfl, -, hdigits, -, hfraction, hsuffix, -⟩ := h
  intro c hmem
  rcases List.mem_append.mp hmem with hmem | hmem
  · rcases List.mem_append.mp hmem with hmem | hmem
    · exact isWordChar_of_isDigit (hdigits c hmem)
    · cases hfraction with
      | none => cases hmem
      | places _ hplaces =>
        rcases List.mem_cons.mp hmem with rfl | hmem
        · rfl
        · exact isWordChar_of_isDigit (hplaces c hmem)
  · cases hsuffix with
    | none => cases hmem
    | power hchars _ =>
      rcases List.mem_cons.mp hmem with rfl | hmem
      · rfl
      · exact hchars c hmem

lemma exists_digit (h : Spells cs digits exponent) :
    ∃ c rest, cs = c :: rest ∧ c.isDigit = true := by
  obtain ⟨whole, fraction, suffix, places, power, rfl, hne, hdigits, -⟩ := h
  cases whole with
  | nil => exact absurd rfl hne
  | cons c rest => exact ⟨c, _, rfl, hdigits c List.mem_cons_self⟩

/-- A spelled decimal is read as the double nearest to it. -/
lemma number?_eq (h : Spells cs digits exponent) (negative : Bool)
    (hfinite : (Binary64.ofDecimal negative digits exponent).isFinite = true) :
    number? (if negative then '-' :: cs else cs) =
      some (.number (Binary64.ofDecimal negative digits exponent)) := by
  obtain ⟨first, rest, hfirst, hdigit⟩ := h.exists_digit
  have hminus : first ≠ '-' := (ne_of_isDigit hdigit).2.2.2
  obtain ⟨whole, fraction, suffix, places, power, rfl, hne, hdigits, hhead, hfraction, hsuffix,
    hreal, rfl, rfl⟩ := h
  have hfront : ∀ c ∈ whole ++ fraction, c ≠ 'e' ∧ c ≠ 'E' := by
    intro c hmem
    rcases List.mem_append.mp hmem with hmem | hmem
    · exact ⟨(ne_of_isDigit (hdigits c hmem)).1, (ne_of_isDigit (hdigits c hmem)).2.1⟩
    · cases hfraction with
      | none => cases hmem
      | places _ hplaces =>
        rcases List.mem_cons.mp hmem with rfl | hmem
        · decide
        · exact ⟨(ne_of_isDigit (hplaces c hmem)).1, (ne_of_isDigit (hplaces c hmem)).2.1⟩
  have hkind (zero : Bool) : (fraction.isEmpty && suffix.isEmpty && zero) = false := by
    rcases hreal with hreal | hreal <;> simp [hreal]
  have hplaces : foldDigits (Nat.ofDigitChars 10 whole 0) places =
      some (Nat.ofDigitChars 10 (whole ++ places) 0) := by
    rw [foldDigits_of_isDigit hfraction.isDigit_places, Nat.ofDigitChars_append]
  have hread : number? (if negative then '-' :: (whole ++ fraction ++ suffix)
      else whole ++ fraction ++ suffix) =
      (some (Nat.ofDigitChars 10 (whole ++ places) 0)).bind fun digits =>
        let value := Binary64.ofDecimal negative digits (power - places.length)
        if value.isFinite then some (.number value) else none := by
    rw [← hplaces]
    unfold number?
    cases negative with
    | true =>
      simp only [if_true, splitBefore_exponent hfront hsuffix,
        splitBefore_point hdigits hfraction,
        whole?_of_isDigit hne hdigits hhead, hkind, hsuffix.power?_eq, hfraction.places?_eq]
      rfl
    | false =>
      simp only [Bool.false_eq_true, if_false]
      split
      · next heq =>
        rw [hfirst] at heq
        exact absurd (List.cons.inj heq).1 hminus
      · simp only [splitBefore_exponent hfront hsuffix, splitBefore_point hdigits hfraction,
          whole?_of_isDigit hne hdigits hhead, hkind, hsuffix.power?_eq, hfraction.places?_eq]
        rfl
  rw [hread, Option.bind_some]
  exact if_pos hfinite

end Spells

/-- An integer is read as an integer. -/
lemma number?_ofInteger (n : ℤ) : number? (ofInteger n).toList = some (.integer n) := by
  have hparts (m : ℕ) : splitBefore (fun c => c = 'e' || c = 'E') (Nat.toDigits 10 m) =
      (Nat.toDigits 10 m, []) ∧
      splitBefore (· = '.') (Nat.toDigits 10 m) = (Nat.toDigits 10 m, []) ∧
      whole? (Nat.toDigits 10 m) = some m := by
    have hdigits : ∀ c ∈ Nat.toDigits 10 m, c.isDigit = true := fun _ => isDigit_of_mem_toDigits
    have hexponent := splitBefore_exponent
      (fun c hmem => ⟨(ne_of_isDigit (hdigits c hmem)).1, (ne_of_isDigit (hdigits c hmem)).2.1⟩)
      IsExponent.none
    have hpoint := splitBefore_point hdigits IsFraction.none
    rw [List.append_nil] at hexponent hpoint
    refine ⟨hexponent, hpoint, ?_⟩
    rw [whole?_of_isDigit Nat.toDigits_ne_nil hdigits (toDigits_length_or_head m),
      Nat.ofDigitChars_ten_toDigits]
  unfold number?
  cases n with
  | ofNat m =>
    obtain ⟨hexponent, hpoint, hwhole⟩ := hparts m
    simp only [ofInteger, String.toList_ofList]
    split
    · next heq =>
      have hdigit := isDigit_of_mem_toDigits (heq ▸ List.mem_cons_self)
      exact absurd hdigit (by decide)
    · simp only [hexponent, hpoint, hwhole]
      rfl
  | negSucc m =>
    obtain ⟨hexponent, hpoint, hwhole⟩ := hparts (m + 1)
    simp only [ofInteger, String.toList_ofList, hexponent, hpoint, hwhole]
    rfl

/-! ### Layouts -/

lemma isDigit_or_minus_of_mem_ofInteger {n : ℤ} {c : Char} (h : c ∈ (ofInteger n).toList) :
    c.isDigit = true ∨ c = '-' := by
  rcases toNat_of_mem_ofInteger h with hminus | hdigit
  · exact .inr (Char.toNat_inj.mp hminus)
  · exact .inl (Char.isDigit_iff_toNat.mpr hdigit)

/-- The characters of a written integer belong to a number. -/
lemma isWordChar_of_mem_ofInteger {n : ℤ} {c : Char} (h : c ∈ (ofInteger n).toList) :
    isWordChar c = true := by
  rcases isDigit_or_minus_of_mem_ofInteger h with hdigit | rfl
  · exact isWordChar_of_isDigit hdigit
  · rfl

/-- An exponent carries a plus sign where it is not negative. -/
lemma isExponent_scientific (leading : ℤ) :
    IsExponent ((if jsonLayout.plus && 0 ≤ leading then ['e', '+'] else ['e']) ++
      (ofInteger leading).toList) leading := by
  cases leading with
  | ofNat n =>
    have hplus : integer? ('+' :: (ofInteger (.ofNat n)).toList) = some (.ofNat n) := by
      simp only [integer?, splitSign, ofInteger, String.toList_ofList, natural?_toDigits]
      rfl
    have hchars : ∀ c ∈ '+' :: (ofInteger (.ofNat n)).toList, isWordChar c = true := by
      intro c hmem
      rcases List.mem_cons.mp hmem with rfl | hmem
      · rfl
      · exact isWordChar_of_mem_ofInteger hmem
    exact .power hchars hplus
  | negSucc n => exact .power (fun _ => isWordChar_of_mem_ofInteger) (integer?_ofInteger _)

lemma spells_scientific (digits : ℕ) (leading : ℤ) :
    Spells (jsonLayout.scientific (Nat.toDigits 10 digits) leading) digits
      (leading + 1 - (Nat.toDigits 10 digits).length) := by
  have hvalue : Nat.ofDigitChars 10 (Nat.toDigits 10 digits) 0 = digits :=
    Nat.ofDigitChars_ten_toDigits
  have hdigits : ∀ c ∈ Nat.toDigits 10 digits, c.isDigit = true :=
    fun _ => isDigit_of_mem_toDigits
  have hsuffix := isExponent_scientific leading
  have hreal : (if jsonLayout.plus && 0 ≤ leading then ['e', '+'] else ['e']) ++
      (ofInteger leading).toList ≠ [] := by split <;> simp
  unfold Layout.scientific
  match hlist : Nat.toDigits 10 digits with
  | [] => exact absurd hlist Nat.toDigits_ne_nil
  | [first] =>
    rw [hlist] at hvalue hdigits
    refine ⟨[first], [], _, [], leading, ?_, by simp, hdigits, .inl rfl, .none, hsuffix,
      .inr hreal, ?_, ?_⟩
    · simp
    · exact hvalue.symm
    · simp
  | first :: second :: rest =>
    rw [hlist] at hvalue hdigits
    obtain ⟨hfirst, hrest⟩ := List.forall_mem_cons.mp hdigits
    refine ⟨[first], '.' :: second :: rest, _, second :: rest, leading, ?_, by simp,
      by simpa using hfirst, .inl rfl, .places (by simp) hrest, hsuffix, .inr hreal, ?_, ?_⟩
    · simp
    · exact hvalue.symm
    · simp only [List.length_cons]
      omega

section

variable {list : List Char} (hdigits : ∀ c ∈ list, c.isDigit = true)

include hdigits

lemma isDigit_append_zeros (count : ℕ) :
    (∀ c ∈ list ++ List.replicate count '0', c.isDigit = true) ∧
      ∀ c ∈ List.replicate count '0' ++ list, c.isDigit = true := by
  have hzero : ∀ c ∈ List.replicate count '0', c.isDigit = true := by
    intro c hmem
    rw [(List.mem_replicate.mp hmem).2]
    rfl
  simp only [List.forall_mem_append]
  exact ⟨⟨hdigits, hzero⟩, hzero, hdigits⟩

/-- Zeros between the point and the digits only move the digits. -/
lemma spells_below_one (hne : list ≠ []) (zeros : ℕ) :
    Spells ('0' :: '.' :: (List.replicate zeros '0' ++ list)) (Nat.ofDigitChars 10 list 0)
      (-(zeros + list.length : ℕ)) := by
  refine ⟨['0'], _, [], _, 0, (List.append_nil _).symm, by simp, by simp, .inl rfl,
    .places ?_ (isDigit_append_zeros hdigits zeros).2, .none, .inl (by simp), ?_, ?_⟩
  · simp [hne]
  · rw [List.singleton_append, Nat.ofDigitChars_cons, Nat.ofDigitChars_append,
      ofDigitChars_replicate_zero]
    simp
  · simp

/-- Zeros before the point, and one after it, multiply by powers of ten. -/
lemma spells_whole (hne : list ≠ []) (hhead : list.head? ≠ some '0') (zeros : ℕ) :
    Spells (list ++ List.replicate zeros '0' ++ '.' :: ['0'])
      (Nat.ofDigitChars 10 list 0 * 10 ^ (zeros + 1)) (-1) := by
  refine ⟨list ++ List.replicate zeros '0', '.' :: ['0'], [], ['0'], 0, (List.append_nil _).symm,
    by simp [hne], (isDigit_append_zeros hdigits zeros).1, .inr ?_,
    .places (by simp) (by simp), .none, .inl (by simp), ?_, by simp⟩
  · rwa [List.head?_append_of_ne_nil _ hne]
  · have hzeros : List.replicate zeros '0' ++ ['0'] = List.replicate (zeros + 1) '0' :=
      List.replicate_succ'.symm
    rw [List.append_assoc, hzeros, Nat.ofDigitChars_append, ofDigitChars_replicate_zero]

/-- The point stands between the digits. -/
lemma spells_mixed (hhead : list.head? ≠ some '0') {count : ℕ}
    (hcount : count + 1 < list.length) :
    Spells (list.take (count + 1) ++ '.' :: list.drop (count + 1)) (Nat.ofDigitChars 10 list 0)
      (-(list.length - (count + 1) : ℕ)) := by
  have hdrop : list.drop (count + 1) ≠ [] := by
    rw [Ne, List.drop_eq_nil_iff]
    omega
  refine ⟨list.take (count + 1), _, [], list.drop (count + 1), 0,
    (List.append_nil _).symm, ?_, ?_, .inr ?_, .places hdrop ?_, .none, .inl (by simp), ?_, ?_⟩
  · rw [Ne, List.take_eq_nil_iff]
    rintro (hzero | rfl)
    · omega
    · simp at hcount
  · exact fun c hmem => hdigits c (List.mem_of_mem_take hmem)
  · rwa [List.head?_take, if_neg (Nat.succ_ne_zero count)]
  · exact fun c hmem => hdigits c (List.mem_of_mem_drop hmem)
  · rw [List.take_append_drop]
  · simp

end

/-- A number that is written positionally stands for its digits and the place
of the first of them. -/
lemma spells_positional {digits : ℕ} (hpos : digits ≠ 0) {leading : ℤ}
    (hleading : leading < 100) :
    ∃ spelled exponent, Spells (Layout.positional (Nat.toDigits 10 digits) leading)
      spelled exponent ∧ ∀ negative, Binary64.ofDecimal negative spelled exponent =
        Binary64.ofDecimal negative digits (leading + 1 - (Nat.toDigits 10 digits).length) := by
  have hvalue : Nat.ofDigitChars 10 (Nat.toDigits 10 digits) 0 = digits :=
    Nat.ofDigitChars_ten_toDigits
  have hall : ∀ c ∈ Nat.toDigits 10 digits, c.isDigit = true := fun _ => isDigit_of_mem_toDigits
  have hhead := head_toDigits_ne_zero hpos
  have hne : Nat.toDigits 10 digits ≠ [] := Nat.toDigits_ne_nil
  generalize Nat.toDigits 10 digits = list at hvalue hall hhead hne ⊢
  subst hvalue
  unfold Layout.positional
  split
  · next hnegative =>
    refine ⟨_, _, spells_below_one hall hne _, fun negative => ?_⟩
    congr 1
    omega
  next hpositive =>
  rcases Nat.lt_or_ge (leading.toNat + 1) list.length with hlong | hshort
  · have hnone : leading.toNat + 1 - list.length = 0 := by omega
    have hdrop : list.drop (leading.toNat + 1) ≠ [] := by
      rw [Ne, List.drop_eq_nil_iff]
      omega
    simp only [hnone, List.replicate_zero, List.append_nil, List.isEmpty_iff, if_neg hdrop]
    refine ⟨_, _, spells_mixed hall hhead hlong, fun negative => ?_⟩
    congr 1
    omega
  · have hlength : (list ++ List.replicate (leading.toNat + 1 - list.length) '0').length =
        leading.toNat + 1 := by
      simp only [List.length_append, List.length_replicate]
      omega
    have htake := List.take_of_length_le hlength.le
    have hdrop := List.drop_eq_nil_of_le hlength.le
    simp only [htake, hdrop, List.isEmpty_nil, if_true]
    refine ⟨_, _, spells_whole hall hne hhead _, fun negative => ?_⟩
    rw [Binary64.ofDecimal_mul_pow _ (by omega) (by omega)]
    congr 1
    omega

/-! ### Doubles -/

/-- Of a positive decimal the digits and the place of the first decide how it is laid out. -/
lemma spells_laidOut {digits : ℕ} (hpos : digits ≠ 0) (exponent leading : ℤ)
    (hleading : exponent + (Nat.toDigits 10 digits).length - 1 = leading) :
    ∃ spelled shifted,
      Spells (if jsonLayout.positionalFrom ≤ leading && leading ≤ jsonLayout.positionalTo then
          Layout.positional (Nat.toDigits 10 digits) leading
        else jsonLayout.scientific (Nat.toDigits 10 digits) leading) spelled shifted ∧
      ∀ negative, Binary64.ofDecimal negative spelled shifted =
        Binary64.ofDecimal negative digits exponent := by
  have hexponent : leading + 1 - (Nat.toDigits 10 digits).length = exponent := by omega
  by_cases hpositional :
    (jsonLayout.positionalFrom ≤ leading && leading ≤ jsonLayout.positionalTo) = true
  · have hsmall : leading < 100 := by
      rw [Bool.and_eq_true, decide_eq_true_iff, decide_eq_true_iff] at hpositional
      exact lt_of_le_of_lt hpositional.2 (by decide)
    rw [if_pos hpositional, ← hexponent]
    exact spells_positional hpos hsmall
  · rw [if_neg hpositional, ← hexponent]
    exact ⟨_, _, spells_scientific digits leading, fun _ => rfl⟩

/-- The text of a magnitude spells a decimal that reads back to it. -/
lemma spells_magnitude (negative : Bool) (magnitude : Magnitude) :
    ∃ spelled exponent, Spells (jsonLayout.magnitude magnitude) spelled exponent ∧
      Binary64.ofDecimal negative spelled exponent = .finite negative magnitude := by
  by_cases hzero : magnitude.units = 0
  · obtain ⟨units, sound⟩ := magnitude
    subst hzero
    exact ⟨0, -1, ⟨['0'], ['.', '0'], [], ['0'], 0, rfl, by simp, by simp, .inl rfl,
      .places (by simp) (by simp), .none, .inl (by simp), rfl, rfl⟩, rfl⟩
  · have hpos := Nat.pos_of_ne_zero hzero
    obtain ⟨spelled, exponent, hspells, hvalue⟩ :=
      spells_laidOut (digits_shortest_ne_zero .even hpos)
        (magnitude.shortest .even).exponent _ rfl
    unfold Layout.magnitude
    rw [if_neg hzero]
    refine ⟨spelled, exponent, hspells, ?_⟩
    rw [hvalue]
    exact Binary64.ofDecimal_signed (readsBack_shortest .even hpos) negative

/-- A finite double is read as it was written. -/
theorem number?_write {value : Binary64} (h : value.isFinite = true) :
    number? (jsonLayout.write value).toList = some (.number value) := by
  cases value with
  | nan | infinite => cases h
  | finite negative magnitude =>
    obtain ⟨spelled, exponent, hspells, hvalue⟩ := spells_magnitude negative magnitude
    have hread := hspells.number?_eq negative (by rw [hvalue]; rfl)
    rw [Layout.write, Layout.signed, String.toList_ofList, hread, hvalue]

end HeatingPortal.Text
