import HeatingPortal.Proofs.Integers

/-!
# Integer literals

An integer literal is one or more ASCII digits after at most one sign. The reader of integers
accepts the literals and nothing else, and the reader of 64-bit words those whose value fits.
Blanks may stand around a literal where a text is trimmed; that a sign or a leading zero does not
matter, and that every written word is a literal, follows from the grammar.
-/

namespace HeatingPortal.Text

/-! ### The grammar -/

/-- A text that is an integer literal of a value. -/
inductive IsLiteral : List Char → Int → Prop
  | unsigned {digits : List Char} (hne : digits ≠ [])
      (hdigits : ∀ c ∈ digits, c.isDigit = true) :
      IsLiteral digits (Nat.ofDigitChars 10 digits 0)
  | plus {digits : List Char} (hne : digits ≠ []) (hdigits : ∀ c ∈ digits, c.isDigit = true) :
      IsLiteral ('+' :: digits) (Nat.ofDigitChars 10 digits 0)
  | minus {digits : List Char} (hne : digits ≠ []) (hdigits : ∀ c ∈ digits, c.isDigit = true) :
      IsLiteral ('-' :: digits) (-(Nat.ofDigitChars 10 digits 0 : Int))

/-- A text that is an integer literal of a value between blanks. -/
def IsPaddedLiteral (text : List Char) (n : Int) : Prop :=
  ∃ before literal after, text = before ++ literal ++ after ∧
    (∀ c ∈ before, isBlank c = true) ∧ (∀ c ∈ after, isBlank c = true) ∧ IsLiteral literal n

/-! ### Reading literals -/

section

variable {text : List Char} {n : Int}

lemma isDigit_of_digitValue? {c : Char} {digit : Nat} (h : digitValue? c = some digit) :
    c.isDigit = true := by
  unfold digitValue? at h
  split_ifs at h with hrange
  exact Char.isDigit_iff_toNat.mpr hrange

lemma isDigit_of_foldDigits {read value : Nat} (h : foldDigits read text = some value) :
    ∀ c ∈ text, c.isDigit = true := by
  induction text generalizing read with
  | nil => simp
  | cons c rest ih =>
    obtain ⟨digit, hdigit, hrest⟩ := Option.bind_eq_some_iff.mp h
    exact List.forall_mem_cons.mpr ⟨isDigit_of_digitValue? hdigit, ih hrest⟩

lemma natural?_eq_some_iff {value : Nat} :
    natural? text = some value ↔
      text ≠ [] ∧ (∀ c ∈ text, c.isDigit = true) ∧ value = Nat.ofDigitChars 10 text 0 := by
  cases text with
  | nil => simp [natural?]
  | cons c rest =>
    rw [natural?]
    constructor
    · intro h
      have hdigits := isDigit_of_foldDigits h
      rw [foldDigits_of_isDigit hdigits] at h
      exact ⟨List.cons_ne_nil c rest, hdigits, (Option.some.inj h).symm⟩
    · rintro ⟨-, hdigits, rfl⟩
      exact foldDigits_of_isDigit hdigits 0

/-- Integers are read from their literals, and from nothing else. -/
lemma integer?_eq_some_iff : integer? text = some n ↔ IsLiteral text n := by
  constructor
  · intro h
    obtain ⟨magnitude, hmagnitude, rfl⟩ := Option.map_eq_some_iff.mp h
    obtain ⟨value, hvalue, ⟨⟩⟩ := Option.bind_eq_some_iff.mp hmagnitude
    obtain ⟨hne, hdigits, rfl⟩ := natural?_eq_some_iff.mp hvalue
    clear h hmagnitude hvalue
    -- The sign that was split off decides which literal this is.
    revert hne hdigits
    unfold splitSign
    split
    · exact .plus
    · exact .minus
    · exact .unsigned
  · intro h
    cases h with
    | unsigned hne hdigits =>
      rw [integer?, splitSign_of_isDigit hdigits, natural?_eq_some_iff.mpr ⟨hne, hdigits, rfl⟩]
      rfl
    | plus hne hdigits | minus hne hdigits =>
      rw [integer?, splitSign, natural?_eq_some_iff.mpr ⟨hne, hdigits, rfl⟩]
      rfl

lemma isBlank_of_isDigit {c : Char} (h : c.isDigit = true) : isBlank c = false := by
  obtain ⟨hlow, hhigh⟩ := Char.isDigit_iff_toNat.mp h
  have hlow : 48 ≤ c.toNat := hlow
  have hhigh : c.toNat ≤ 57 := hhigh
  simp only [isBlank, inRanges, blankRanges, List.any_cons, List.any_nil, Bool.or_eq_false_iff,
    Bool.and_eq_false_iff, decide_eq_false_iff_not, and_true]
  omega

/-- No character of a literal is blank. -/
lemma IsLiteral.isBlank_eq_false (h : IsLiteral text n) : ∀ c ∈ text, isBlank c = false := by
  have hdigit {digits : List Char} (hdigits : ∀ c ∈ digits, c.isDigit = true) :
      ∀ c ∈ digits, isBlank c = false :=
    fun c hmem => isBlank_of_isDigit (hdigits c hmem)
  cases h with
  | unsigned _ hdigits => exact hdigit hdigits
  | plus _ hdigits => exact List.forall_mem_cons.mpr ⟨by decide, hdigit hdigits⟩
  | minus _ hdigits => exact List.forall_mem_cons.mpr ⟨by decide, hdigit hdigits⟩

end

/-! ### Trimming -/

section

variable {before core after : List Char}

lemma trimLeft_append (hbefore : ∀ c ∈ before, isBlank c = true) (rest : List Char) :
    trimLeft (before ++ rest) = trimLeft rest :=
  List.dropWhile_append_of_pos hbefore

lemma trimRight_append (hafter : ∀ c ∈ after, isBlank c = true) (rest : List Char) :
    trimRight (rest ++ after) = trimRight rest := by
  rw [trimRight, List.reverse_append, List.dropWhile_append_of_pos (by simpa using hafter)]
  rfl

/-- Blanks around a text without blanks are what trimming removes. -/
lemma trim_of_padded {text : String} (htext : text.toList = before ++ core ++ after)
    (hbefore : ∀ c ∈ before, isBlank c = true) (hafter : ∀ c ∈ after, isBlank c = true)
    (hcore : ∀ c ∈ core, isBlank c = false) : (trim text).toList = core := by
  have hkept : trimRight (trimLeft core) = core := by
    have htrim : trim (String.ofList core) = String.ofList core := by
      apply trim_of_not_blank
      simpa using hcore
    simpa [← String.toList_inj] using htrim
  rw [trim_toList, htext, List.append_assoc, trimLeft_append hbefore]
  cases core with
  | nil =>
    -- Nothing but blanks is left, and they all go from the front.
    have hall : trimLeft after = [] := by
      simpa [trimLeft, List.dropWhile_eq_nil_iff] using hafter
    rw [List.nil_append, hall]
    rfl
  | cons c rest =>
    have hfront : trimLeft (c :: rest ++ after) = c :: rest ++ after := by
      simp [trimLeft, hcore c List.mem_cons_self]
    have hleft : trimLeft (c :: rest) = c :: rest := by
      simp [trimLeft, hcore c List.mem_cons_self]
    rw [hleft] at hkept
    rw [hfront, trimRight_append hafter, hkept]

/-- A text is what trimming leaves of it, between blanks. -/
lemma exists_padding (text : String) :
    ∃ before after, text.toList = before ++ (trim text).toList ++ after ∧
      (∀ c ∈ before, isBlank c = true) ∧ ∀ c ∈ after, isBlank c = true := by
  let left := trimLeft text.toList
  refine ⟨text.toList.takeWhile isBlank, (left.reverse.takeWhile isBlank).reverse, ?_, ?_, ?_⟩
  · have hright : trimRight left ++ (left.reverse.takeWhile isBlank).reverse = left := by
      rw [trimRight, ← List.reverse_append, List.takeWhile_append_dropWhile,
        List.reverse_reverse]
    rw [trim_toList, List.append_assoc, hright]
    exact List.takeWhile_append_dropWhile.symm
  · exact fun c hmem => List.mem_takeWhile_imp hmem
  · exact fun c hmem => List.mem_takeWhile_imp (List.mem_reverse.mp hmem)

end

/-! ### Words -/

lemma int64?_eq_some_iff {text : String} {word : Int64} :
    int64? text = some word ↔ IsLiteral text.toList word.toInt := by
  simp only [int64?, Option.bind_eq_some_iff, word?_eq_some_iff, exists_eq_right,
    integer?_eq_some_iff]

/-- Where blanks do not matter, a word is read from its literals between blanks. -/
lemma trimmedInt64?_eq_some_iff {text : String} {word : Int64} :
    trimmedInt64? text = some word ↔ IsPaddedLiteral text.toList word.toInt := by
  rw [trimmedInt64?, int64?_eq_some_iff]
  constructor
  · intro h
    obtain ⟨before, after, htext, hbefore, hafter⟩ := exists_padding text
    exact ⟨before, _, after, htext, hbefore, hafter, h⟩
  · rintro ⟨before, literal, after, htext, hbefore, hafter, h⟩
    rwa [trim_of_padded htext hbefore hafter h.isBlank_eq_false]

/-- A written word is a literal of its value, without any blanks. -/
lemma isPaddedLiteral_ofInt64 (word : Int64) :
    IsPaddedLiteral (ofInt64 word).toList word.toInt :=
  trimmedInt64?_eq_some_iff.mp (trimmedInt64?_ofInt64 word)

end HeatingPortal.Text
