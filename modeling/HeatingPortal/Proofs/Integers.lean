import HeatingPortal.Text.Integer
import Mathlib.Data.List.DropRight
import Mathlib.Tactic.Common

/-!
# Reading back written integers

An integer is written as a minus, where it is negative, and its decimal digits. Reading that
gives the integer again. None of these characters is blank, so trimming changes nothing.
-/

namespace HeatingPortal.Text

/-! ### Digits -/

lemma digitValue?_of_isDigit {c : Char} (h : c.isDigit = true) :
    digitValue? c = some (c.toNat - '0'.toNat) := by
  obtain ⟨hlow, hhigh⟩ := Char.isDigit_iff_toNat.mp h
  exact if_pos ⟨hlow, hhigh⟩

lemma foldDigits_of_isDigit {digits : List Char} (h : ∀ c ∈ digits, c.isDigit = true)
    (read : Nat) :
    foldDigits read digits = some (Nat.ofDigitChars 10 digits read) := by
  induction digits generalizing read with
  | nil => rfl
  | cons c rest ih =>
    obtain ⟨hc, hrest⟩ := List.forall_mem_cons.mp h
    rw [foldDigits, digitValue?_of_isDigit hc, Option.bind_some, ih hrest, Nat.ofDigitChars_cons]

lemma isDigit_of_mem_toDigits {c : Char} {n : Nat} (h : c ∈ Nat.toDigits 10 n) :
    c.isDigit = true :=
  Nat.isDigit_of_mem_toDigits (by decide) (by decide) h

lemma natural?_toDigits (n : Nat) : natural? (Nat.toDigits 10 n) = some n := by
  have hread : foldDigits 0 (Nat.toDigits 10 n) = some n := by
    rw [foldDigits_of_isDigit (fun _ => isDigit_of_mem_toDigits), Nat.ofDigitChars_ten_toDigits]
  cases hdigits : Nat.toDigits 10 n with
  | nil => exact absurd hdigits Nat.toDigits_ne_nil
  | cons c rest =>
    rw [hdigits] at hread
    exact hread

/-! ### Integers -/

/-- The characters of a written integer. -/
lemma toNat_of_mem_ofInteger {n : Int} {c : Char} (h : c ∈ (ofInteger n).toList) :
    c.toNat = 45 ∨ 48 ≤ c.toNat ∧ c.toNat ≤ 57 := by
  cases n with
  | ofNat n =>
    simp only [ofInteger, String.toList_ofList] at h
    exact .inr (Char.isDigit_iff_toNat.mp (isDigit_of_mem_toDigits h))
  | negSucc n =>
    simp only [ofInteger, String.toList_ofList, List.mem_cons] at h
    rcases h with rfl | h
    · exact .inl rfl
    · exact .inr (Char.isDigit_iff_toNat.mp (isDigit_of_mem_toDigits h))

lemma ofInteger_ne_nil (n : Int) : (ofInteger n).toList ≠ [] := by
  cases n with
  | ofNat n => simp [ofInteger]
  | negSucc n => simp [ofInteger]

/-- Digits do not begin with a sign. -/
lemma splitSign_of_isDigit {digits : List Char} (h : ∀ c ∈ digits, c.isDigit = true) :
    splitSign digits = (false, digits) := by
  unfold splitSign
  split
  · exact absurd (h '+' List.mem_cons_self) (by decide)
  · exact absurd (h '-' List.mem_cons_self) (by decide)
  · rfl

lemma integer?_ofInteger (n : Int) : integer? (ofInteger n).toList = some n := by
  cases n with
  | ofNat n =>
    simp only [integer?, ofInteger, String.toList_ofList]
    rw [splitSign_of_isDigit fun _ => isDigit_of_mem_toDigits, natural?_toDigits]
    rfl
  | negSucc n =>
    simp only [integer?, ofInteger, String.toList_ofList, splitSign, natural?_toDigits]
    rfl

/-! ### Words -/

lemma word?_eq_some_iff {n : Int} {word : Int64} : word? n = some word ↔ n = word.toInt := by
  constructor
  · intro h
    unfold word? at h
    split_ifs at h with hrange
    cases h
    exact (Int64.toInt_ofInt_of_le hrange.1 hrange.2).symm
  · rintro rfl
    exact word?_toInt word

/-- A text without blanks is not changed by trimming. -/
lemma trim_of_not_blank {text : String} (h : ∀ c ∈ text.toList, isBlank c = false) :
    trim text = text := by
  have hleft : trimLeft text.toList = text.toList := by
    rw [trimLeft, List.dropWhile_eq_self_iff]
    intro hlength
    simp [h _ (List.getElem_mem hlength)]
  have hright : List.rdropWhile isBlank text.toList = text.toList := by
    rw [List.rdropWhile_eq_self_iff]
    intro hne
    simp [h _ (List.getLast_mem hne)]
  rw [← String.toList_inj, trim_toList, hleft]
  exact hright

lemma trim_ofInteger (n : Int) : trim (ofInteger n) = ofInteger n := by
  apply trim_of_not_blank
  intro c hmem
  have hcode := toNat_of_mem_ofInteger hmem
  simp only [isBlank, inRanges, blankRanges, List.any_cons, List.any_nil, Bool.or_eq_false_iff,
    Bool.and_eq_false_iff, decide_eq_false_iff_not, and_true]
  omega

/-- Every written word reads back. -/
lemma trimmedInt64?_ofInt64 (n : Int64) : trimmedInt64? (ofInt64 n) = some n := by
  rw [trimmedInt64?, ofInt64, trim_ofInteger, int64?, integer?_ofInteger, Option.bind_some,
    word?_toInt]

end HeatingPortal.Text
