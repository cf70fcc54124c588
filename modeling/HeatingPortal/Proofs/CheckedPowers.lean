import HeatingPortal.Number.Power
import Mathlib.Algebra.Order.Ring.Nat

/-!
# Checked powers

A checked power is found exactly when the true power is a word, and is then the true power
(`checkedPower_eq_some_iff`). No product on the way to it is wrapped, and none is refused that
the power does not need.
-/

namespace HeatingPortal.Number

variable {held base word : UInt64} {exponent : UInt32}

/-! ### Products -/

lemma exists_toNat_eq_iff {n : Nat} : (∃ word : UInt64, word.toNat = n) ↔ n < UInt64.size := by
  constructor
  · rintro ⟨word, rfl⟩
    exact word.toNat_lt_size
  · intro h
    exact ⟨.ofNat n, UInt64.toNat_ofNat_of_lt h⟩

/-- A product is found exactly if it is a word, and it is not wrapped. -/
lemma checkedProduct_eq_some_iff {first second : UInt64} :
    checkedProduct first second = some word ↔ word.toNat = first.toNat * second.toNat := by
  unfold checkedProduct
  split
  · next hfits =>
    have hproduct : (first * second).toNat = first.toNat * second.toNat := by
      rw [UInt64.toNat_mul]
      exact Nat.mod_eq_of_lt hfits
    rw [Option.some.injEq, ← UInt64.toNat_inj, hproduct, eq_comm]
  · next hlarge =>
    constructor
    · intro h
      cases h
    · intro h
      exact absurd (exists_toNat_eq_iff.mp ⟨word, h⟩) hlarge

lemma timesLastDigit_eq_some_iff : timesLastDigit held base exponent = some word ↔
    word.toNat = held.toNat * base.toNat ^ (exponent.toNat % 2) := by
  have hdigit : exponent % 2 = 1 ↔ exponent.toNat % 2 = 1 := by
    simp [← UInt32.toNat_inj]
  unfold timesLastDigit
  by_cases hodd : exponent.toNat % 2 = 1
  · simp only [hdigit, hodd, if_true, pow_one]
    exact checkedProduct_eq_some_iff
  · have heven : exponent.toNat % 2 = 0 := by omega
    simp only [hdigit, heven, pow_zero, mul_one]
    simp [← UInt64.toNat_inj, eq_comm]

/-! ### Powers -/

lemma pow_mod_mul_pow_div (n k : Nat) : n ^ (k % 2) * (n * n) ^ (k / 2) = n ^ k := by
  rw [← pow_two, ← pow_mul, ← pow_add, Nat.mod_add_div]

lemma mul_pow_mod_le (m n k : Nat) : m * n ^ (k % 2) ≤ max m (m * n ^ k) := by
  by_cases hn : n = 0
  · rcases Nat.mod_two_eq_zero_or_one k with hk | hk <;> simp [hn, hk]
  · apply le_max_of_le_right
    apply Nat.mul_le_mul_left
    exact Nat.pow_le_pow_right (Nat.pos_of_ne_zero hn) (Nat.mod_le k 2)

lemma mul_self_le_mul_pow {m n k : Nat} (hm : m = 0 → n = 0) (hk : 2 ≤ k) :
    n * n ≤ m * n ^ k := by
  by_cases hn : n = 0
  · simp [hn]
  · have hpow : n ^ 2 ≤ n ^ k := Nat.pow_le_pow_right (Nat.pos_of_ne_zero hn) hk
    have hpos : 0 < m := Nat.pos_of_ne_zero fun h => hn (hm h)
    calc n * n = n ^ 2 := (pow_two n).symm
      _ ≤ n ^ k := hpow
      _ ≤ m * n ^ k := Nat.le_mul_of_pos_left _ hpos

lemma mul_self_eq_zero_of_mul_pow {m n k : Nat} (hm : m = 0 → n = 0) (h : m * n ^ k = 0) :
    n * n = 0 := by
  rcases Nat.mul_eq_zero.mp h with h | h
  · simp [hm h]
  · simp [(Nat.pow_eq_zero.mp h).1]

/-- What is computed on the way to a product fits if the product does,
because it is no larger. -/
lemma timesPower_eq_some_iff (hheld : held.toNat = 0 → base.toNat = 0) :
    timesPower held base exponent = some word ↔
      word.toNat = held.toNat * base.toNat ^ exponent.toNat := by
  fun_induction timesPower held base exponent with
  | case1 => simp [← UInt64.toNat_inj, eq_comm]
  | case2 => simp [timesLastDigit_eq_some_iff]
  | case3 held base exponent hzero hone ih =>
    have hlarge : 2 ≤ exponent.toNat := by
      rw [← UInt32.toNat_inj] at hzero hone
      simp only [UInt32.reduceToNat] at hzero hone
      omega
    have hhalf : (exponent / 2).toNat = exponent.toNat / 2 := by simp
    -- The rest of the way gives what the whole exponent asks for.
    have hstep {next square : UInt64}
        (hnext : next.toNat = held.toNat * base.toNat ^ (exponent.toNat % 2))
        (hsquare : square.toNat = base.toNat * base.toNat) :
        timesPower next square (exponent / 2) = some word ↔
          word.toNat = held.toNat * base.toNat ^ exponent.toNat := by
      have hkept : next.toNat = 0 → square.toNat = 0 := by
        rw [hnext, hsquare]
        exact mul_self_eq_zero_of_mul_pow hheld
      rw [ih next square hkept, hnext, hsquare, hhalf, mul_assoc, pow_mod_mul_pow_div]
    simp only [Option.bind_eq_some_iff, timesLastDigit_eq_some_iff, checkedProduct_eq_some_iff]
    constructor
    · rintro ⟨next, hnext, square, hsquare, h⟩
      exact (hstep hnext hsquare).mp h
    · intro h
      have hword := word.toNat_lt_size
      have hfirst := held.toNat_lt_size
      have hdigit := mul_pow_mod_le held.toNat base.toNat exponent.toNat
      have hroot := mul_self_le_mul_pow hheld hlarge
      obtain ⟨next, hnext⟩ :=
        exists_toNat_eq_iff.mpr (hdigit.trans_lt (max_lt hfirst (h ▸ hword)))
      obtain ⟨square, hsquare⟩ := exists_toNat_eq_iff.mpr (hroot.trans_lt (h ▸ hword))
      exact ⟨next, hnext, square, hsquare, (hstep hnext hsquare).mpr h⟩

/-- A power is found exactly if it is a word, and no product on the way to it is wrapped. -/
theorem checkedPower_eq_some_iff :
    checkedPower base exponent = some word ↔ word.toNat = base.toNat ^ exponent.toNat := by
  have hone : (1 : UInt64).toNat = 0 → base.toNat = 0 := by
    intro h
    cases h
  unfold checkedPower
  rw [timesPower_eq_some_iff hone]
  simp

lemma checkedPower_eq_none_iff :
    checkedPower base exponent = none ↔ UInt64.size ≤ base.toNat ^ exponent.toNat := by
  rw [← not_lt, ← exists_toNat_eq_iff, Option.eq_none_iff_forall_ne_some, not_exists]
  exact forall_congr' fun word => not_congr checkedPower_eq_some_iff

end HeatingPortal.Number
