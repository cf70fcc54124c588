import HeatingPortal.Notice.Announcement
import HeatingPortal.Proofs.CheckedPowers

/-!
# Delays between attempts

The delay before an attempt is a power of two that is checked, not wrapped, where it does not fit
a word, so that the delays double from one second to eight and stay there (`toNat_backoff`). From
the fourth attempt on, all attempts so far have been waited for by eight seconds each, less
twenty-five (`totalDelay_eq`).
-/

namespace HeatingPortal.Notice

open Number Plant

/-! ### Delays -/

lemma toNat_min (first second : UInt64) :
    (min first second).toNat = min first.toNat second.toNat := by
  show (if first ≤ second then first else second).toNat = _
  rw [apply_ite UInt64.toNat, min_def]
  simp only [UInt64.le_iff_toNat_le]

lemma min_two_pow_eq {k : Nat} (h : 3 ≤ k) : min (2 ^ k) 8 = 8 := by
  apply min_eq_right
  calc 8 = 2 ^ 3 := rfl
    _ ≤ 2 ^ k := Nat.pow_le_pow_right Nat.two_pos h

lemma checkedPower_two_eq_none_iff {exponent : UInt32} :
    checkedPower 2 exponent = none ↔ 64 ≤ exponent.toNat := by
  have hsize : UInt64.size = 2 ^ 64 := rfl
  rw [checkedPower_eq_none_iff, hsize]
  exact Nat.pow_le_pow_iff_right Nat.one_lt_two

/-- The delay doubles from one second at the second attempt to eight seconds. -/
lemma toNat_backoff (attempt : UInt32) :
    (backoff attempt).toNat =
      if attempt.toNat ≤ 1 then 0 else min (2 ^ (attempt.toNat - 2)) 8 := by
  have hfirst : attempt ≤ 1 ↔ attempt.toNat ≤ 1 := UInt32.le_iff_toNat_le
  unfold backoff
  by_cases h : attempt.toNat ≤ 1
  · rw [if_pos (hfirst.mpr h), if_pos h]
    rfl
  · rw [if_neg (mt hfirst.mp h), if_neg h]
    -- The difference does not wrap behind the first attempt.
    have hexponent : (attempt - 2).toNat = attempt.toNat - 2 := by
      apply UInt32.toNat_sub_of_le
      rw [UInt32.le_iff_toNat_le]
      simp only [UInt32.reduceToNat]
      omega
    cases hpower : checkedPower 2 (attempt - 2) with
    | none =>
      have hlarge : 64 ≤ attempt.toNat - 2 := by
        rw [← hexponent]
        exact checkedPower_two_eq_none_iff.mp hpower
      rw [min_two_pow_eq (by omega)]
      rfl
    | some power =>
      have hexact : power.toNat = 2 ^ (attempt.toNat - 2) := by
        rw [← hexponent]
        exact checkedPower_eq_some_iff.mp hpower
      rw [Option.elim_some, toNat_min, hexact, min_comm]
      rfl

/-- An attempt that comes too late to be counted has the delay that its own number would have. -/
lemma delay_eq (attempt : Nat) :
    delay attempt = if attempt ≤ 1 then 0 else min (2 ^ (attempt - 2)) 8 := by
  have hnumber : (UInt32.ofNat (attemptNumber attempt)).toNat = attemptNumber attempt := by
    apply UInt32.toNat_ofNat_of_lt
    exact Nat.lt_succ_of_le (min_le_right attempt lastNumber)
  unfold delay
  rw [toNat_backoff, hnumber, attemptNumber]
  by_cases hcounted : attempt ≤ lastNumber
  · rw [min_eq_left hcounted]
  · have hlate : 5 ≤ lastNumber := by decide
    rw [min_eq_right (by omega), if_neg (by omega), if_neg (by omega), min_two_pow_eq (by omega),
      min_two_pow_eq (by omega)]

lemma delay_eq_eight {attempt : Nat} (h : 5 ≤ attempt) : delay attempt = 8 := by
  rw [delay_eq, if_neg (by omega), min_two_pow_eq (by omega)]

lemma backoff_le_backoff {first second : UInt32} (h : first ≤ second) :
    backoff first ≤ backoff second := by
  rw [UInt32.le_iff_toNat_le] at h
  rw [UInt64.le_iff_toNat_le, toNat_backoff, toNat_backoff]
  by_cases hfirst : first.toNat ≤ 1
  · simp [hfirst]
  · rw [if_neg hfirst, if_neg (by omega)]
    apply min_le_min_right
    exact Nat.pow_le_pow_right Nat.two_pos (by omega)

/-! ### Delays taken together -/

/-- The seconds that the first attempts are waited for, all together. -/
def totalDelay (n : Nat) : Nat :=
  ((List.range' 1 n).map delay).sum

lemma totalDelay_succ (n : Nat) : totalDelay (n + 1) = totalDelay n + delay (n + 1) := by
  simp [totalDelay, List.range'_1_concat, Nat.add_comm]

lemma totalDelay_four : totalDelay 4 = 7 := by
  simp [totalDelay, List.range', delay_eq]

/-- Behind the last doubling every attempt adds eight seconds. -/
lemma totalDelay_eq {n : Nat} (h : 4 ≤ n) : totalDelay n = 8 * n - 25 := by
  induction n, h using Nat.le_induction with
  | base => exact totalDelay_four
  | succ n hn ih =>
    rw [totalDelay_succ, ih, delay_eq_eight (by omega)]
    omega

lemma delay_attemptNumber (attempt : Nat) : delay (attemptNumber attempt) = delay attempt := by
  simp [delay, attemptNumber]

/-- Attempts are numbered one after another, however they end. -/
lemma exists_numbers_attempts_eq (read : Nat → Except Failure UInt8) (start limit : Nat) :
    ∃ n, (attempts read start limit).numbers = (List.range' start n).map attemptNumber := by
  induction limit generalizing start with
  | zero => exact ⟨0, rfl⟩
  | succ limit ih =>
    unfold attempts
    cases read start with
    | ok composite => exact ⟨1, rfl⟩
    | error failure =>
      obtain ⟨n, hn⟩ := ih (start + 1)
      exact ⟨n + 1, by simp [hn, List.range'_succ]⟩

/-- Whatever the reads give, the attempts made are waited for as the first
so many attempts are. -/
lemma sum_delay_attempts (read : Nat → Except Failure UInt8) (limit : Nat) :
    ((attempts read 1 limit).numbers.map delay).sum =
      totalDelay (attempts read 1 limit).numbers.length := by
  obtain ⟨n, hn⟩ := exists_numbers_attempts_eq read 1 limit
  simp [hn, totalDelay, delay_attemptNumber, Function.comp_def]

/-- The delay before every attempt is exact: none before the first attempt, and then a power of
two up to eight seconds. No product that the power takes is wrapped, and the power is the true
one or does not fit a word. Delays never become shorter, and `n` attempts, four or more, are
waited for `8 * n - 25` seconds, whatever the plant answers. -/
theorem backoff_exact :
    (∀ attempt : UInt32, (backoff attempt).toNat =
      if attempt.toNat ≤ 1 then 0 else min (2 ^ (attempt.toNat - 2)) 8) ∧
    (∀ first second product : UInt64,
      checkedProduct first second = some product ↔ product.toNat = first.toNat * second.toNat) ∧
    (∀ exponent : UInt32,
      (∀ power, checkedPower 2 exponent = some power ↔ power.toNat = 2 ^ exponent.toNat) ∧
      (checkedPower 2 exponent = none ↔ 64 ≤ exponent.toNat)) ∧
    (∀ first second : UInt32, first ≤ second → backoff first ≤ backoff second) ∧
    (∀ n, 4 ≤ n → totalDelay n = 8 * n - 25) ∧
    ∀ read limit, 4 ≤ (attempts read 1 limit).numbers.length →
      ((attempts read 1 limit).numbers.map delay).sum =
        8 * (attempts read 1 limit).numbers.length - 25 := by
  refine ⟨toNat_backoff, ?_, fun exponent => ⟨fun power => ?_, ?_⟩, ?_, ?_, ?_⟩
  · intro first second product
    exact checkedProduct_eq_some_iff
  · exact checkedPower_eq_some_iff
  · exact checkedPower_two_eq_none_iff
  · intro first second h
    exact backoff_le_backoff h
  · intro n hn
    exact totalDelay_eq hn
  · intro read limit hmany
    rw [sum_delay_attempts, totalDelay_eq hmany]

/-- The last attempt that is counted: its power does not fit a word, its delay is no shorter than
that of the fifth, and the delays up to it come to more than a thousand years. -/
theorem backoff_exact_last :
    checkedPower 2 4294967293 = none ∧ backoff 5 ≤ backoff 4294967295 ∧
      totalDelay lastNumber = 34359738335 := by
  obtain ⟨-, -, hpower, hmonotone, htotal, -⟩ := backoff_exact
  refine ⟨(hpower 4294967293).2.mpr (by decide), hmonotone 5 4294967295 (by decide), ?_⟩
  exact htotal lastNumber (by decide)

end HeatingPortal.Notice
