import HeatingPortal.Number.Power

/-!
# Delays between attempts

The first attempt comes at once. After that the delay doubles from one second
up to a longest one.
-/

namespace HeatingPortal.Notice

open Number

/-- The longest delay, in seconds. -/
def longestDelay : UInt64 :=
  8

/-- The delay before the attempt of a number, in seconds; attempts count from one. A power that
does not fit a word is longer than the longest delay. -/
def backoff (attempt : UInt32) : UInt64 :=
  if attempt ≤ 1 then 0
  else (checkedPower 2 (attempt - 2)).elim longestDelay (min longestDelay)

/-- Attempts are counted in 32 bits. -/
def lastNumber : Nat :=
  4294967295

/-- The number of an attempt; those that come too late to be counted have the last one. -/
def attemptNumber (attempt : Nat) : Nat :=
  min attempt lastNumber

/-- The delay before an attempt, in seconds, by the number of the attempt. -/
def delay (attempt : Nat) : Nat :=
  (backoff (.ofNat (attemptNumber attempt))).toNat

/-- No delay at all. -/
def noDelay (_attempt : Nat) : Nat :=
  0

end HeatingPortal.Notice
