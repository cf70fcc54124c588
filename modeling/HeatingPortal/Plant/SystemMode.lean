import HeatingPortal.Error
import HeatingPortal.Plant.Program

/-!
# The system mode

The system mode is one byte: the primary mode in its low seven bits, and the suppress flag in the
high one. The plant keeps the two apart, so writing them takes two calls.
-/

namespace HeatingPortal.Plant

/-! ### The byte -/

/-- The byte of a primary mode and the suppress flag; a primary mode has seven bits. -/
def compose (primary : UInt8) (suppress : Bool) : UInt8 :=
  primary % 128 + if suppress then 128 else 0

/-- The primary mode of a byte. -/
def primaryOf (composite : UInt8) : UInt8 :=
  composite % 128

/-- The suppress flag of a byte. -/
def suppressOf (composite : UInt8) : Bool :=
  128 ≤ composite

theorem toNat_compose (primary : UInt8) (suppress : Bool) :
    (compose primary suppress).toNat = primary.toNat % 128 + if suppress then 128 else 0 := by
  cases suppress <;> simp [compose, UInt8.toNat_add, UInt8.toNat_mod]
  omega

theorem suppressOf_eq (composite : UInt8) :
    suppressOf composite = decide (128 ≤ composite.toNat) :=
  rfl

theorem primaryOf_compose (primary : UInt8) (suppress : Bool) :
    primaryOf (compose primary suppress) = primary % 128 := by
  apply UInt8.toNat_inj.1
  rw [primaryOf, UInt8.toNat_mod, toNat_compose, UInt8.toNat_mod]
  cases suppress <;> simp

theorem suppressOf_compose (primary : UInt8) (suppress : Bool) :
    suppressOf (compose primary suppress) = suppress := by
  have low : primary.toNat % 128 < 128 := Nat.mod_lt _ (by decide)
  rw [suppressOf_eq, toNat_compose]
  cases suppress <;> simp
  exact low

theorem compose_primaryOf_suppressOf (composite : UInt8) :
    compose (primaryOf composite) (suppressOf composite) = composite := by
  have bound : composite.toNat < 256 := composite.toNat_lt
  apply UInt8.toNat_inj.1
  rw [toNat_compose, primaryOf, suppressOf_eq, UInt8.toNat_mod]
  simp only [decide_eq_true_eq, UInt8.reduceToNat]
  split <;> omega

/-! ### Reading and writing -/

/-- Reads the system mode: the primary mode and then the suppress flag. -/
def readSystemMode : Task Failure UInt8 := do
  let primary ← Operation.systemMode.send
  let suppress ← Operation.suppressFlag.send
  return compose primary suppress

/-- A system mode to be written. -/
structure SystemModeChange where
  primary : UInt8
  suppress : Bool
deriving DecidableEq

namespace SystemModeChange

/-- The change to a code, which must have seven bits. -/
def ofCode (code : Int64) (suppress : Bool) : Except Error SystemModeChange :=
  if 0 ≤ code.toInt ∧ code.toInt ≤ 127 then .ok ⟨UInt8.ofNat code.toInt.toNat, suppress⟩
  else .error (.rejected [⟨"sysmode", "mode code out of range"⟩])

/-- The byte that the change leaves behind. -/
def composite (change : SystemModeChange) : UInt8 :=
  compose change.primary change.suppress

/-- Writes the primary mode and then the suppress flag. -/
def apply (change : SystemModeChange) : Task Error UInt8 := do
  (Operation.setSystemMode change.primary).send.ofPlant .plant
  (Operation.setSuppressFlag change.suppress).send.ofPlant
    (.halfDone "set_system_mode" "set_suppress_flag")
  return change.composite

end SystemModeChange

end HeatingPortal.Plant
