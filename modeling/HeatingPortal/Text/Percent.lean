import HeatingPortal.Text.Utf8

/-!
# Pieces and percent encoding

A path and a submitted form are cut into pieces at a separator. In a piece, a percent sign and
two hexadecimal digits stand for one byte; any other percent sign stands for itself. In a
submitted form, pairs are separated by `&`, a name from its value by the first `=`, and a plus
sign stands for a space.
-/

namespace HeatingPortal.Text

/-! ### Pieces between separators

A list is cut at every occurrence of a separator. There is always one piece more than separators,
and pieces may be empty. -/

/-- The pieces of a list between the occurrences of a separator. -/
def pieces {α : Type} [DecidableEq α] (separator : α) : List α → List (List α)
  | [] => [[]]
  | x :: rest =>
    match pieces separator rest with
    | [] => [[x]]
    | piece :: later => if x = separator then [] :: piece :: later else (x :: piece) :: later

theorem pieces_ne_nil {α : Type} [DecidableEq α] (separator : α) (list : List α) :
    pieces separator list ≠ [] := by
  induction list with
  | nil => simp [pieces]
  | cons x rest ih =>
    rw [pieces]
    split
    · simp
    · split <;> simp

/-! ### Escapes and forms -/

/-- The value of a hexadecimal digit. -/
def hexValue? (b : UInt8) : Option UInt8 :=
  if 0x30 ≤ b ∧ b ≤ 0x39 then some (b - 0x30)
  else if 0x41 ≤ b ∧ b ≤ 0x46 then some (b - 0x37)
  else if 0x61 ≤ b ∧ b ≤ 0x66 then some (b - 0x57)
  else none

/-- The byte that two hexadecimal digits stand for. -/
def hexByte? (high low : UInt8) : Option UInt8 :=
  (hexValue? high).bind fun h => (hexValue? low).map fun l => 16 * h + l

/-- Replaces each escape by its byte. -/
def percentDecode : List UInt8 → List UInt8
  | [] => []
  | 0x25 :: high :: low :: rest =>
    match hexByte? high low with
    | some b => b :: percentDecode rest
    | none => 0x25 :: percentDecode (high :: low :: rest)
  | b :: rest => b :: percentDecode rest

/-- The text of a name or value in a submitted form. -/
def formText (bytes : List UInt8) : String :=
  decodeLossy (percentDecode (bytes.map fun b => if b = 0x2B then 0x20 else b))

/-- The name and value of one pair; without `=` the value is empty. -/
def formPair (bytes : List UInt8) : String × String :=
  (formText (bytes.takeWhile (· != 0x3D)), formText ((bytes.dropWhile (· != 0x3D)).drop 1))

/-- The pairs of a submitted form in order; empty parts are skipped. -/
def formPairs (body : List UInt8) : List (String × String) :=
  ((pieces 0x26 body).filter (! ·.isEmpty)).map formPair

end HeatingPortal.Text
