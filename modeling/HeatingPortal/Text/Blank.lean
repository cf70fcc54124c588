/-!
# Blank characters

The characters with the Unicode property `White_Space`, and trimming: a trimmed text neither
begins nor ends with one of them.
-/

namespace HeatingPortal.Text

/-- The closed ranges of code points with the property `White_Space`. -/
def blankRanges : List (Nat × Nat) :=
  [(0x09, 0x0D), (0x20, 0x20), (0x85, 0x85), (0xA0, 0xA0), (0x1680, 0x1680), (0x2000, 0x200A),
   (0x2028, 0x2029), (0x202F, 0x202F), (0x205F, 0x205F), (0x3000, 0x3000)]

/-- Whether a code point lies in one of the closed ranges. -/
def inRanges (ranges : List (Nat × Nat)) (code : Nat) : Bool :=
  ranges.any fun range => range.1 ≤ code && code ≤ range.2

/-- A character counts as blank when Unicode gives it the property `White_Space`. -/
def isBlank (c : Char) : Bool :=
  inRanges blankRanges c.toNat

/-- Removes the blank characters at the front. -/
def trimLeft (cs : List Char) : List Char :=
  cs.dropWhile isBlank

/-- Removes the blank characters at the back. -/
def trimRight (cs : List Char) : List Char :=
  (cs.reverse.dropWhile isBlank).reverse

/-- Removes the blank characters at both ends and keeps all others. -/
def trim (text : String) : String :=
  String.ofList (trimRight (trimLeft text.toList))

@[simp]
theorem trim_toList (text : String) :
    (trim text).toList = trimRight (trimLeft text.toList) := by
  simp [trim]

end HeatingPortal.Text
