import HeatingPortal.Text.Blank

/-!
# Characters of KDL

Which characters are spaces, line ends and parts of a bare word, and which may
stand in comments only.
-/

namespace HeatingPortal.Kdl

/-- The spaces: tab, and the Unicode characters of category `Zs`. -/
def isSpace (c : Char) : Bool :=
  Text.inRanges
    [(0x09, 0x09), (0x20, 0x20), (0xA0, 0xA0), (0x1680, 0x1680), (0x2000, 0x200A),
     (0x202F, 0x202F), (0x205F, 0x205F), (0x3000, 0x3000)]
    c.toNat

/-- The line ends of one character; a carriage return and a line feed
together are one line end. -/
def isNewline (c : Char) : Bool :=
  Text.inRanges [(0x0A, 0x0D), (0x85, 0x85), (0x2028, 0x2029)] c.toNat

/-- Spaces and line ends. -/
def isGap (c : Char) : Bool :=
  isSpace c || isNewline c

/-- The code points that may stand in comments only: controls, direction
marks, byte order marks. -/
def isForbidden (c : Char) : Bool :=
  Text.inRanges
    [(0x00, 0x08), (0x0E, 0x1F), (0x200E, 0x200F), (0x202A, 0x202E), (0x2066, 0x2069),
     (0xFEFF, 0xFEFF)]
    c.toNat

/-- The characters that have a meaning of their own. -/
def isReserved (c : Char) : Bool :=
  "\\/()\x7b\x7d[];\"#=".contains c

/-- The characters of bare words, numbers and keywords. -/
def isWordChar (c : Char) : Bool :=
  !isGap c && !isReserved c && !isForbidden c

/-- The ASCII digits. -/
def isDigit (c : Char) : Bool :=
  '0' ≤ c && c ≤ '9'

/-- Splits off one line end. -/
def dropNewline? : List Char → Option (List Char)
  | '\r' :: '\n' :: rest => some rest
  | c :: rest => if isNewline c then some rest else none
  | [] => none

/-- Removes the start of a text, if it is the given one. -/
def dropExact? : List Char → List Char → Option (List Char)
  | [], cs => some cs
  | _ :: _, [] => none
  | expected :: more, c :: rest => if expected = c then dropExact? more rest else none

end HeatingPortal.Kdl
