import HeatingPortal.Text.Hidden

/-!
# Quoted text

A text quoted in a message stands between double quotes. A backslash marks what would end the
text or would not show: the quote and the backslash themselves, the usual controls by a letter,
and hidden characters by their code point in braces.
-/

namespace HeatingPortal.Text

/-- A code point in lower-case hexadecimal, without leading zeros. -/
def hexadecimal (n : Nat) : List Char :=
  Nat.toDigits 16 n

/-- What stands for a character inside a quoted text. -/
def quotedChar (c : Char) : List Char :=
  match c with
  | '"' => ['\\', '"']
  | '\\' => ['\\', '\\']
  | '\n' => ['\\', 'n']
  | '\r' => ['\\', 'r']
  | '\t' => ['\\', 't']
  | '\x00' => ['\\', '0']
  | c => if isHidden c then '\\' :: 'u' :: '\x7b' :: (hexadecimal c.toNat ++ ['\x7d']) else [c]

/-- The text between double quotes, with escapes. -/
def quoted (text : String) : String :=
  String.ofList ('"' :: (text.toList.flatMap quotedChar ++ ['"']))

end HeatingPortal.Text
