import HeatingPortal.Kdl.Number
import HeatingPortal.Kdl.Text

/-!
# Tokens of KDL

A document is cut into tokens from the front. Spaces, block comments and a line end after a
backslash become one space token each; a line end, alone or after a line comment, becomes a
newline token. Any character may stand in a comment. A keyword ends with its last letter,
whatever follows; a text and a number end where a character stands that cannot belong to them.
-/

namespace HeatingPortal.Kdl

/-- A token of a document. -/
inductive Token where
  | space
  | newline
  | semicolon
  | openBlock
  | closeBlock
  | openType
  | closeType
  | equals
  | slashdash
  | text (value : String)
  | number (value : Value)
  | keyword (value : Value)

/-! ### Comments and line ends -/

/-- The rest after a block comment; comments nest. -/
def afterComment? : Nat → List Char → Option (List Char)
  | _, [] => none
  | depth, '*' :: '/' :: rest => if depth = 0 then some rest else afterComment? (depth - 1) rest
  | depth, '/' :: '*' :: rest => afterComment? (depth + 1) rest
  | depth, _ :: rest => afterComment? depth rest

/-- The rest after a line comment and the line end that closes it. -/
def afterLine (cs : List Char) : List Char :=
  let rest := cs.dropWhile (!isNewline ·)
  (dropNewline? rest).getD rest

/-- The rest after a backslash that joins two lines: spaces and block comments may stand before
the line end, and a line comment may lead to it. -/
def afterLineJoin? : Nat → List Char → Option (List Char)
  | _, [] => some []
  | 0, _ => none
  | limit + 1, '/' :: '*' :: rest => (afterComment? 0 rest).bind (afterLineJoin? limit)
  | _, '/' :: '/' :: rest => some (afterLine rest)
  | limit + 1, c :: rest =>
    if isSpace c then afterLineJoin? limit rest else dropNewline? (c :: rest)

/-! ### Words -/

/-- The words that stand for values only after a number sign; none of them begins another. -/
def keywords : List (String × Value) :=
  [("true", .bool true), ("false", .bool false), ("null", .null),
   ("inf", .real (.infinite false)), ("-inf", .real (.infinite true)), ("nan", .real .nan)]

/-- The words that may not stand bare. -/
def reservedWords : List String :=
  ["true", "false", "null", "inf", "nan"]

/-- A word that begins like a number has a digit first, or after a sign. -/
def beginsNumber : List Char → Bool
  | '+' :: c :: _ | '-' :: c :: _ => isDigit c
  | c :: _ => isDigit c
  | [] => false

/-- A word with a point before its first digit is neither a number nor a text. -/
def beginsWithPoint (cs : List Char) : Bool :=
  match (Text.splitSign cs).2 with
  | '.' :: c :: _ => isDigit c
  | _ => false

/-- The token of a bare word. -/
def wordToken? (word : List Char) : Option Token :=
  if beginsNumber word then (number? word).map .number
  else if beginsWithPoint word || reservedWords.contains (String.ofList word) then none
  else some (.text (String.ofList word))

/-- The keyword at the front of a text and the rest. -/
def keyword? (cs : List Char) : Option (Token × List Char) :=
  keywords.findSome? fun (word, value) =>
    (dropExact? word.toList cs).map fun rest => (.keyword value, rest)

/-- The token that follows number signs: a raw text, or a keyword after one sign. -/
def signToken? (cs : List Char) : Option (Token × List Char) :=
  let signs := (cs.takeWhile (· = '#')).length
  let rest := cs.dropWhile (· = '#')
  match rest with
  | '"' :: _ =>
    (rawText? signs rest).map fun (text, after) => (.text (String.ofList text), after)
  | _ => if signs = 1 then keyword? rest else none

/-! ### Cutting a document -/

/-- The first token of a text and the rest. -/
def token? (cs : List Char) : Option (Token × List Char) :=
  match cs with
  | [] => none
  | '/' :: '/' :: rest => some (.newline, afterLine rest)
  | '/' :: '*' :: rest => (afterComment? 0 rest).map fun rest => (.space, rest)
  | '/' :: '-' :: rest => some (.slashdash, rest)
  | '\\' :: rest => (afterLineJoin? (rest.length + 1) rest).map fun rest => (.space, rest)
  | ';' :: rest => some (.semicolon, rest)
  | '\x7b' :: rest => some (.openBlock, rest)
  | '\x7d' :: rest => some (.closeBlock, rest)
  | '(' :: rest => some (.openType, rest)
  | ')' :: rest => some (.closeType, rest)
  | '=' :: rest => some (.equals, rest)
  | '"' :: _ => (quotedText? cs).map fun (text, rest) => (.text (String.ofList text), rest)
  | '#' :: _ => signToken? cs
  | c :: rest =>
    if isSpace c then some (.space, rest.dropWhile isSpace)
    else
      match dropNewline? cs with
      | some rest => some (.newline, rest)
      | none =>
        if isWordChar c then
          (wordToken? (cs.takeWhile isWordChar)).map fun token =>
            (token, cs.dropWhile isWordChar)
        else none

/-- Cuts a text into tokens, each of which takes at least one character. -/
def tokens? (cs : List Char) : Option (List Token) :=
  if cs.isEmpty then some []
  else
    match token? cs with
    | none => none
    | some (token, rest) =>
      if rest.length < cs.length then (tokens? rest).map (token :: ·) else none
termination_by cs.length

end HeatingPortal.Kdl
