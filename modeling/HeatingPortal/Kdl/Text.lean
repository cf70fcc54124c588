import HeatingPortal.Kdl.Character

/-!
# Quoted texts of KDL

A text on one line stands between double quotes and may hold escapes. A text of several lines
stands between triple quotes: it begins on the line after the opening quotes, and the blank
start of the line with the closing quotes is removed from all its lines. A raw text has number
signs around its quotes and no escapes; one that is a single quote is refused, since it would
look like the start of several lines. Forbidden characters may stand in no text, unless they
are written as escapes.
-/

namespace HeatingPortal.Kdl

/-! ### Escapes -/

/-- Where a reader of escapes stands. -/
inductive Escape where
  /-- Not in an escape. -/
  | plain
  /-- After a backslash. -/
  | begun
  /-- In the gap that a backslash removes. -/
  | gap
  /-- After `\u`. -/
  | code
  /-- Between the braces of a code point: how many digits were read, and their value. -/
  | digits (count : Nat) (value : Nat)

/-- What a character stands for after a backslash, if it is one character. -/
def escapedChar? : Char → Option Char
  | '"' => some '"'
  | '\\' => some '\\'
  | 'b' => some '\x08'
  | 'f' => some '\x0c'
  | 'n' => some '\n'
  | 'r' => some '\r'
  | 't' => some '\t'
  | 's' => some ' '
  | _ => none

/-- The value of a hexadecimal digit. -/
def hexDigit? (c : Char) : Option Nat :=
  if '0' ≤ c && c ≤ '9' then some (c.toNat - '0'.toNat)
  else if 'a' ≤ c && c ≤ 'f' then some (c.toNat - 'a'.toNat + 10)
  else if 'A' ≤ c && c ≤ 'F' then some (c.toNat - 'A'.toNat + 10)
  else none

/-- The character of a code point, if it is one. -/
def scalar? (code : Nat) : Option Char :=
  if code.isValidChar then some (Char.ofNat code) else none

/-- Takes one character of a text, of one line or of several; gives the characters it adds and
where the reader stands then. -/
def Escape.next? (oneLine : Bool) (state : Escape) (c : Char) : Option (List Char × Escape) :=
  match state with
  | plain =>
    if c = '\\' then some ([], begun)
    else if oneLine && isNewline c then none
    else some ([c], plain)
  | gap =>
    if isGap c then some ([], gap)
    else some (if c = '\\' then ([], begun) else ([c], plain))
  | begun =>
    if isGap c then some ([], gap)
    else if c = 'u' then some ([], code)
    else (escapedChar? c).map fun value => ([value], plain)
  | code => if c = '\x7b' then some ([], digits 0 0) else none
  | digits count value =>
    if c = '\x7d' then
      if count = 0 then none else (scalar? value).map fun value => ([value], plain)
    else if count < 6 then
      (hexDigit? c).map fun digit => ([], digits (count + 1) (16 * value + digit))
    else none

/-- A text may end here. -/
def Escape.isComplete : Escape → Bool
  | plain | gap => true
  | _ => false

/-- Replaces the escapes of a whole text. -/
def unescape? (oneLine : Bool) (state : Escape) : List Char → Option (List Char)
  | [] => if state.isComplete then some [] else none
  | c :: rest => do
    let (added, state) ← state.next? oneLine c
    let others ← unescape? oneLine state rest
    return added ++ others

/-! ### Finding the end -/

/-- The raw characters before the closing text and the rest after it; none of them is forbidden.
A backslash, where it escapes, keeps the next character from closing. -/
def untilClosed? (closing : List Char) (escapes : Bool) : Bool → List Char →
    Option (List Char × List Char)
  | _, [] => none
  | kept, c :: rest =>
    match if kept then none else dropExact? closing (c :: rest) with
    | some after => some ([], after)
    | none =>
      if isForbidden c then none
      else
        (untilClosed? closing escapes (escapes && !kept && c = '\\') rest).map
          fun (body, after) => (c :: body, after)

/-! ### Several lines -/

/-- Where a reader of gaps stands. -/
inductive Joining where
  | plain
  /-- After a backslash. -/
  | begun
  /-- In the gap that a backslash removes. -/
  | gap

/-- Removes the gaps that follow a backslash, with the backslash; other escapes stay. -/
def joinGaps : Joining → List Char → List Char
  | .begun, [] => ['\\']
  | _, [] => []
  | .begun, c :: rest =>
    if isGap c then joinGaps .gap rest else '\\' :: c :: joinGaps .plain rest
  | .gap, c :: rest =>
    if isGap c then joinGaps .gap rest
    else if c = '\\' then joinGaps .begun rest
    else c :: joinGaps .plain rest
  | .plain, c :: rest =>
    if c = '\\' then joinGaps .begun rest else c :: joinGaps .plain rest

/-- The lines of a text; each of the line ends separates two. -/
def splitLines : List Char → List (List Char)
  | [] => [[]]
  | '\r' :: '\n' :: rest => [] :: splitLines rest
  | c :: rest =>
    if isNewline c then [] :: splitLines rest
    else
      match splitLines rest with
      | [] => [[c]]
      | line :: lines => (c :: line) :: lines

/-- Removes the indentation of a line; a line of spaces is empty. -/
def dedentLine? (indent line : List Char) : Option (List Char) :=
  if line.all isSpace then some [] else dropExact? indent line

/-- Removes the indentation that the last line shows from all lines before it. -/
def dedent? (lines : List (List Char)) : Option (List Char) := do
  let indent ← lines.getLast?
  if indent.all isSpace then
    let lines ← lines.dropLast.mapM (dedentLine? indent)
    return List.intercalate ['\n'] lines
  else none

/-! ### Texts -/

/-- The three quotes around several lines. -/
def tripleQuote : List Char :=
  ['"', '"', '"']

/-- The rest after the opening of a text of several lines: three quotes and a line end. -/
def afterOpening? (cs : List Char) : Option (List Char) :=
  (dropExact? tripleQuote cs).bind dropNewline?

/-- Reads a raw text of several lines after its opening. -/
def rawLines? (signs rest : List Char) : Option (List Char × List Char) := do
  let (body, after) ← untilClosed? (tripleQuote ++ signs) false false rest
  let text ← dedent? (splitLines body)
  return (text, after)

/-- Reads a raw text of one line, in which quotes may stand, with its opening quote. -/
def rawLine? (signs cs : List Char) : Option (List Char × List Char) := do
  let rest ← dropExact? ['"'] cs
  let (body, after) ← untilClosed? ('"' :: signs) false false rest
  if body.any isNewline then none else return (body, after)

/-- Reads what follows the number signs of a raw text. -/
def rawText? (signs : Nat) (cs : List Char) : Option (List Char × List Char) :=
  let signs := List.replicate signs '#'
  let result := match afterOpening? cs with
    | some rest => rawLines? signs rest
    | none => rawLine? signs cs
  result.filter (·.1 ≠ ['"'])

/-- Reads a quoted text with its quotes. -/
def quotedText? (cs : List Char) : Option (List Char × List Char) :=
  match dropExact? tripleQuote cs with
  | some rest => do
    let rest ← dropNewline? rest
    let (body, after) ← untilClosed? tripleQuote true false rest
    let text ← dedent? (splitLines (joinGaps .plain body))
    let text ← unescape? false .plain text
    return (text, after)
  | none => do
    let rest ← dropExact? ['"'] cs
    let (body, after) ← untilClosed? ['"'] true false rest
    let text ← unescape? true .plain body
    return (text, after)

end HeatingPortal.Kdl
