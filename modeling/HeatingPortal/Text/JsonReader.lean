import HeatingPortal.Text.Json

/-!
# Reading JSON

A text is cut into tokens, and a reader takes them one by one, keeping the arrays and objects
that are open. Numbers without point and exponent are integers, except for `-0`, which only a
double can be.
-/

namespace HeatingPortal.Text

open Number

/-! ### Tokens -/

/-- A token of a JSON text. -/
inductive JsonToken where
  | openArray
  | closeArray
  | openObject
  | closeObject
  | comma
  | colon
  | string (value : String)
  | leaf (value : Json)

namespace JsonToken

/-- The blanks of JSON. -/
def isJsonBlank (c : Char) : Bool :=
  c = ' ' || c = '\t' || c = '\n' || c = '\r'

/-- The value of a hexadecimal digit. -/
def hexDigit? (c : Char) : Option Nat :=
  if '0' ≤ c && c ≤ '9' then some (c.toNat - '0'.toNat)
  else if 'a' ≤ c && c ≤ 'f' then some (c.toNat - 'a'.toNat + 10)
  else if 'A' ≤ c && c ≤ 'F' then some (c.toNat - 'A'.toNat + 10)
  else none

/-- Reads four hexadecimal digits. -/
def codeUnit? : List Char → Option (Nat × List Char)
  | a :: b :: c :: d :: rest => do
    let a ← hexDigit? a
    let b ← hexDigit? b
    let c ← hexDigit? c
    let d ← hexDigit? d
    return (((a * 16 + b) * 16 + c) * 16 + d, rest)
  | _ => none

/-- Reads the character whose first code unit follows; a high surrogate
needs a low one after it. -/
def escapedCode? (cs : List Char) : Option (Char × List Char) := do
  let (high, rest) ← codeUnit? cs
  if 0xD800 ≤ high ∧ high < 0xDC00 then
    match rest with
    | '\\' :: 'u' :: rest => do
      let (low, rest) ← codeUnit? rest
      if 0xDC00 ≤ low ∧ low < 0xE000 then
        return (Char.ofNat (0x10000 + (high - 0xD800) * 0x400 + (low - 0xDC00)), rest)
      else none
    | _ => none
  else if high.isValidChar then return (Char.ofNat high, rest)
  else none

/-- What a letter stands for after a backslash. -/
def escapedLetter? : Char → Option Char
  | '"' => some '"'
  | '\\' => some '\\'
  | '/' => some '/'
  | 'b' => some '\x08'
  | 'f' => some '\x0c'
  | 'n' => some '\n'
  | 'r' => some '\r'
  | 't' => some '\t'
  | _ => none

/-- Reads a string after its opening quote, in at most `limit` characters. -/
def stringBody? : (limit : Nat) → List Char → Option (List Char × List Char)
  | 0, _ => none
  | _ + 1, [] => none
  | _ + 1, '"' :: rest => some ([], rest)
  | limit + 1, '\\' :: 'u' :: rest => do
    let (c, rest) ← escapedCode? rest
    let (body, rest) ← stringBody? limit rest
    return (c :: body, rest)
  | limit + 1, '\\' :: letter :: rest => do
    let c ← escapedLetter? letter
    let (body, rest) ← stringBody? limit rest
    return (c :: body, rest)
  | limit + 1, c :: rest =>
    if c = '\\' || c.toNat < 0x20 then none
    else (stringBody? limit rest).map fun (body, rest) => (c :: body, rest)

/-- The characters that words and numbers are made of. -/
def isWordChar (c : Char) : Bool :=
  c.isAlphanum || c = '+' || c = '-' || c = '.'

/-- Reads the whole part of a number, which has no leading zero. -/
def whole? : List Char → Option Nat
  | '0' :: _ :: _ => none
  | cs => natural? cs

/-- Splits a text before a character that satisfies a condition. -/
def splitBefore (p : Char → Bool) (cs : List Char) : List Char × List Char :=
  (cs.takeWhile (!p ·), cs.dropWhile (!p ·))

/-- Reads the exponent of a number, with its letter; none is zero. -/
def power? : List Char → Option Int
  | [] => some 0
  | _ :: cs => integer? cs

/-- Reads the fraction of a number, with its point: the digits and how many they are. -/
def places? : List Char → Option (List Char)
  | [] => some []
  | _ :: [] => none
  | _ :: digits => some digits

/-- Reads a number, which must be finite. -/
def number? (cs : List Char) : Option Json := do
  let (negative, cs) := match cs with
    | '-' :: cs => (true, cs)
    | cs => (false, cs)
  let (mantissa, exponent) := splitBefore (fun c => c = 'e' || c = 'E') cs
  let (whole, fraction) := splitBefore (· = '.') mantissa
  let value ← whole? whole
  if fraction.isEmpty && exponent.isEmpty && !(negative && value = 0) then
    return .integer (if negative then -(value : Int) else value)
  let power ← power? exponent
  let places ← places? fraction
  let digits ← foldDigits value places
  let value := Binary64.ofDecimal negative digits (power - places.length)
  if value.isFinite then return .number value else none

/-- The token of a word or a number. -/
def word? (cs : List Char) : Option Json :=
  match String.ofList cs with
  | "null" => some .null
  | "true" => some (.bool true)
  | "false" => some (.bool false)
  | _ => number? cs

/-- The first token of a text and the rest. -/
def first? (cs : List Char) : Option (JsonToken × List Char) :=
  match cs with
  | [] => none
  | '[' :: rest => some (openArray, rest)
  | ']' :: rest => some (closeArray, rest)
  | '\x7b' :: rest => some (openObject, rest)
  | '\x7d' :: rest => some (closeObject, rest)
  | ',' :: rest => some (comma, rest)
  | ':' :: rest => some (colon, rest)
  | '"' :: rest =>
    (stringBody? (rest.length + 1) rest).map fun (body, rest) =>
      (string (String.ofList body), rest)
  | cs =>
    (word? (cs.takeWhile isWordChar)).map fun value => (leaf value, cs.dropWhile isWordChar)

/-- Cuts a text into tokens, each of which takes at least one character. -/
def all? (cs : List Char) : Option (List JsonToken) :=
  if cs.isEmpty then some []
  else
    match first? cs with
    | none => none
    | some (token, rest) =>
      let rest := rest.dropWhile isJsonBlank
      if rest.length < cs.length then (all? rest).map (token :: ·) else none
termination_by cs.length

end JsonToken

/-! ### Documents -/

/-- An array or an object that is open: what it holds, the newest first, and the key
whose value is under way. -/
inductive JsonOpen where
  | array (items : List Json)
  | object (fields : List (String × Json)) (key : String)

/-- The place reached in a JSON text. -/
inductive JsonPlace where
  | beforeValue
  /-- After an opening bracket. -/
  | beforeItem
  /-- In an object before a key, or after the opening brace. -/
  | beforeKey (fields : List (String × Json)) (first : Bool)
  | beforeColon (fields : List (String × Json)) (key : String)
  | afterValue (value : Json)

/-- A reader of JSON. -/
structure JsonReader where
  opened : List JsonOpen
  place : JsonPlace

namespace JsonReader

/-- A token that begins a value. -/
def beginValue? (reader : JsonReader) : JsonToken → Option JsonReader
  | .leaf value => some { reader with place := .afterValue value }
  | .string value => some { reader with place := .afterValue (.string value) }
  | .openArray => some ⟨.array [] :: reader.opened, .beforeItem⟩
  | .openObject => some { reader with place := .beforeKey [] true }
  | _ => none

/-- Takes one token. -/
def next? (reader : JsonReader) (token : JsonToken) : Option JsonReader :=
  match reader.place, token with
  | .beforeItem, .closeArray => some ⟨reader.opened.drop 1, .afterValue (.array [])⟩
  | .beforeValue, token | .beforeItem, token => reader.beginValue? token
  | .beforeKey fields _, .string key => some { reader with place := .beforeColon fields key }
  | .beforeKey _ true, .closeObject => some { reader with place := .afterValue (.object []) }
  | .beforeColon fields key, .colon => some ⟨.object fields key :: reader.opened, .beforeValue⟩
  | .afterValue value, token =>
    match reader.opened, token with
    | .array items :: outer, .comma => some ⟨.array (value :: items) :: outer, .beforeValue⟩
    | .array items :: outer, .closeArray =>
      some ⟨outer, .afterValue (.array (value :: items).reverse)⟩
    | .object fields key :: outer, .comma =>
      some ⟨outer, .beforeKey ((key, value) :: fields) false⟩
    | .object fields key :: outer, .closeObject =>
      some ⟨outer, .afterValue (.object ((key, value) :: fields).reverse)⟩
    | _, _ => none
  | _, _ => none

/-- The document, if it may end here. -/
def finish? (reader : JsonReader) : Option Json :=
  match reader.opened, reader.place with
  | [], .afterValue value => some value
  | _, _ => none

end JsonReader

/-- Reads exactly one document; blanks around it do not matter. -/
def Json.read? (text : String) : Option Json := do
  let tokens ← JsonToken.all? (text.toList.dropWhile JsonToken.isJsonBlank)
  let reader ← tokens.foldlM JsonReader.next? ⟨[], .beforeValue⟩
  reader.finish?

end HeatingPortal.Text
