/-!
# UTF-8

Decoding bytes to characters by the table of well-formed sequences. `decode?` refuses
ill-formed bytes; `decodeLossy` puts U+FFFD in the place of each longest part that could
have begun a sequence.
-/

namespace HeatingPortal.Text

/-- What a first byte announces: how many bytes follow, which bytes may come next, and the bits
it contributes. -/
structure Lead where
  following : Nat
  low : UInt8
  high : UInt8
  bits : Nat

/-- The lead of a sequence that begins with this byte. -/
def lead? (b : UInt8) : Option Lead :=
  if b < 0x80 then some ⟨0, 0, 0, b.toNat⟩
  else if b < 0xC2 then none
  else if b < 0xE0 then some ⟨1, 0x80, 0xBF, b.toNat - 0xC0⟩
  else if b = 0xE0 then some ⟨2, 0xA0, 0xBF, 0⟩
  else if b = 0xED then some ⟨2, 0x80, 0x9F, 0xD⟩
  else if b < 0xF0 then some ⟨2, 0x80, 0xBF, b.toNat - 0xE0⟩
  else if b = 0xF0 then some ⟨3, 0x90, 0xBF, 0⟩
  else if b < 0xF4 then some ⟨3, 0x80, 0xBF, b.toNat - 0xF0⟩
  else if b = 0xF4 then some ⟨3, 0x80, 0x8F, 4⟩
  else none

/-- A sequence under way: how many bytes it lacks, which byte may come next, the bits so far. -/
structure Pending where
  lacking : Nat
  low : UInt8
  high : UInt8
  bits : Nat

/-- A decoded character, or a place where the bytes are ill-formed. -/
abbrev Decoded :=
  Option Char

/-- Starts a sequence with a byte. -/
def beginSequence (b : UInt8) : List Decoded × Option Pending :=
  match lead? b with
  | none => ([none], none)
  | some lead =>
    if lead.following = 0 then ([some (Char.ofNat lead.bits)], none)
    else ([], some ⟨lead.following, lead.low, lead.high, lead.bits⟩)

/-- Takes the next byte; one that cannot continue a sequence ends it and starts another. -/
def nextByte (state : Option Pending) (b : UInt8) : List Decoded × Option Pending :=
  match state with
  | none => beginSequence b
  | some seen =>
    if seen.low ≤ b ∧ b ≤ seen.high then
      let bits := seen.bits * 64 + (b.toNat - 0x80)
      if seen.lacking ≤ 1 then ([some (Char.ofNat bits)], none)
      else ([], some ⟨seen.lacking - 1, 0x80, 0xBF, bits⟩)
    else
      let (decoded, state) := beginSequence b
      (none :: decoded, state)

/-- Decodes the bytes that follow a state. -/
def decodeFrom (state : Option Pending) : List UInt8 → List Decoded
  | [] => if state.isSome then [none] else []
  | b :: rest => (nextByte state b).1 ++ decodeFrom (nextByte state b).2 rest

/-- Decodes well-formed bytes. -/
def decode? (bytes : List UInt8) : Option String :=
  ((decodeFrom none bytes).mapM id).map String.ofList

/-- Decodes any bytes, with U+FFFD for what is ill-formed. -/
def decodeLossy (bytes : List UInt8) : String :=
  String.ofList ((decodeFrom none bytes).map (·.getD '\uFFFD'))

/-- The bytes of a text. -/
def encode (text : String) : List UInt8 :=
  text.toList.flatMap String.utf8EncodeChar

end HeatingPortal.Text
