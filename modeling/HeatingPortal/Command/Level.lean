import HeatingPortal.Command.Switch

/-!
# Levels of a command line

A command line is read level by level. A level takes options in any order, until a word names one
of its subcommands, which takes the words after it. When all words are read, what was not given
may still come from the environment, inner levels before outer ones.
-/

namespace HeatingPortal.Command

/-- A level of a command line. -/
structure Level where
  switches : List Switch
  /-- The names of the subcommands; a level that has some wants one of them. -/
  subcommands : List String
  /-- What the given options must fulfil. -/
  check : Given → Except Usage Unit

/-- The options read so far, and the option that was read last while its value may still come. -/
structure Reading where
  given : Given
  awaiting : Option Switch
  value : Option String

namespace Reading

/-- Nothing is read yet. -/
def empty : Reading :=
  ⟨[], none, none⟩

/-- Gives a value to an option, which may not have one yet. -/
def give (reading : Reading) (switch : Switch) (value : String) : Except Usage Reading := do
  if reading.given.has switch.long then
    throw .conflict
  return { reading with given := (switch.long, ← switch.takes.value value) :: reading.given }

/-- Ends the option that was read last, which must have got its value. -/
def settle (reading : Reading) : Except Usage Reading :=
  match reading.awaiting, reading.value with
  | none, _ => .ok reading
  | some _, none => .error .badValue
  | some switch, some value =>
    ({ reading with awaiting := none, value := none }).give switch value

/-- Reads an option without a value, which may ask for something else than a command. -/
def raise (reading : Reading) (switch : Switch) : Except Usage Reading := do
  let settled ← reading.settle
  match switch.takes with
  | .help => throw .help
  | .version => throw .version
  | _ => settled.give switch "true"

/-- Reads an option that takes a value: with one attached, or with one that may come next. -/
def take (reading : Reading) (switch : Switch) (attached : Option String) :
    Except Usage Reading := do
  let settled ← reading.settle
  match attached with
  | some value => settled.give switch value
  | none => return { settled with awaiting := some switch }

end Reading

/-! ### Words -/

/-- The value behind an equals sign. -/
def afterEquals? : List Char → Option String
  | '=' :: value => some (String.ofList value)
  | _ => none

/-- The value attached to a letter: all that follows it, less one equals sign. -/
def attachedValue? (rest : List Char) : Option String :=
  if rest.isEmpty then none else some ((afterEquals? rest).getD (String.ofList rest))

namespace Level

/-- Reads a long option, after its dashes. -/
def readLong (level : Level) (reading : Reading) (cs : List Char) : Except Usage Reading :=
  let name := String.ofList (cs.takeWhile (· ≠ '='))
  let attached := afterEquals? (cs.dropWhile (· ≠ '='))
  match level.switches.find? (·.long = name) with
  | none => .error .unknownWord
  | some switch =>
    if switch.takesValue then reading.take switch attached
    else if attached.isSome then .error .unwantedValue
    else reading.raise switch

/-- Reads letters, after their dash; the first that takes a value takes all that is left. -/
def readLetters (level : Level) (reading : Reading) : List Char → Except Usage Reading
  | [] => .ok reading
  | c :: rest =>
    match level.switches.find? (·.letter = some c) with
    | none => .error .unknownWord
    | some switch =>
      if switch.takesValue then reading.take switch (attachedValue? rest)
      else do level.readLetters (← reading.raise switch) rest

/-- What a word means that has no place. -/
def stray (level : Level) : Usage :=
  if level.subcommands.isEmpty then .unknownWord else .unknownCommand

/-- What a word means after two dashes, where only values have a place and no level takes any. -/
def strayValue (level : Level) (word : String) : Usage :=
  if level.subcommands.contains word then .unknownWord else level.stray

/-- Whether an option still waits for its value. -/
def awaitsValue (reading : Reading) : Bool :=
  reading.awaiting.isSome && reading.value.isNone

/-- Reads a word that names no subcommand. -/
def readWord (level : Level) (reading : Reading) (word : String) : Except Usage Reading :=
  match word.toList with
  | '-' :: '-' :: cs => level.readLong reading cs
  | '-' :: c :: cs => level.readLetters reading (c :: cs)
  | _ =>
    if awaitsValue reading then .ok { reading with value := some word }
    else .error level.stray

/-- Reads words up to a subcommand, which is left with the words after it. -/
def readWords (level : Level) (reading : Reading) :
    List String → Except Usage (Reading × Option (String × List String))
  | [] => .ok (reading, none)
  | word :: rest =>
    if word = "--" then
      match rest with
      | [] => .ok (reading, none)
      | next :: _ => .error (level.strayValue next)
    else if !awaitsValue reading && level.subcommands.contains word then
      .ok (reading, some (word, rest))
    else do level.readWords (← level.readWord reading word) rest

/-! ### Ends -/

/-- Takes what was not given from the environment. -/
def complete (level : Level) (environment : Environment) (given : Given) : Except Usage Given :=
  level.switches.foldlM
    (fun given switch =>
      match switch.environmentName.bind environment with
      | some value =>
        if given.has switch.long then .ok given
        else do return (switch.long, ← switch.takes.value value) :: given
      | none => .ok given)
    given

/-- Refuses a level without the subcommand it wants. -/
def requireSubcommand (level : Level) (given : Given) (chosen : Bool) : Except Usage Unit :=
  if level.subcommands.isEmpty || chosen then .ok ()
  else .error (if given.isEmpty then .nothingGiven else .missingCommand)

/-- Reads a level and the level of its subcommand. -/
def read {α : Type} (level : Level) (environment : Environment)
    (subcommand : String → List String → Except Usage α) (words : List String) :
    Except Usage (Given × Option α) := do
  let (reading, next) ← level.readWords .empty words
  let reading ← reading.settle
  let inner ← match next with
    | some (name, rest) => some <$> subcommand name rest
    | none => pure none
  let given ← level.complete environment reading.given
  level.requireSubcommand given inner.isSome
  level.check given
  return (given, inner)

end Level

end HeatingPortal.Command
