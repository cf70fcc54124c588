import HeatingPortal.Command.Usage
import HeatingPortal.Number.Power
import HeatingPortal.Text.Integer

/-!
# Options of a command line

An option has a long name, perhaps a letter, and perhaps an environment variable that gives it
when the command line does not. It takes a value or is a mere flag.
-/

namespace HeatingPortal.Command

open Number Text

/-- The variables of the environment. -/
abbrev Environment :=
  String → Option String

/-- What an option takes. -/
inductive Takes where
  /-- No value; the option asks for help. -/
  | help
  /-- No value; the option asks for the version. -/
  | version
  /-- No value; the option is on when it is given. -/
  | flag
  | text
  /-- The path of a file, which is not empty. -/
  | path
  /-- The number of a port. -/
  | port
  /-- A number of milliseconds. -/
  | milliseconds
deriving DecidableEq

/-- An option. -/
structure Switch where
  long : String
  letter : Option Char
  takes : Takes
  environmentName : Option String
deriving DecidableEq

/-- The value of an option. -/
inductive SwitchValue where
  | flag (value : Bool)
  | text (value : String)
  | number (value : Nat)
deriving DecidableEq

/-- Whether an option takes a value. -/
def Switch.takesValue (switch : Switch) : Bool :=
  match switch.takes with
  | .help | .version | .flag => false
  | .text | .path | .port | .milliseconds => true

/-- The greatest number of a port. -/
def greatestPort : Nat :=
  65535

/-- The port that a text spells. -/
def port? (text : String) : Option Nat :=
  (integer? text.toList).bind fun n =>
    if 0 ≤ n ∧ n.toNat ≤ greatestPort then some n.toNat else none

/-- Digits with at most a plus sign. -/
def unsigned? (cs : List Char) : Option Nat :=
  natural? (if cs.head? = some '+' then cs.drop 1 else cs)

/-- The first number of milliseconds that does not fit a 64-bit word. -/
def millisecondsBound : Nat :=
  powerOfTwo 64

/-- The milliseconds that a text spells. -/
def milliseconds? (text : String) : Option Nat :=
  (unsigned? text.toList).filter (· < millisecondsBound)

/-- The value that a text stands for. -/
def Takes.value : Takes → String → Except Usage SwitchValue
  | help, _ | version, _ => .error .unwantedValue
  | flag, "true" => .ok (.flag true)
  | flag, "false" => .ok (.flag false)
  | flag, _ => .error .badValue
  | text, value => .ok (.text value)
  | path, value => if value.isEmpty then .error .badValue else .ok (.text value)
  | port, value => ((port? value).map SwitchValue.number).elim (.error .badNumber) .ok
  | milliseconds, value =>
    ((milliseconds? value).map SwitchValue.number).elim (.error .badNumber) .ok

/-! ### Given options -/

/-- The options given, by their long names. -/
abbrev Given :=
  List (String × SwitchValue)

namespace Given

/-- Whether a flag is on. -/
def isOn (given : Given) (long : String) : Bool :=
  given.lookup long = some (.flag true)

/-- The text of an option. -/
def text? (given : Given) (long : String) : Option String :=
  match given.lookup long with
  | some (.text value) => some value
  | _ => none

/-- The number of an option. -/
def number? (given : Given) (long : String) : Option Nat :=
  match given.lookup long with
  | some (.number value) => some value
  | _ => none

/-- Whether an option is given. -/
def has (given : Given) (long : String) : Bool :=
  (given.lookup long).isSome

end Given

end HeatingPortal.Command
