import HeatingPortal.Command.Level
import HeatingPortal.Web.Request

/-!
# Arguments

The commands of the portal and their options: `serve`, `config check` and `config resolve`.
-/

namespace HeatingPortal.Command

/-! ### Commands -/

/-- The arguments of `serve`. -/
structure ServeArguments where
  settingsPath : Option String
  host : String
  port : Nat
  bridge : Option String
  simulate : Bool
  /-- How long a call to the bridge may take, in milliseconds. -/
  bridgeTimeout : Nat
  noticeUrl : Option String
  /-- How long a notice may take, in milliseconds. -/
  noticeTimeout : Nat
  identityHeader : String
deriving DecidableEq

/-- What is to be run. -/
inductive Action where
  | serve (arguments : ServeArguments)
  | check (settingsPath : Option String)
  | resolve (settingsPath : Option String) (caller : Option String)
deriving DecidableEq

/-- A command and the options that apply to every command. -/
structure Invocation where
  human : Bool
  verbose : Bool
  logJson : Bool
  command : Action
deriving DecidableEq

/-! ### Options -/

/-- The option that asks for help. -/
def helpSwitch : Switch :=
  ⟨"help", some 'h', .help, none⟩

/-- The option that asks for the version. -/
def versionSwitch : Switch :=
  ⟨"version", some 'V', .version, none⟩

/-- The option that asks for output for humans. -/
def humanSwitch : Switch :=
  ⟨"human", some 'H', .flag, none⟩

/-- The option that asks for more log output. -/
def verboseSwitch : Switch :=
  ⟨"verbose", some 'v', .flag, none⟩

/-- The option that asks for log output in JSON. -/
def logJsonSwitch : Switch :=
  ⟨"log-json", none, .flag, some "TG_LOG_JSON"⟩

/-- The options that every level takes. -/
def everywhere : List Switch :=
  [humanSwitch, verboseSwitch, logJsonSwitch, helpSwitch]

/-- The variable that gives the path of the settings. -/
def settingsVariable : String :=
  "TG_CONFIG"

/-- The option that gives the path of the settings. -/
def settingsSwitch : Switch :=
  ⟨"config", some 'c', .path, some settingsVariable⟩

/-- The option that gives the host to listen on. -/
def hostSwitch : Switch :=
  ⟨"host", none, .text, some "TG_HOST"⟩

/-- The option that gives the port to listen on. -/
def portSwitch : Switch :=
  ⟨"port", some 'p', .port, some "TG_PORT"⟩

/-- The option that gives the address of the bridge. -/
def bridgeSwitch : Switch :=
  ⟨"gateway-url", none, .text, some "TG_GATEWAY_URL"⟩

/-- The option that asks for a simulated plant. -/
def simulateSwitch : Switch :=
  ⟨"simulate", none, .flag, none⟩

/-- The option that limits the time of a call to the bridge. -/
def bridgeTimeoutSwitch : Switch :=
  ⟨"gateway-timeout-ms", none, .milliseconds, none⟩

/-- The option that gives the address that is notified. -/
def noticeSwitch : Switch :=
  ⟨"notify-url", none, .text, some "TG_NOTIFY_URL"⟩

/-- The option that limits the time of a notice. -/
def noticeTimeoutSwitch : Switch :=
  ⟨"notify-timeout-ms", none, .milliseconds, none⟩

/-- The option that names the header of the caller. -/
def identityHeaderSwitch : Switch :=
  ⟨"identity-header", none, .text, none⟩

/-- The option that names a caller. -/
def callerSwitch : Switch :=
  ⟨"identity", some 'i', .text, none⟩

/-! ### Levels -/

/-- Refuses both a bridge and a simulated plant, and neither of them. -/
def checkPlant (given : Given) : Except Usage Unit :=
  match given.has bridgeSwitch.long, given.has simulateSwitch.long with
  | true, true => .error .conflict
  | false, false => .error .missingOption
  | _, _ => .ok ()

/-- The level of `serve`. -/
def serveLevel : Level where
  switches :=
    [settingsSwitch, hostSwitch, portSwitch, bridgeSwitch, simulateSwitch, bridgeTimeoutSwitch,
     noticeSwitch, noticeTimeoutSwitch, identityHeaderSwitch] ++ everywhere
  subcommands := []
  check := checkPlant

/-- The level of `config check`. -/
def checkLevel : Level where
  switches := settingsSwitch :: everywhere
  subcommands := []
  check _ := .ok ()

/-- The level of `config resolve`. -/
def resolveLevel : Level where
  switches := settingsSwitch :: callerSwitch :: everywhere
  subcommands := []
  check _ := .ok ()

/-- The level of `config`. -/
def configLevel : Level where
  switches := everywhere
  subcommands := ["check", "resolve", "help"]
  check _ := .ok ()

/-- The level of the whole command line. -/
def rootLevel : Level where
  switches := everywhere ++ [versionSwitch]
  subcommands := ["serve", "config", "help"]
  check _ := .ok ()

/-! ### Reading -/

/-- Help on a command: its names must be known. -/
def help {α : Type} (known : List (List String)) (names : List String) : Except Usage α :=
  .error (if known.contains names then .help else .unknownCommand)

/-- The commands below `config` on which there is help. -/
def configTopics : List (List String) :=
  [] :: configLevel.subcommands.map ([·])

/-- The commands on which there is help. -/
def topics : List (List String) :=
  [[], ["serve"], ["help"]] ++ configTopics.map ("config" :: ·)

/-- No subcommand of a level that has none. -/
def noSubcommand (_name : String) (_words : List String) : Except Usage Unit :=
  .ok ()

/-- A command and the options of its level and those above. -/
abbrev ReadCommand :=
  Action × List Given

/-- The port to listen on, unless another one is given. -/
def defaultPort : Nat :=
  8080

/-- The limit of any call, in milliseconds, unless another one is given. -/
def defaultTimeout : Nat :=
  2000

/-- The arguments of `serve` from its options. -/
def ServeArguments.ofGiven (given : Given) : ServeArguments where
  settingsPath := given.text? settingsSwitch.long
  host := (given.text? hostSwitch.long).getD "127.0.0.1"
  port := (given.number? portSwitch.long).getD defaultPort
  bridge := given.text? bridgeSwitch.long
  simulate := given.isOn simulateSwitch.long
  bridgeTimeout := (given.number? bridgeTimeoutSwitch.long).getD defaultTimeout
  noticeUrl := given.text? noticeSwitch.long
  noticeTimeout := (given.number? noticeTimeoutSwitch.long).getD defaultTimeout
  identityHeader := (given.text? identityHeaderSwitch.long).getD Web.defaultIdentityHeader

/-- Reads a level without subcommands. -/
def readLeaf (level : Level) (environment : Environment) (words : List String)
    (command : Given → Action) : Except Usage ReadCommand := do
  let (given, _) ← level.read environment noSubcommand words
  return (command given, [given])

/-- Reads a subcommand of `config`. -/
def readConfigCommand (environment : Environment) (name : String) (words : List String) :
    Except Usage ReadCommand :=
  match name with
  | "check" =>
    readLeaf checkLevel environment words fun given => .check (given.text? settingsSwitch.long)
  | "resolve" =>
    readLeaf resolveLevel environment words fun given =>
      .resolve (given.text? settingsSwitch.long) (given.text? callerSwitch.long)
  | _ => help configTopics words

/-- Reads a level that wants a subcommand. -/
def readBranch (level : Level) (environment : Environment)
    (subcommand : String → List String → Except Usage ReadCommand) (words : List String) :
    Except Usage ReadCommand := do
  match ← level.read environment subcommand words with
  | (given, some (command, below)) => return (command, given :: below)
  | (_, none) => throw .missingCommand

/-- Reads a subcommand of the whole command line. -/
def readCommand (environment : Environment) (name : String) (words : List String) :
    Except Usage ReadCommand :=
  match name with
  | "serve" =>
    readLeaf serveLevel environment words fun given => .serve (.ofGiven given)
  | "config" => readBranch configLevel environment (readConfigCommand environment) words
  | _ => help topics words

/-- Reads the words of a command line; what applies to every command may stand at any level. -/
def Invocation.read (environment : Environment) (words : List String) :
    Except Usage Invocation := do
  let (command, levels) ← readBranch rootLevel environment (readCommand environment) words
  return {
    human := levels.any (·.isOn humanSwitch.long)
    verbose := levels.any (·.isOn verboseSwitch.long)
    logJson := levels.any (·.isOn logJsonSwitch.long)
    command }

end HeatingPortal.Command
