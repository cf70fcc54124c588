import HeatingPortal.Command.Report
import HeatingPortal.Command.Service
import HeatingPortal.Command.SettingsPath
import HeatingPortal.Settings.Load

/-!
# Running a command

A command line is read, and its command is run on files that are given as a function.
It concludes with an exit code and the texts for the two output streams, or with a
service that is to listen.
-/

namespace HeatingPortal.Command

open Caller Text

/-- The text at a path, or why it cannot be read. -/
abbrev Files :=
  String → Except String String

/-- All that a command line depends on, apart from its words. -/
structure Surroundings where
  environment : Environment
  /-- The home of the user's account. -/
  home : Option String
  files : Files

namespace Surroundings

/-- Loads the settings at the chosen path. -/
def load (surroundings : Surroundings) (given : Option String) :
    Except Error (String × Settings) := do
  let path ← choosePath surroundings.environment surroundings.home given
  let settings ← (Settings.ofFile path (surroundings.files path)).mapError Error.settings
  return (path, settings)

/-- The report of `config check`. -/
def check (surroundings : Surroundings) (given : Option String) : Except Error Report := do
  let (path, settings) ← surroundings.load given
  return checked path settings

/-- The report of `config resolve`. -/
def resolve (surroundings : Surroundings) (given : Option String) (caller : Option String) :
    Except Error Report := do
  let (_, settings) ← surroundings.load given
  return resolved settings (caller.elim .anonymous .ofName)

/-- The service of `serve`. -/
def serve (surroundings : Surroundings) (arguments : ServeArguments) : Except Error Service := do
  let (_, settings) ← surroundings.load arguments.settingsPath
  Service.prepare arguments settings

end Surroundings

/-- How a command line concludes. -/
inductive Conclusion where
  /-- It ends with an exit code and the texts for standard output and standard error. -/
  | ended (exitCode : UInt8) (output : String) (errors : String)
  /-- A service is to listen. -/
  | listening (service : Service)

/-- A line of output. -/
def line (text : String) : String :=
  text ++ "\n"

/-- The end of a command that succeeded. -/
def succeeded (human : Bool) (report : Report) : Conclusion :=
  .ended 0 (line (report.text human)) ""

/-- The end of a command that failed. -/
def failed (human : Bool) (error : Error) : Conclusion :=
  .ended 1 "" <| line <|
    if human then "Error: " ++ error.message
    else (Json.object [("error", .string error.message)]).write

/-- The end when nothing is run. -/
def Usage.conclusion (usage : Usage) : Conclusion :=
  match usage with
  | version => .ended 0 (line (product ++ " " ++ productVersion)) ""
  | usage => .ended usage.exitCode "" ""

/-- The end of a command that reports. -/
def concludeReport (human : Bool) : Except Error Report → Conclusion
  | .ok report => succeeded human report
  | .error error => failed human error

/-- Prepares to listen. -/
def concludeService (human : Bool) (service : Except Error Service) : Conclusion :=
  match service.bind fun service => (requireAddress service.host).map fun _ => service with
  | .ok service => .listening service
  | .error error => failed human error

/-- Runs a command. -/
def Invocation.run (surroundings : Surroundings) (invocation : Invocation) : Conclusion :=
  match invocation.command with
  | .serve arguments => concludeService invocation.human (surroundings.serve arguments)
  | .check path => concludeReport invocation.human (surroundings.check path)
  | .resolve path caller => concludeReport invocation.human (surroundings.resolve path caller)

/-- Reads and runs a command line. -/
def conclude (surroundings : Surroundings) (words : List String) : Conclusion :=
  match Invocation.read surroundings.environment words with
  | .ok invocation => invocation.run surroundings
  | .error usage => usage.conclusion

end HeatingPortal.Command
