import HeatingPortal.Command.Conclusion

/-!
# The command line

Gathers the environment and the file that a command reads, and writes how it concludes.
-/

namespace HeatingPortal.Command

/-- The names of the variables on which a command line depends. -/
def environmentNames : List String :=
  ["TG_LOG_JSON", settingsVariable, "TG_HOST", "TG_PORT", "TG_GATEWAY_URL", "TG_NOTIFY_URL",
   "XDG_CONFIG_HOME", "HOME"]

/-- Why a file cannot be read. -/
def causeOf (error : IO.Error) : String :=
  match error with
  | .noFileOrDirectory .. => "No such file or directory (os error 2)"
  | .inappropriateType .. => "Is a directory (os error 21)"
  | .permissionDenied .. => "Permission denied (os error 13)"
  | error => toString error

/-- Reads the text at a path. -/
def readText (path : String) : IO (Except String String) := do
  try
    let bytes ← IO.FS.readBinFile path
    return match Text.decode? bytes.toList with
      | some text => .ok text
      | none => .error "stream did not contain valid UTF-8"
  catch error => return .error (causeOf error)

/-- The path of the settings that a command line reads, if it reads any. -/
def settingsPath? (environment : Environment) (words : List String) : Option String :=
  match Invocation.read environment words with
  | .error _ => none
  | .ok invocation =>
    let given := match invocation.command with
      | .serve arguments => arguments.settingsPath
      | .check path => path
      | .resolve path _ => path
    (choosePath environment none given).toOption

/-- Gathers the environment and the settings that a command line reads. -/
def gather (words : List String) : IO Surroundings := do
  let values ← environmentNames.mapM fun name => return (name, ← IO.getEnv name)
  let environment := fun name => (values.lookup name).join
  let text ← match settingsPath? environment words with
    | some path => readText path
    | none => pure (.error "")
  return ⟨environment, none, fun _ => text⟩

end HeatingPortal.Command

open HeatingPortal.Command in
/-- Runs the command line. -/
def main (words : List String) : IO UInt32 := do
  match conclude (← gather words) words with
  | .ended exitCode output errors =>
    IO.print output
    IO.eprint errors
    return exitCode.toUInt32
  | .listening service =>
    IO.eprintln s!"no network to serve {service.host} on"
    return 1
