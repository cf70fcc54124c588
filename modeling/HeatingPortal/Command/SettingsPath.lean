import HeatingPortal.Command.Arguments
import HeatingPortal.Web.Page

/-!
# The path of the settings

A path that is given wins. By default the settings lie in the user's configuration directory.
-/

namespace HeatingPortal.Command

/-- A path below a directory. -/
def joinPath (directory : String) (name : String) : String :=
  if directory.endsWith "/" then directory ++ name else directory ++ "/" ++ name

/-- The value of a variable that is set and not empty. -/
def nonempty? (environment : Environment) (name : String) : Option String :=
  (environment name).filter (!·.isEmpty)

/-- The directory of the user's configurations: the one that is set, if it is absolute, or else
one in the user's home. -/
def configurations? (environment : Environment) (home : Option String) : Option String :=
  match (environment "XDG_CONFIG_HOME").filter (·.startsWith "/") with
  | some directory => some directory
  | none => ((nonempty? environment "HOME").or home).map (joinPath · ".config")

/-- The path of the settings when none is given. The home is that of the user's account, which
counts where the environment names none. -/
def defaultPath? (environment : Environment) (home : Option String) : Option String :=
  (nonempty? environment settingsVariable).or
    ((configurations? environment home).map fun directory =>
      joinPath (joinPath directory product) "config.kdl")

/-- The path of the settings. -/
def choosePath (environment : Environment) (home : Option String) (given : Option String) :
    Except Error String :=
  (given.or (defaultPath? environment home)).elim (.error (.input .noSettingsFile)) .ok

end HeatingPortal.Command
