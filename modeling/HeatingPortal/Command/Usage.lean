/-!
# Usage

Why the words of a command line name nothing to run: help or the version was asked for, or the
words do not fit.
-/

namespace HeatingPortal.Command

/-- Why nothing is run. -/
inductive Usage where
  /-- Help was asked for. -/
  | help
  /-- The version was asked for. -/
  | version
  /-- Nothing was given at all where a command is wanted. -/
  | nothingGiven
  /-- A command is wanted, but none was given. -/
  | missingCommand
  /-- A word is no command. -/
  | unknownCommand
  /-- A word or an option has no meaning. -/
  | unknownWord
  /-- An option was given twice, or along with one that excludes it. -/
  | conflict
  /-- An option is wanted, but was not given. -/
  | missingOption
  /-- The value of an option is missing or none of those it may have. -/
  | badValue
  /-- The value of an option is no number in its range. -/
  | badNumber
  /-- A value was given to an option that takes none. -/
  | unwantedValue
deriving DecidableEq

/-- The exit code when nothing is run: asking for help or the version is no mistake. -/
def Usage.exitCode : Usage → UInt8
  | help | version => 0
  | _ => 2

end HeatingPortal.Command
