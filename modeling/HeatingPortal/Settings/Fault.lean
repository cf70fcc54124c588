import HeatingPortal.Kdl.Document

/-!
# Faults of the settings

Why settings are refused, one case per cause, and the wording of each.
-/

namespace HeatingPortal.Settings

/-- A reason to refuse settings. -/
inductive Fault where
  /-- The text is no KDL document. -/
  | notKdl
  /-- A key occurs twice. -/
  | duplicateKey (key : String)
  /-- The version is not one integer. -/
  | versionShape
  /-- The version is no 64-bit integer. -/
  | versionRange (value : Int)
  /-- The version is not the supported one. -/
  | versionUnsupported (value : Int64)
  /-- A node has a property. -/
  | property (node : String) (name : String)
  /-- A node has arguments as well as a block. -/
  | argumentsAndBlock (key : String)
  /-- A block holds something other than a choice. -/
  | notChoice (key : String) (entry : String)
  /-- A choice is not an integer and a text. -/
  | choiceShape (key : String)
  /-- A code occurs twice in a block. -/
  | duplicateCode (key : String) (code : Int64)
  /-- The only argument is null. -/
  | nullValue (key : String)
  /-- An integer does not fit 64 bits. -/
  | integerRange (key : String) (value : Int)
  /-- Something else stands where an integer is wanted. -/
  | notInteger (key : String) (value : Kdl.Value)
  /-- A key that wants a text holds something else. -/
  | wantsText (key : String)
  /-- A key that wants choices holds something else. -/
  | wantsChoices (key : String)
  /-- A key that wants ids holds something else. -/
  | wantsIds (key : String)
  /-- A mode code does not fit the seven bits it has. -/
  | modeRange (key : String) (code : Int64)
  /-- A caller's choices are no list of choices. -/
  | resolvedNoChoices (key : String)
  /-- A caller's ids are no list of ids. -/
  | resolvedNoIds (key : String)
  /-- A file cannot be read. -/
  | unreadable (path : String) (cause : String)
  /-- The settings in a file have a fault. -/
  | inFile (path : String) (fault : Fault)
  /-- A fault that is known by its description only. -/
  | described (text : String)

/-- The shape of a choice in a block. -/
def choiceUsage : String :=
  "`choice <code> \"<label>\"`"

/-- The words before the wording of any fault. -/
def Fault.heading : String :=
  "Configuration error: "

/-- The wording of a fault. -/
def Fault.message : Fault → String
  | notKdl => "Failed to parse KDL: Failed to parse KDL document"
  | duplicateKey key => s!"duplicate key '{key}'"
  | versionShape => "'version' takes a single integer argument"
  | versionRange value => s!"version {Text.ofInteger value} out of range"
  | versionUnsupported value =>
    s!"unsupported configuration version {Text.ofInt64 value} (expected 1)"
  | property node name => s!"'{node}': properties are not supported (found '{name}')"
  | argumentsAndBlock key => s!"'{key}' cannot have both arguments and a choice block"
  | notChoice key entry => s!"'{key}': unexpected entry '{entry}', expected {choiceUsage}"
  | choiceShape key => s!"'{key}': choice entries take an integer code and a string label"
  | duplicateCode key code => s!"'{key}': duplicate choice code {Text.ofInt64 code}"
  | nullValue key => s!"'{key}' cannot be null"
  | integerRange key value => s!"'{key}': integer {Text.ofInteger value} out of range"
  | notInteger key value => s!"'{key}': expected an integer, got {value.describe}"
  | wantsText key => s!"'{key}' must be a string"
  | wantsChoices key => s!"'{key}' must be a block of {choiceUsage} entries"
  | wantsIds key => s!"'{key}' must be a list of integer ids"
  | modeRange key code => s!"'{key}': mode code {Text.ofInt64 code} outside 0..=127"
  | resolvedNoChoices key => s!"'{key}' must be a choice list"
  | resolvedNoIds key => s!"'{key}' must be an id list"
  | unreadable path cause => s!"Failed to read {path}: {cause}"
  | inFile path fault => s!"{path}: " ++ heading ++ fault.message
  | described text => text

end HeatingPortal.Settings
