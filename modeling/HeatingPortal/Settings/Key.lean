/-!
# Keys of the settings

Most settings come in pairs: one key for the configured administrator and one for everybody else.
Other keys stand alone.
-/

namespace HeatingPortal.Settings

/-- The key that names the administrator. -/
def adminName : String :=
  "adminName"

/-- The key of the title that the portal shows. -/
def appTitle : String :=
  "appTitle"

/-- The key of the format version. -/
def versionKey : String :=
  "version"

/-- The two keys of a setting. -/
structure KeyPair where
  privileged : String
  standard : String
deriving DecidableEq

namespace KeyPair

/-- The keys of a pair, the privileged one first. -/
def keys (pair : KeyPair) : List String :=
  [pair.privileged, pair.standard]

/-- The system modes on offer. -/
def modes : KeyPair :=
  ⟨"privilegedModes", "standardModes"⟩

/-- The visible heating circuits. -/
def circuits : KeyPair :=
  ⟨"privilegedCircuits", "standardCircuits"⟩

/-- The run modes on offer for a circuit. -/
def circuitRunModes : KeyPair :=
  ⟨"privilegedCircuitRunModes", "standardCircuitRunModes"⟩

/-- The visible hot-water tanks. -/
def tanks : KeyPair :=
  ⟨"privilegedTanks", "standardTanks"⟩

/-- The run modes on offer for a tank. -/
def tankRunModes : KeyPair :=
  ⟨"privilegedTankRunModes", "standardTankRunModes"⟩

/-- The visible outdoor sensors. -/
def outdoorSensors : KeyPair :=
  ⟨"privilegedOutdoorSensors", "standardOutdoorSensors"⟩

/-- The visible indoor sensors. -/
def indoorSensors : KeyPair :=
  ⟨"privilegedIndoorSensors", "standardIndoorSensors"⟩

/-- The pairs that hold choices. -/
def choicePairs : List KeyPair :=
  [modes, circuitRunModes, tankRunModes]

/-- The pairs that hold ids. -/
def idPairs : List KeyPair :=
  [circuits, tanks, outdoorSensors, indoorSensors]

/-- All pairs, in the order in which they are reported. -/
def all : List KeyPair :=
  [modes, circuits, circuitRunModes, tanks, tankRunModes, outdoorSensors, indoorSensors]

end KeyPair

/-- The keys that mean something, apart from the version. -/
def knownKeys : List String :=
  [adminName, appTitle] ++ (KeyPair.choicePairs ++ KeyPair.idPairs).flatMap KeyPair.keys

end HeatingPortal.Settings
