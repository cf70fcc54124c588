import HeatingPortal.Settings.Fault
import HeatingPortal.Settings.Key
import HeatingPortal.Settings.Value

/-!
# Settings

The settings are a format version and values by key, kept in the order of their keys.
They are checked as a whole: the known keys must hold what they are for, and unknown
keys are only reported.
-/

namespace HeatingPortal

open Settings

/-- The settings of a portal. -/
structure Settings where
  version : Int64
  /-- The values, in the order of their keys. -/
  entries : List (String × Settings.Value)

namespace Settings

/-- The only format version. -/
def supportedVersion : Int64 :=
  1

/-- Settings without any key. -/
def empty : Settings :=
  ⟨supportedVersion, []⟩

/-- Puts a value into its place among ordered keys; an equal key loses its value. -/
def insertEntry (key : String) (value : Value) : List (String × Value) → List (String × Value)
  | [] => [(key, value)]
  | (other, held) :: rest =>
    if key = other then (key, value) :: rest
    else if key < other then (key, value) :: (other, held) :: rest
    else (other, held) :: insertEntry key value rest

/-- The settings with one key set. -/
def insert (settings : Settings) (key : String) (value : Value) : Settings :=
  { settings with entries := insertEntry key value settings.entries }

/-- The value of a key. -/
def get? (settings : Settings) (key : String) : Option Value :=
  settings.entries.lookup key

/-- The text of a key that holds one. -/
def text? (settings : Settings) (key : String) : Option String :=
  (settings.get? key).bind Value.text?

/-- The text of a key that holds one, unless it is empty. -/
def nonemptyText? (settings : Settings) (key : String) : Option String :=
  (settings.text? key).filter (!·.isEmpty)

/-- The number of keys. -/
def size (settings : Settings) : Nat :=
  settings.entries.length

/-- The keys in order. -/
def keys (settings : Settings) : List String :=
  settings.entries.map (·.1)

theorem lookup_cons_ne {key other : String} (value : Value) (entries : List (String × Value))
    (h : other ≠ key) : ((key, value) :: entries).lookup other = entries.lookup other := by
  rw [List.lookup_cons, beq_eq_false_iff_ne.2 h]

theorem lookup_insertEntry_self (key : String) (value : Value)
    (entries : List (String × Value)) :
    (insertEntry key value entries).lookup key = some value := by
  induction entries with
  | nil => simp [insertEntry]
  | cons entry rest ih =>
    rw [insertEntry]
    split
    · simp
    · next different =>
      split
      · simp
      · rw [lookup_cons_ne _ _ different, ih]

theorem lookup_insertEntry_ne {key other : String} (value : Value)
    (entries : List (String × Value)) (h : other ≠ key) :
    (insertEntry key value entries).lookup other = entries.lookup other := by
  induction entries with
  | nil => exact lookup_cons_ne value [] h
  | cons entry rest ih =>
    rw [insertEntry]
    split
    · next same => rw [lookup_cons_ne _ _ h, lookup_cons_ne _ _ (same ▸ h)]
    · split
      · exact lookup_cons_ne value _ h
      · rw [List.lookup_cons, List.lookup_cons, ih]

@[simp]
theorem get?_insert_self (settings : Settings) (key : String) (value : Value) :
    (settings.insert key value).get? key = some value :=
  lookup_insertEntry_self key value settings.entries

theorem get?_insert_ne (settings : Settings) {key other : String} (value : Value)
    (h : other ≠ key) :
    (settings.insert key value).get? other = settings.get? other :=
  lookup_insertEntry_ne value settings.entries h

/-! ### Checking -/

/-- A mode code shares a byte with the suppress flag, so it has seven bits. -/
def isModeCode (code : Int64) : Bool :=
  0 ≤ code.toInt && code.toInt ≤ 127

/-- Refuses a key whose value does not fit. -/
def require (settings : Settings) (fits : Value → Bool) (fault : String → Fault) (key : String) :
    Except Fault Unit :=
  match settings.get? key with
  | some value => if fits value then .ok () else .error (fault key)
  | none => .ok ()

/-- Refuses the first mode code of a key that does not fit. -/
def requireModeCodes (settings : Settings) (key : String) : Except Fault Unit :=
  match ((settings.get? key).bind Value.choices?).getD [] |>.find? (!isModeCode ·.code) with
  | some choice => .error (.modeRange key choice.code)
  | none => .ok ()

/-- Refuses settings of another version and known keys that hold what they are not for. -/
def check (settings : Settings) : Except Fault Unit := do
  if settings.version ≠ supportedVersion then
    throw (.versionUnsupported settings.version)
  [adminName, appTitle].forM (settings.require (·.text?.isSome) .wantsText)
  (KeyPair.choicePairs.flatMap KeyPair.keys).forM
    (settings.require (·.choices?.isSome) .wantsChoices)
  KeyPair.modes.keys.forM settings.requireModeCodes
  (KeyPair.idPairs.flatMap KeyPair.keys).forM (settings.require (·.ids?.isSome) .wantsIds)

/-- The keys that mean nothing, in order. -/
def unknownKeys (settings : Settings) : List String :=
  settings.keys.filter (!knownKeys.contains ·)

end Settings

end HeatingPortal
