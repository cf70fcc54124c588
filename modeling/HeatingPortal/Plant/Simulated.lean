import HeatingPortal.Plant.Program

/-!
# A simulated plant

The plant in memory: devices with a standing mode and perhaps an override, sensors, the system
mode and the suppress flag. It refuses codes that a real plant refuses, records the writes it
carried out, and can be told to fail at any operation.
-/

namespace HeatingPortal.Plant

open Number

/-- The state of an entity. -/
structure Device where
  name : String
  standingMode : Int64
  overrideMode : Option Int64
  offset : Binary64
  setpoints : Setpoints
  hasAmbientSensor : Bool
deriving DecidableEq

/-- The mode in effect: the override, or else the standing mode. -/
def Device.currentMode (device : Device) : Int64 :=
  device.overrideMode.getD device.standingMode

/-- The state of a simulated plant. -/
structure Simulated where
  device? : Entity → Option Device
  primary : UInt8
  suppress : Bool
  temperature? : Int64 → Option Binary64
  /-- The names of the operations that are made to fail. -/
  fails : String → Bool
  /-- The writes carried out, oldest first. -/
  calls : List Operation

namespace Simulated

/-! ### Answers -/

/-- The greatest run mode that can be set; none below zero can. -/
def greatestRunMode : Int :=
  6

/-- The greatest primary system mode that can be set. -/
def greatestSystemMode : UInt8 :=
  6

/-- The answer of an operation that may be made to fail. -/
def guarded (plant : Simulated) (operation : Operation) (answer : Answer operation) :
    Answer operation :=
  if plant.fails operation.label then .error (operation.failure .unavailable "injected failure")
  else answer

/-- Reads from a device. -/
def read (plant : Simulated) (operation : Operation) (entity : Entity)
    (f : Device → operation.Reply) : Answer operation × Simulated :=
  (plant.guarded operation <|
    match plant.device? entity with
    | some device => .ok (f device)
    | none => .error (operation.failure .rejected "no such entity"), plant)

/-- The plant with another state of one device. -/
def setDevice (plant : Simulated) (entity : Entity) (device : Device) : Simulated :=
  { plant with
    device? := fun other => if other = entity then some device else plant.device? other }

@[simp]
theorem device?_setDevice (plant : Simulated) (entity other : Entity) (device : Device) :
    (plant.setDevice entity device).device? other =
      if other = entity then some device else plant.device? other := rfl

/-- The plant after a write, which is recorded. -/
def record (plant : Simulated) (operation : Operation) : Simulated :=
  { plant with calls := plant.calls ++ [operation] }

/-- A write that succeeds changes the plant and is recorded; one that fails does neither. -/
def commit (plant : Simulated) (operation : Operation) (answer : Answer operation)
    (changed : Simulated) : Answer operation × Simulated :=
  match plant.guarded operation answer with
  | .ok reply => (.ok reply, changed.record operation)
  | .error failure => (.error failure, plant)

/-- Changes a device that may refuse the change for a reason. -/
def write (plant : Simulated) (operation : Operation) (reply : operation.Reply) (entity : Entity)
    (refusal : Option String) (change : Device → Device) : Answer operation × Simulated :=
  match plant.device? entity with
  | none => plant.commit operation (.error (operation.failure .rejected "no such entity")) plant
  | some device =>
    match refusal with
    | some reason => plant.commit operation (.error (operation.failure .rejected reason)) plant
    | none => plant.commit operation (.ok reply) (plant.setDevice entity (change device))

/-- Why a run mode cannot be set, if so. -/
def runModeRefusal (mode : Int64) : Option String :=
  if 0 ≤ mode.toInt ∧ mode.toInt ≤ greatestRunMode then none
  else some ("invalid run mode " ++ Text.ofInt64 mode)

/-- Why a primary system mode cannot be set, if so. -/
def systemModeRefusal (primary : UInt8) : Option String :=
  if primary ≤ greatestSystemMode then none
  else some ("invalid system mode " ++ Text.ofInteger primary.toNat)

/-- Answers a call. -/
def answer (plant : Simulated) (operation : Operation) : Answer operation × Simulated :=
  match operation with
  | .name e => plant.read (.name e) e (·.name)
  | .standingMode e => plant.read (.standingMode e) e (·.standingMode)
  | .currentMode e => plant.read (.currentMode e) e (·.currentMode)
  | .overrideActive e => plant.read (.overrideActive e) e (·.overrideMode.isSome)
  | .setOverride e mode =>
    plant.write (.setOverride e mode) () e (runModeRefusal mode)
      fun device => { device with overrideMode := some mode }
  | .clearOverride e =>
    plant.write (.clearOverride e) () e none fun device => { device with overrideMode := none }
  | .offset e => plant.read (.offset e) e (·.offset)
  | .setOffset e value =>
    plant.write (.setOffset e value) () e none fun device => { device with offset := value }
  | .setpoints e => plant.read (.setpoints e) e (·.setpoints)
  | .hasAmbientSensor e => plant.read (.hasAmbientSensor e) e (·.hasAmbientSensor)
  | .systemMode => (plant.guarded .systemMode (.ok plant.primary), plant)
  | .setSystemMode primary =>
    match systemModeRefusal primary with
    | some reason =>
      plant.commit (.setSystemMode primary)
        (.error (Operation.failure (.setSystemMode primary) .rejected reason)) plant
    | none => plant.commit (.setSystemMode primary) (.ok ()) { plant with primary }
  | .suppressFlag => (plant.guarded .suppressFlag (.ok plant.suppress), plant)
  | .setSuppressFlag suppress =>
    plant.commit (.setSuppressFlag suppress) (.ok ()) { plant with suppress }
  | .temperature sensor =>
    (plant.guarded (.temperature sensor) <|
      match plant.temperature? sensor with
      | some value => .ok value
      | none =>
        .error (Operation.failure (.temperature sensor) .rejected "no such sensor"), plant)

/-- A call that only reads leaves the plant as it is. -/
theorem answer_snd_of_read (plant : Simulated) {operation : Operation}
    (h : operation.isWrite = false) : (plant.answer operation).2 = plant := by
  cases operation with
  | setOverride | clearOverride | setOffset | setSystemMode | setSuppressFlag => cases h
  | _ => rfl

/-- Runs a program on a simulated plant. -/
def run {α : Type} (program : Program α) (plant : Simulated) : α × Simulated :=
  program.run answer plant

theorem run_bind {α β : Type} (program : Program α) (f : α → Program β) (plant : Simulated) :
    run (program.bind f) plant = run (f (run program plant).1) (run program plant).2 :=
  Program.run_bind answer program f plant

/-! ### Set-up -/

/-- A plant without entities or sensors, in system mode zero. -/
def empty : Simulated where
  device? _ := none
  primary := 0
  suppress := false
  temperature? _ := none
  fails _ := false
  calls := []

/-- A temperature in tenths of a degree. -/
def tenths (n : Nat) : Binary64 :=
  .ofDecimal false n (-1)

/-- The plant with a new entity that has no override. -/
def addEntity (plant : Simulated) (entity : Entity) (name : String) (standingMode : Int64) :
    Simulated :=
  plant.setDevice entity
    { name, standingMode
      overrideMode := none
      offset := tenths 0
      setpoints := ⟨tenths 200, tenths 170, tenths 70, tenths 200, tenths 195⟩
      hasAmbientSensor := entity.kind = .circuit }

/-- The plant with the reading of a sensor. -/
def addTemperature (plant : Simulated) (sensor : Int64) (value : Binary64) : Simulated :=
  { plant with temperature? := fun other =>
      if other = sensor then some value else plant.temperature? other }

/-- The plant in another system mode. -/
def withSystemMode (plant : Simulated) (primary : UInt8) (suppress : Bool) : Simulated :=
  { plant with primary, suppress }

/-- The plant with a change to one device, if it is there. -/
def modify (plant : Simulated) (entity : Entity) (change : Device → Device) : Simulated :=
  match plant.device? entity with
  | some device => plant.setDevice entity (change device)
  | none => plant

/-- A small plant: two circuits, a tank, an outdoor and an indoor sensor. -/
def demo : Simulated :=
  empty.addEntity ⟨.circuit, 0⟩ "Ground floor" 1
    |>.addEntity ⟨.circuit, 1⟩ "First floor" 1
    |>.addEntity ⟨.tank, 0⟩ "Hot water" 1
    |>.addTemperature 0 (tenths 75)
    |>.addTemperature 1 (tenths 205)
    |>.withSystemMode 1 false
    |>.modify ⟨.tank, 0⟩ fun device =>
      { device with
        hasAmbientSensor := false
        setpoints := ⟨tenths 550, tenths 450, tenths 100, tenths 550, tenths 520⟩ }

/-! ### Interventions -/

/-- Makes an operation fail from now on. -/
def failOn (plant : Simulated) (label : String) : Simulated :=
  { plant with fails := fun other => other = label || plant.fails other }

/-- Lets an operation succeed again. -/
def recover (plant : Simulated) (label : String) : Simulated :=
  { plant with fails := fun other => other ≠ label && plant.fails other }

/-- Changes the standing mode of an entity, as its schedule would. -/
def setStandingMode (plant : Simulated) (entity : Entity) (mode : Int64) : Simulated :=
  plant.modify entity fun device => { device with standingMode := mode }

/-- Forgets the recorded writes. -/
def clearCalls (plant : Simulated) : Simulated :=
  { plant with calls := [] }

end Simulated

end HeatingPortal.Plant
