import HeatingPortal.Proofs.LoadedSettings
import HeatingPortal.Proofs.Paths
import HeatingPortal.Proofs.WorkingPlant

/-!
# Sensors that cannot be read

The page of the system mode has an entry for every sensor that its caller may see, in the order
of the settings. A sensor that cannot be read leaves its entry empty and is reported to the
operator, and nothing else on the page depends on it.
-/

namespace HeatingPortal

open Caller Form Plant Settings

namespace Plant.Simulated

/-- The plant with another reading of a sensor, or without one. -/
def setReading (plant : Simulated) (id : Int64) (value? : Option Number.Binary64) : Simulated :=
  { plant with temperature? := fun other =>
      if other = id then value? else plant.temperature? other }

end Plant.Simulated

namespace Web

variable {settings : Settings} {caller : Identity}

/-- The entries of a sensor with another temperature, or without one. -/
def Reading.replace (id : Int64) (value? : Option Number.Binary64) (reading : Reading) :
    Reading :=
  if reading.sensor.id = id then { reading with temperature := value? } else reading

lemma readingIn_setReading (plant : Simulated) (id : Int64) (value? : Option Number.Binary64)
    (sensor : Sensor) :
    readingIn (plant.setReading id value?) sensor =
      (readingIn plant sensor).replace id
        (if plant.fails "temperature" then none else value?) := by
  by_cases hid : sensor.id = id <;> simp [readingIn, Simulated.setReading, Reading.replace, hid]

lemma sensors_of_resolveIds {outdoor indoor : Option (List Int64)}
    (houtdoor : resolveIds settings caller .outdoorSensors = .ok outdoor)
    (hindoor : resolveIds settings caller .indoorSensors = .ok indoor) :
    sensors settings caller = .ok ((outdoor.getD []).map (Sensor.mk .outdoor) ++
      (indoor.getD []).map (Sensor.mk .indoor)) := by
  rw [sensors, sensorsAt_of_resolveIds houtdoor, sensorsAt_of_resolveIds hindoor]
  rfl

end Web

end HeatingPortal
