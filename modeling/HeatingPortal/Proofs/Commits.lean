import HeatingPortal.Proofs.Sessions

/-!
# What a redirection has committed

A redirection is the answer to a submission all of whose calls were carried out. `Committed` says
what it left in the plant, in terms of what was submitted: the system mode and the suppress flag,
or the offset and the override of a device. Only the change of the system mode is published.
-/

namespace HeatingPortal

/-! ### Devices -/

namespace Plant

/-- A device after the calls of a submission: its offset is set, and its override as planned. -/
def Device.submitted (device : Device) (offset : Number.Binary64) : Option OverridePlan → Device
  | none => { device with offset }
  | some (.set mode) => { device with offset, overrideMode := some mode }
  | some .clear => { device with offset, overrideMode := none }

variable {plant middle after : Simulated} {entity : Entity} {device : Device}
  {offset : Number.Binary64} {call : OverridePlan} {request : OverrideRequest}

lemma offset_submitted (device : Device) (offset : Number.Binary64)
    (plan : Option OverridePlan) :
    (device.submitted offset plan).offset = offset := by
  rcases plan with _ | _ | _ <;> rfl

lemma exists_device_of_setOffset (h : plant.Accepts (.setOffset entity offset) after) :
    ∃ device, plant.device? entity = some device ∧
      after.device? entity = some (device.submitted offset none) := by
  obtain ⟨-, device, hdevice, rfl⟩ := Simulated.accepts_setOffset_iff.mp h
  exact ⟨device, hdevice, if_pos rfl⟩

lemma device?_of_override (hmiddle : middle.device? entity = some (device.submitted offset none))
    (h : middle.Accepts (call.operation entity) after) :
    after.device? entity = some (device.submitted offset (some call)) := by
  cases call with
  | set mode =>
    obtain ⟨-, -, found, hfound, rfl⟩ := Simulated.accepts_setOverride_iff.mp h
    cases hmiddle.symm.trans hfound
    exact if_pos rfl
  | clear =>
    obtain ⟨-, found, hfound, rfl⟩ := Simulated.accepts_clearOverride_iff.mp h
    cases hmiddle.symm.trans hfound
    exact if_pos rfl

/-- Whether or not the standing mode was read, the plan is the one that reconciles it. -/
lemma Planned.eq_reconcile {asked : Option OverrideRequest}
    (h : Planned plant entity asked (some call)) (hdevice : plant.device? entity = some device) :
    some call = asked.map (reconcile device.standingMode) := by
  cases h with
  | dropped hwanted =>
    rw [Option.map_some, reconcile, if_neg]
    simp [hwanted]
  | reconciled hwanted hfound =>
    cases hdevice.symm.trans hfound
    rfl

lemma currentMode_submitted :
    (device.submitted offset (some (reconcile device.standingMode request))).currentMode =
      if request.wanted then request.mode else device.standingMode := by
  unfold reconcile
  split
  · next h => simp [Device.submitted, Device.currentMode, h.1]
  · next h =>
    simp only [Device.submitted, Device.currentMode, Option.getD_none]
    split
    · next hwanted => exact (not_not.mp fun hmode => h ⟨hwanted, hmode⟩).symm
    · rfl

lemma isSome_overrideMode_submitted :
    (device.submitted offset
      (some (reconcile device.standingMode request))).overrideMode.isSome =
      (request.wanted && decide (request.mode ≠ device.standingMode)) := by
  unfold reconcile
  split
  · next h => simp [Device.submitted, h.1, h.2]
  · next h => simpa [Device.submitted] using h

end Plant

/-! ### Redirections -/

namespace Web

open Caller Form Plant

variable {portal : Portal} {request : Request} {plant after : Simulated} {outcome : Outcome}
  {writes : List Performed}

/-- What a redirected request left in the plant, with the response and what is published. -/
inductive Committed (portal : Portal) (request : Request) (plant after : Simulated) :
    Response → Option UInt8 → Prop
  | mode {change : SystemModeChange} (submission : ModeSubmission portal request change)
      (hprimary : after.primary = change.primary)
      (hsuppress : after.suppress = change.suppress) :
      Committed portal request plant after (.redirect "/") (some change.composite)
  | entity {context : EntityContext} {entity : Entity} {values : Values}
      {offset : Number.Binary64} {device : Device}
      (submission : EntitySubmission portal request context entity values)
      (hoffset : values.decimal? offsetKey = some offset)
      (hdevice : plant.device? entity = some device)
      (hafter : after.device? entity = some (device.submitted offset
        ((overrideRequest? values).map (reconcile device.standingMode)))) :
      Committed portal request plant after (.redirect (entityLocation entity)) none

lemma Effect.committed (h : Effect portal request plant outcome after writes)
    (hstatus : outcome.response.status = 303) :
    Committed portal request plant after outcome.response outcome.publish := by
  cases h with
  | nothing hquiet => exact absurd hstatus hquiet.status
  | modeHalfSet | entityHalfSet =>
    have hstatus : 500 = 303 := hstatus
    contradiction
  | modeSet submission hmode hflag =>
    obtain ⟨-, -, rfl⟩ := Simulated.accepts_setSystemMode_iff.mp hmode
    obtain ⟨-, rfl⟩ := Simulated.accepts_setSuppressFlag_iff.mp hflag
    exact .mode submission rfl rfl
  | offsetSet submission hoffset hnone hset =>
    obtain ⟨device, hdevice, hafter⟩ := exists_device_of_setOffset hset
    refine .entity submission hoffset hdevice ?_
    rw [hnone]
    exact hafter
  | entitySet submission hoffset hplanned hset hcall =>
    obtain ⟨device, hdevice, hmiddle⟩ := exists_device_of_setOffset hset
    refine .entity submission hoffset hdevice ?_
    rw [← hplanned.eq_reconcile hdevice]
    exact device?_of_override hmiddle hcall

/-- Nothing is published unless the request was redirected. -/
lemma Effect.publish_eq_none (h : Effect portal request plant outcome after writes)
    (hstatus : outcome.response.status ≠ 303) : outcome.publish = none := by
  cases h with
  | nothing hquiet => exact hquiet.publish
  | modeHalfSet | entityHalfSet => rfl
  | modeSet | offsetSet | entitySet => exact absurd rfl hstatus

lemma World.effect (portal : Portal) (request : Request) (world : World) :
    Effect portal request world.plant (world.outcome portal request)
      (world.serve portal request).2.plant (world.writes portal request) := by
  rw [World.plant_serve]
  exact serve_effect portal request world.plant

lemma World.committed {world : World} (hstatus : (world.serve portal request).1.1.status = 303) :
    Committed portal request world.plant (world.serve portal request).2.plant
      (world.serve portal request).1.1 (world.outcome portal request).publish :=
  (world.effect portal request).committed hstatus

end Web

end HeatingPortal
