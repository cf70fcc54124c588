import HeatingPortal.Proofs.Authorization

/-!
# The override indicator

An override that requests set never shows the mode that holds anyway: as long as nobody else
writes and no schedule changes a standing mode, an override is active exactly where the current
mode is not the standing one.
-/

namespace HeatingPortal

open Plant Web

/-! ### Devices -/

namespace Plant

/-- A device whose override, if any, is a mode that can be set and not the standing one. -/
def Device.Agrees (device : Device) : Prop :=
  ∀ mode, device.overrideMode = some mode →
    (0 ≤ mode.toInt ∧ mode.toInt ≤ Simulated.greatestRunMode) ∧ mode ≠ device.standingMode

lemma Device.Agrees.isSome_iff {device : Device} (h : device.Agrees) :
    device.overrideMode.isSome = true ↔ device.currentMode ≠ device.standingMode := by
  unfold Device.currentMode
  cases hmode : device.overrideMode with
  | none => simp
  | some mode => simpa using (h mode hmode).2

namespace Simulated

variable {plant after : Simulated} {entity : Entity} {device : Device}

/-- A plant all of whose devices agree. -/
def Agrees (plant : Simulated) : Prop :=
  ∀ entity device, plant.device? entity = some device → device.Agrees

lemma Agrees.setDevice (h : plant.Agrees) (hdevice : device.Agrees) :
    (plant.setDevice entity device).Agrees := by
  intro other found hfound
  rw [device?_setDevice] at hfound
  split at hfound
  · cases hfound
    exact hdevice
  · exact h other found hfound

end Simulated

end Plant

/-! ### Events -/

namespace Web

variable {portal : Portal} {request : Request} {plant after : Simulated} {operation : Operation}

/-- A permitted write leaves the devices in agreement. -/
lemma agrees_of_permitted (hpermitted : Permitted portal request plant operation)
    (haccepts : plant.Accepts operation after) (h : plant.Agrees) : after.Agrees := by
  cases operation with
  | setOffset entity offset =>
    obtain ⟨-, device, hdevice, rfl⟩ := Simulated.accepts_setOffset_iff.mp haccepts
    have hchanged : { device with offset }.Agrees := h entity device hdevice
    exact h.setDevice hchanged
  | setOverride entity mode =>
    obtain ⟨-, hrange, device, hdevice, rfl⟩ := Simulated.accepts_setOverride_iff.mp haccepts
    -- The plant checks the range of the mode, and only the permission that it is
    -- not the standing one.
    obtain ⟨-, -, found, hfound, hmode⟩ := hpermitted
    obtain rfl : device = found := Option.some.inj (hdevice.symm.trans hfound)
    have hchanged : { device with overrideMode := some mode }.Agrees := by
      rintro _ ⟨rfl⟩
      exact ⟨hrange, hmode⟩
    exact h.setDevice hchanged
  | clearOverride entity =>
    obtain ⟨-, device, -, rfl⟩ := Simulated.accepts_clearOverride_iff.mp haccepts
    have hchanged : { device with overrideMode := none }.Agrees := nofun
    exact h.setDevice hchanged
  | setSystemMode primary =>
    obtain ⟨-, -, rfl⟩ := Simulated.accepts_setSystemMode_iff.mp haccepts
    exact h
  | setSuppressFlag suppress =>
    obtain ⟨-, rfl⟩ := Simulated.accepts_setSuppressFlag_iff.mp haccepts
    exact h
  | _ => exact hpermitted.elim

/-- An event that neither calls for a write directly nor changes a standing mode. -/
def Event.IsOrdinary : Event → Prop
  | .call operation => operation.isWrite = false
  | .standingMode _ _ => False
  | _ => True

lemma agrees_after {event : Event} {world : World} (hordinary : event.IsOrdinary)
    (h : world.plant.Agrees) : (world.after portal event).plant.Agrees := by
  cases event with
  | request request =>
    rw [World.after, World.plant_serve]
    exact Simulated.run_induction agrees_of_permitted
      (authorized portal request world).permitted h
  | call operation =>
    have hsame := Simulated.answer_snd_of_read world.plant hordinary
    have hafter : (world.after portal (.call operation)).plant =
        (world.plant.answer operation).2 :=
      rfl
    rwa [hafter, hsame]
  | standingMode => exact hordinary.elim
  | failOn | recover | clearCalls | sinkFailing => exact h

/-- Without overrides at the start the indicator never disagrees with the mode in effect. -/
theorem indicator_agrees (portal : Portal) (start : World) (session : List Event)
    (hstart : ∀ entity device, start.plant.device? entity = some device →
      device.overrideMode = none)
    (hsession : ∀ event ∈ session, event.IsOrdinary) (entity : Entity) :
    let plant := (start.afterAll portal session).plant
    (∀ device, plant.device? entity = some device →
      (∀ mode, device.overrideMode = some mode →
        (0 ≤ mode.toInt ∧ mode.toInt ≤ 6) ∧ mode ≠ device.standingMode) ∧
      (device.overrideMode.isSome = true ↔ device.currentMode ≠ device.standingMode)) ∧
    ∀ active current standing, (plant.answer (.overrideActive entity)).1 = .ok active →
      (plant.answer (.currentMode entity)).1 = .ok current →
      (plant.answer (.standingMode entity)).1 = .ok standing →
      (active = true ↔ current ≠ standing) := by
  have hagrees : (start.afterAll portal session).plant.Agrees := by
    apply World.afterAll_induction (fun world => world.plant.Agrees)
    · exact fun world event hmem => agrees_after (hsession event hmem)
    · intro entity device hdevice mode hmode
      rw [hstart entity device hdevice] at hmode
      cases hmode
  intro plant
  refine ⟨fun device hdevice => ?_, ?_⟩
  · have hdevice := hagrees entity device hdevice
    exact ⟨hdevice, hdevice.isSome_iff⟩
  · intro active current standing hactive hcurrent hstanding
    obtain ⟨device, hdevice, rfl⟩ := Simulated.exists_device_of_read hactive
    obtain rfl := Simulated.reply_of_read hdevice hcurrent
    obtain rfl := Simulated.reply_of_read hdevice hstanding
    exact (hagrees entity device hdevice).isSome_iff

/-- An override that fails after its offset was written, one that succeeds, and one of a mode
that the plant does not take. -/
theorem indicator_agrees_ground_floor :
    let comfort := Request.submission "/circuits/0" "offset=1.5&runmode=2&override=on"
    let party := Request.submission "/circuits/0" "offset=0&runmode=9&override=on"
    let start := World.ofPlant (Simulated.empty.addEntity ⟨.circuit, 0⟩ "Ground floor" 1)
    let session := [.failOn "set_override", .request comfort, .recover "set_override",
      .request comfort, .call (.name ⟨.circuit, 0⟩), .request party]
    ∃ device, (start.afterAll .demo session).plant.device? ⟨.circuit, 0⟩ = some device ∧
      device.overrideMode = some 2 ∧ device.currentMode ≠ device.standingMode := by
  intro comfort party start session
  have hstart (entity : Entity) (device : Device)
      (hdevice : start.plant.device? entity = some device) : device.overrideMode = none := by
    simp only [start, World.ofPlant, Simulated.addEntity, Simulated.device?_setDevice,
      Simulated.empty] at hdevice
    split at hdevice <;> cases hdevice
    rfl
  have hsession : ∀ event ∈ session, event.IsOrdinary := by
    simp [session, Event.IsOrdinary, Operation.isWrite]
  obtain ⟨hdevices, -⟩ := indicator_agrees .demo start session hstart hsession ⟨.circuit, 0⟩
  have hoverride : ((start.afterAll .demo session).plant.device? ⟨.circuit, 0⟩).bind
      (·.overrideMode) = some 2 := by
    decide +kernel
  obtain ⟨device, hdevice, hmode⟩ := Option.bind_eq_some_iff.mp hoverride
  exact ⟨device, hdevice, hmode, (hdevices device hdevice).2.mp (by simp [hmode])⟩

end Web

end HeatingPortal
