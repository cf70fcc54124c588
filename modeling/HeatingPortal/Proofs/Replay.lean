import HeatingPortal.Proofs.Writes

/-!
# The recorded calls explain the state

A plant records the writes that it carries out, and nothing that it refuses. So the record of any
course of calls, injected failures and schedule changes replays on the plant as it was set up,
without any of those failures, and ends with the same settings (`calls_explain_settings`).
-/

namespace HeatingPortal.Plant

open Number

/-! ### What happens to a plant -/

/-- What can happen to a plant without its record being cleared. -/
inductive Happening where
  | call (operation : Operation)
  | failOn (label : String)
  | recover (label : String)
  | standingMode (entity : Entity) (mode : Int64)

/-- What a write changes: a property of one entity, or a value of the plant as a whole. -/
inductive Part where
  | override (entity : Entity)
  | offset (entity : Entity)
  | primary
  | suppress
deriving DecidableEq

/-- The part that a call changes, if it changes any. -/
def Operation.part? : Operation → Option Part
  | .setOverride entity _ | .clearOverride entity => some (.override entity)
  | .setOffset entity _ => some (.offset entity)
  | .setSystemMode _ => some .primary
  | .setSuppressFlag _ => some .suppress
  | _ => none

/-- A write as a plant records it: with a run mode or a system mode from zero to six. -/
def Operation.Recordable : Operation → Prop
  | .setOverride _ mode => 0 ≤ mode.toInt ∧ mode.toInt ≤ 6
  | .setSystemMode primary => primary.toNat ≤ 6
  | .clearOverride _ | .setOffset .. | .setSuppressFlag _ => True
  | _ => False

/-- What a write can change of a device. -/
def Device.settings (device : Device) : Option Int64 × Binary64 :=
  (device.overrideMode, device.offset)

/-- What no write changes of a device. -/
def Device.fixed (device : Device) : String × Int64 × Setpoints × Bool :=
  (device.name, device.standingMode, device.setpoints, device.hasAmbientSensor)

namespace Simulated

variable {start plant later copy first second : Simulated} {operation : Operation}

/-- The plant after something has happened. -/
def after (plant : Simulated) : Happening → Simulated
  | .call operation => (plant.answer operation).2
  | .failOn label => plant.failOn label
  | .recover label => plant.recover label
  | .standingMode entity mode => plant.setStandingMode entity mode

/-- The plant after a course of happenings. -/
def afterAll (plant : Simulated) (happenings : List Happening) : Simulated :=
  happenings.foldl after plant

/-- A plant as it is set up. -/
inductive Built : Simulated → Prop
  | empty : Built .empty
  | demo : Built .demo
  | addEntity {plant : Simulated} (h : Built plant) (entity : Entity) (name : String)
      (standingMode : Int64) : Built (plant.addEntity entity name standingMode)
  | addTemperature {plant : Simulated} (h : Built plant) (sensor : Int64) (value : Binary64) :
      Built (plant.addTemperature sensor value)
  | withSystemMode {plant : Simulated} (h : Built plant) (primary : UInt8) (suppress : Bool) :
      Built (plant.withSystemMode primary suppress)

/-- Makes calls one after another, each of which has to succeed. -/
def replay? (plant : Simulated) : List Operation → Option Simulated
  | [] => some plant
  | operation :: rest =>
    match plant.answer operation with
    | (.ok _, after) => after.replay? rest
    | (.error _, _) => none

/-- Two plants with the same overrides, offsets, system mode and suppress flag. -/
structure SameSettings (first second : Simulated) : Prop where
  device : ∀ entity,
    (first.device? entity).map Device.settings = (second.device? entity).map Device.settings
  primary : first.primary = second.primary
  suppress : first.suppress = second.suppress

/-- A plant before and after nothing but one part of it may have changed. -/
structure SameBut (part : Part) (before after : Simulated) : Prop where
  fixed : ∀ entity,
    (after.device? entity).map Device.fixed = (before.device? entity).map Device.fixed
  override : ∀ entity, part ≠ .override entity →
    (after.device? entity).map (·.overrideMode) = (before.device? entity).map (·.overrideMode)
  offset : ∀ entity, part ≠ .offset entity →
    (after.device? entity).map (·.offset) = (before.device? entity).map (·.offset)
  primary : part ≠ .primary → after.primary = before.primary
  suppress : part ≠ .suppress → after.suppress = before.suppress
  temperature : after.temperature? = before.temperature?
  fails : after.fails = before.fails

/-! ### Set-up -/

/-- Setting up a plant makes no call and injects no failure. -/
lemma Built.fresh (h : Built start) : start.calls = [] ∧ start.fails = fun _ => false := by
  induction h with
  | empty => exact ⟨rfl, rfl⟩
  | demo => exact ⟨rfl, rfl⟩
  | addEntity _ _ _ _ ih | addTemperature _ _ _ ih | withSystemMode _ _ _ ih => exact ih

/-! ### Changes to a device -/

/-- A property of devices that a change does not touch reads the same afterwards. -/
lemma map_device?_modify {α : Type} {property : Device → α} {change : Device → Device}
    {entity other : Entity}
    (h : other = entity → ∀ device, property (change device) = property device)
    (plant : Simulated) :
    ((plant.modify entity change).device? other).map property =
      (plant.device? other).map property := by
  rw [modify_eq]
  dsimp only
  by_cases heq : other = entity
  · have hproperty : property ∘ change = property := funext (h heq)
    rw [if_pos heq, heq, Option.map_map, hproperty]
  · rw [if_neg heq]

lemma sameBut_modify {part : Part} {entity : Entity} {change : Device → Device}
    (hfixed : ∀ device, (change device).fixed = device.fixed)
    (hoverride : part ≠ .override entity →
      ∀ device, (change device).overrideMode = device.overrideMode)
    (hoffset : part ≠ .offset entity → ∀ device, (change device).offset = device.offset)
    (plant : Simulated) : SameBut part plant (plant.modify entity change) := by
  constructor
  · intro other
    exact map_device?_modify (fun _ => hfixed) plant
  · intro other hpart
    refine map_device?_modify ?_ plant
    rintro rfl
    exact hoverride hpart
  · intro other hpart
    refine map_device?_modify ?_ plant
    rintro rfl
    exact hoffset hpart
  all_goals simp only [modify_eq, implies_true]

lemma SameBut.record {part : Part} (h : SameBut part plant later) (operation : Operation) :
    SameBut part plant (later.record operation) :=
  ⟨h.fixed, h.override, h.offset, h.primary, h.suppress, h.temperature, h.fails⟩

/-- A write changes the part that it names. -/
lemma sameBut_written {part : Part} (hpart : operation.part? = some part) (plant : Simulated) :
    SameBut part plant (plant.written operation) := by
  cases operation with
  | setOverride entity | clearOverride entity =>
    cases hpart
    refine SameBut.record (sameBut_modify ?_ ?_ ?_ plant) _
    · intro device
      rfl
    · intro hother
      exact absurd rfl hother
    · intro _ device
      rfl
  | setOffset entity =>
    cases hpart
    refine SameBut.record (sameBut_modify ?_ ?_ ?_ plant) _
    · intro device
      rfl
    · intro _ device
      rfl
    · intro hother
      exact absurd rfl hother
  | setSystemMode | setSuppressFlag => cases hpart; constructor <;> simp [written, record]
  | _ => cases hpart

namespace SameSettings

lemma refl (plant : Simulated) : SameSettings plant plant :=
  ⟨fun _ => rfl, rfl, rfl⟩

/-- A schedule changes no setting. -/
lemma setStandingMode (h : SameSettings copy plant) (entity : Entity) (mode : Int64) :
    SameSettings copy (plant.setStandingMode entity mode) := by
  constructor
  · intro other
    rw [h.device other]
    symm
    refine map_device?_modify ?_ plant
    intro _ device
    rfl
  · rw [h.primary, Simulated.setStandingMode, modify_eq]
  · rw [h.suppress, Simulated.setStandingMode, modify_eq]

/-- Changes that depend on the settings alone are alike. -/
lemma modify (h : SameSettings first second) (entity : Entity) {change : Device → Device}
    (hchange : ∀ device other : Device, device.settings = other.settings →
      (change device).settings = (change other).settings) :
    SameSettings (first.modify entity change) (second.modify entity change) := by
  rw [modify_eq, modify_eq]
  refine ⟨fun other => ?_, h.primary, h.suppress⟩
  dsimp only
  split
  · have hentity := h.device entity
    cases hfirst : first.device? entity <;> cases hsecond : second.device? entity <;>
      simp only [hfirst, hsecond, Option.map_none, Option.map_some, reduceCtorEq,
        Option.some.injEq] at hentity ⊢
    exact hchange _ _ hentity
  · exact h.device other

lemma written (h : SameSettings first second) (operation : Operation) :
    SameSettings (first.written operation) (second.written operation) := by
  have hrecord {one other : Simulated} (hsame : SameSettings one other) :
      SameSettings (one.record operation) (other.record operation) :=
    ⟨hsame.device, hsame.primary, hsame.suppress⟩
  cases operation with
  | setOffset entity value =>
    refine hrecord (h.modify entity fun device other hsettings => ?_)
    simp_all [Device.settings]
  | setOverride entity | clearOverride entity =>
    refine hrecord (h.modify entity fun device other hsettings => ?_)
    simp_all [Device.settings]
  | setSystemMode primary => exact hrecord ⟨h.device, rfl, h.suppress⟩
  | setSuppressFlag suppress => exact hrecord ⟨h.device, h.primary, rfl⟩
  | _ => exact hrecord h

lemma exists_device (h : SameSettings copy plant) {entity : Entity} {device : Device}
    (hdevice : plant.device? entity = some device) :
    ∃ copied, copy.device? entity = some copied := by
  have hentity := h.device entity
  rw [hdevice] at hentity
  obtain ⟨copied, hcopied, -⟩ := Option.map_eq_some_iff.mp hentity
  exact ⟨copied, hcopied⟩

/-- A write that one plant accepts is accepted by every other of the same settings, unless it is
made to fail there. -/
lemma exists_accepts (h : SameSettings copy plant) (hfails : copy.fails operation.label = false)
    (hwrite : operation.isWrite = true) (haccepts : plant.Accepts operation later) :
    ∃ next, copy.Accepts operation next := by
  cases operation with
  | setOffset =>
    obtain ⟨-, device, hdevice, -⟩ := accepts_setOffset_iff.mp haccepts
    obtain ⟨copied, hcopied⟩ := h.exists_device hdevice
    exact ⟨_, accepts_setOffset_iff.mpr ⟨hfails, copied, hcopied, rfl⟩⟩
  | setOverride =>
    obtain ⟨-, hmode, device, hdevice, -⟩ := accepts_setOverride_iff.mp haccepts
    obtain ⟨copied, hcopied⟩ := h.exists_device hdevice
    exact ⟨_, accepts_setOverride_iff.mpr ⟨hfails, hmode, copied, hcopied, rfl⟩⟩
  | clearOverride =>
    obtain ⟨-, device, hdevice, -⟩ := accepts_clearOverride_iff.mp haccepts
    obtain ⟨copied, hcopied⟩ := h.exists_device hdevice
    exact ⟨_, accepts_clearOverride_iff.mpr ⟨hfails, copied, hcopied, rfl⟩⟩
  | setSystemMode =>
    obtain ⟨-, hprimary, -⟩ := accepts_setSystemMode_iff.mp haccepts
    exact ⟨_, accepts_setSystemMode_iff.mpr ⟨hfails, hprimary, rfl⟩⟩
  | setSuppressFlag => exact ⟨_, accepts_setSuppressFlag_iff.mpr ⟨hfails, rfl⟩⟩
  | _ => cases hwrite

end SameSettings

/-! ### Calls -/

/-- A write that is carried out had an admissible mode. -/
lemma recordable_of_accepts (hwrite : operation.isWrite = true)
    (h : plant.Accepts operation later) : operation.Recordable := by
  cases operation with
  | setOverride =>
    obtain ⟨-, hmode, -⟩ := accepts_setOverride_iff.mp h
    exact hmode
  | setSystemMode =>
    obtain ⟨-, hprimary, -⟩ := accepts_setSystemMode_iff.mp h
    exact hprimary
  | clearOverride | setOffset | setSuppressFlag => trivial
  | _ => cases hwrite

/-- A write that is carried out is the next in the record. -/
lemma calls_of_accepts (hwrite : operation.isWrite = true) (h : plant.Accepts operation later) :
    later.calls = plant.calls ++ [operation] := by
  have hcalls := calls_answer plant operation
  rw [performedBy_of_accepts hwrite h] at hcalls
  obtain ⟨reply, hanswer⟩ := h
  rwa [hanswer] at hcalls

lemma exists_part (hwrite : operation.isWrite = true) : ∃ part, operation.part? = some part := by
  cases operation with
  | setOffset | setOverride | clearOverride | setSystemMode | setSuppressFlag => exact ⟨_, rfl⟩
  | _ => cases hwrite

/-- A call leaves the plant as it is, or it is a write that is accepted. -/
lemma answer_cases (plant : Simulated) (operation : Operation) :
    (plant.answer operation).2 = plant ∨
      operation.isWrite = true ∧ plant.Accepts operation (plant.answer operation).2 := by
  cases hwrite : operation.isWrite with
  | false => exact .inl (answer_snd_of_read plant hwrite)
  | true =>
    cases hanswer : (plant.answer operation).1 with
    | error failure => exact .inl (answer_snd_of_refuses hanswer)
    | ok reply => exact .inr ⟨rfl, reply, Prod.ext hanswer rfl⟩

/-! ### Replaying the record -/

lemma replay?_append (plant : Simulated) (calls later : List Operation) :
    plant.replay? (calls ++ later) = (plant.replay? calls).bind (·.replay? later) := by
  induction calls generalizing plant with
  | nil => rfl
  | cons operation rest ih =>
    simp only [List.cons_append, replay?]
    cases plant.answer operation with
    | mk answer after =>
      cases answer with
      | ok reply => exact ih after
      | error failure => rfl

lemma replay?_singleton (h : plant.Accepts operation later) :
    plant.replay? [operation] = some later := by
  obtain ⟨reply, hanswer⟩ := h
  simp only [replay?, hanswer]

/-- The record of a plant replays without failures to a copy of the same settings, and is
admissible throughout. -/
structure Explains (start copy plant : Simulated) : Prop where
  replay : start.replay? plant.calls = some copy
  unfailing : copy.fails = fun _ => false
  settings : SameSettings copy plant
  recordable : ∀ call ∈ plant.calls, call.Recordable

/-- A write that is carried out is carried out by the copy as well. -/
lemma Explains.accept (h : Explains start copy plant) (hwrite : operation.isWrite = true)
    (haccepts : plant.Accepts operation later) : ∃ next, Explains start next later := by
  have hfails : copy.fails operation.label = false := congrFun h.unfailing operation.label
  obtain ⟨next, hnext⟩ := h.settings.exists_accepts hfails hwrite haccepts
  have hcopy := eq_written_of_accepts hwrite hnext
  have hplant := eq_written_of_accepts hwrite haccepts
  have hcalls := calls_of_accepts hwrite haccepts
  obtain ⟨part, hpart⟩ := exists_part hwrite
  refine ⟨next, ?_, ?_, ?_, ?_⟩
  · rw [hcalls, replay?_append, h.replay]
    exact replay?_singleton hnext
  · rw [hcopy, (sameBut_written hpart copy).fails, h.unfailing]
  · rw [hcopy, hplant]
    exact h.settings.written operation
  · intro call hmem
    rw [hcalls, List.mem_append, List.mem_singleton] at hmem
    rcases hmem with hmem | rfl
    · exact h.recordable call hmem
    · exact recordable_of_accepts hwrite haccepts

/-- Whatever happens next, the record explains the plant. -/
lemma Explains.after (h : Explains start copy plant) (happening : Happening) :
    ∃ next, Explains start next (plant.after happening) := by
  cases happening with
  | call operation =>
    rcases answer_cases plant operation with hsame | ⟨hwrite, haccepts⟩
    · rw [Simulated.after, hsame]
      exact ⟨copy, h⟩
    · exact h.accept hwrite haccepts
  | failOn label | recover label =>
    exact ⟨copy, h.replay, h.unfailing,
      ⟨h.settings.device, h.settings.primary, h.settings.suppress⟩, h.recordable⟩
  | standingMode entity mode =>
    have hcalls : (plant.setStandingMode entity mode).calls = plant.calls := by
      rw [setStandingMode, modify_eq]
    refine ⟨copy, ?_, h.unfailing, h.settings.setStandingMode entity mode, ?_⟩
    · exact hcalls ▸ h.replay
    · exact hcalls ▸ h.recordable

lemma Explains.afterAll (h : Explains start copy plant) (happenings : List Happening) :
    ∃ last, Explains start last (plant.afterAll happenings) := by
  induction happenings generalizing copy plant with
  | nil => exact ⟨copy, h⟩
  | cons happening rest ih =>
    obtain ⟨next, hnext⟩ := h.after happening
    exact ih hnext

/-- After any course of calls, injected failures and schedule changes, the record of a plant
replays without failures on the plant as it was set up and yields its overrides, offsets, system
mode and suppress flag. Every recorded call had an admissible mode. From there, reads and refused
calls change nothing, and a write that succeeds is recorded once and changes nothing but the part
that it names. -/
theorem calls_explain_settings (hbuilt : Built start) (happenings : List Happening) :
    let plant := start.afterAll happenings
    start.fails = (fun _ => false) ∧
    (∃ copy, start.replay? plant.calls = some copy ∧ SameSettings copy plant) ∧
    (∀ call ∈ plant.calls, call.Recordable) ∧
    (∀ operation : Operation, operation.isWrite = false → (plant.answer operation).2 = plant) ∧
    (∀ operation failure, plant.Refuses operation failure → (plant.answer operation).2 = plant) ∧
    ∀ operation after, operation.isWrite = true → plant.Accepts operation after →
      after.calls = plant.calls ++ [operation] ∧
        ∃ part, operation.part? = some part ∧ SameBut part plant after := by
  intro plant
  obtain ⟨hcalls, hfails⟩ := hbuilt.fresh
  have hstart : Explains start start start := by
    refine ⟨?_, hfails, .refl start, ?_⟩
    · rw [hcalls]
      rfl
    · simp [hcalls]
  obtain ⟨copy, hcopy⟩ := hstart.afterAll happenings
  refine ⟨hfails, ⟨copy, hcopy.replay, hcopy.settings⟩, hcopy.recordable, ?_, ?_, ?_⟩
  · intro operation hread
    exact answer_snd_of_read plant hread
  · intro operation failure hrefuses
    exact answer_snd_of_refuses hrefuses
  · intro operation after hwrite haccepts
    obtain ⟨part, hpart⟩ := exists_part hwrite
    refine ⟨calls_of_accepts hwrite haccepts, part, hpart, ?_⟩
    rw [eq_written_of_accepts hwrite haccepts]
    exact sameBut_written hpart plant

/-- A run mode out of range, a call that is made to fail and an entity that is not there leave no
trace; the writes before and after them do, and the schedule changes no setting. -/
theorem calls_explain_settings_demo :
    let entity : Entity := ⟨.circuit, 0⟩
    let happenings : List Happening :=
      [.call (.setOverride entity 3), .call (.setOverride entity 7), .failOn "set_offset",
        .call (.setOffset entity (tenths 15)), .standingMode entity 2, .recover "set_offset",
        .call (.setOffset entity (tenths 25)), .call (.clearOverride ⟨.tank, 9⟩),
        .call (.setSystemMode 4), .call .systemMode]
    let plant := demo.afterAll happenings
    let record : List Operation :=
      [.setOverride entity 3, .setOffset entity (tenths 25), .setSystemMode 4]
    plant.calls = record ∧ ∃ copy, demo.replay? record = some copy ∧
      SameSettings copy plant := by
  intro entity happenings plant record
  have hcalls : plant.calls = record := by decide +kernel
  obtain ⟨-, hreplay, -⟩ := calls_explain_settings .demo happenings
  rw [← hcalls]
  exact ⟨rfl, hreplay⟩

end Simulated

end HeatingPortal.Plant
