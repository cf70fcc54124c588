import HeatingPortal.Proofs.Repetition
import HeatingPortal.Proofs.SentBack

/-!
# Saving an untouched form

A form that is sent back as it was shown should not change how the plant runs. Of an entity the
current mode and the standing mode stay, and the offset becomes the decimal that was shown of it.
An override stays unless it repeats the standing mode, which it may do after a schedule has
changed: then it is cleared. The system mode stays as it is.

An override that a plant keeps was admissible when it was set, so a plant that works accepts it
once more. That is an invariant of everything that can happen to a plant
(`Reachable.admissible`).
-/

namespace HeatingPortal

namespace Plant

/-- A write that is accepted finishes. -/
lemma Operation.exists_finishes_send {operation : Operation} {plant after : Simulated}
    (h : plant.Accepts operation after) :
    ∃ reply, Task.Finishes operation.send plant reply after := by
  obtain ⟨reply, hanswer⟩ := h
  refine ⟨reply, ?_⟩
  change ((plant.answer operation).1, (plant.answer operation).2) = _
  rw [hanswer]

/-! ### Plants within reach -/

/-- A run mode that can be set. -/
def IsRunMode (mode : Int64) : Prop :=
  0 ≤ mode.toInt ∧ mode.toInt ≤ Simulated.greatestRunMode

namespace Simulated

variable {plant later : Simulated} {operation : Operation}

/-- A plant that can come about by set-up, calls, injected failures and
schedules, in any order. -/
inductive Reachable : Simulated → Prop
  | empty : Reachable .empty
  | demo : Reachable .demo
  | addEntity {plant : Simulated} (h : Reachable plant) (entity : Entity) (name : String)
      (standingMode : Int64) : Reachable (plant.addEntity entity name standingMode)
  | addTemperature {plant : Simulated} (h : Reachable plant) (sensor : Int64)
      (value : Number.Binary64) : Reachable (plant.addTemperature sensor value)
  | withSystemMode {plant : Simulated} (h : Reachable plant) (primary : UInt8)
      (suppress : Bool) :
      Reachable (plant.withSystemMode primary suppress)
  | clearCalls {plant : Simulated} (h : Reachable plant) : Reachable plant.clearCalls
  | after {plant : Simulated} (h : Reachable plant) (happening : Happening) :
      Reachable (plant.after happening)

/-- Every override of a plant is a run mode that can be set. -/
def Admissible (plant : Simulated) : Prop :=
  ∀ entity device mode, plant.device? entity = some device → device.overrideMode = some mode →
    IsRunMode mode

namespace Admissible

lemma setDevice (h : plant.Admissible) (entity : Entity) {device : Device}
    (hdevice : ∀ mode, device.overrideMode = some mode → IsRunMode mode) :
    (plant.setDevice entity device).Admissible := by
  intro other found mode hfound hmode
  rw [device?_setDevice] at hfound
  split at hfound
  · cases hfound
    exact hdevice mode hmode
  · exact h other found mode hfound hmode

lemma modify (h : plant.Admissible) (entity : Entity) {change : Device → Device}
    (hchange : ∀ device, (change device).overrideMode = device.overrideMode) :
    (plant.modify entity change).Admissible := by
  unfold Simulated.modify
  split
  · next device hdevice =>
    apply h.setDevice
    intro mode hmode
    rw [hchange] at hmode
    exact h entity device mode hdevice hmode
  · exact h

lemma addEntity (h : plant.Admissible) (entity : Entity) (name : String) (standingMode : Int64) :
    (plant.addEntity entity name standingMode).Admissible := by
  apply h.setDevice
  rintro mode ⟨⟩

lemma addTemperature (h : plant.Admissible) (sensor : Int64) (value : Number.Binary64) :
    (plant.addTemperature sensor value).Admissible := h

lemma withSystemMode (h : plant.Admissible) (primary : UInt8) (suppress : Bool) :
    (plant.withSystemMode primary suppress).Admissible := h

lemma demo : Simulated.demo.Admissible := by
  have hempty : empty.Admissible := by
    rintro entity device mode ⟨⟩
  have hentities := ((hempty.addEntity ⟨.circuit, 0⟩ "Ground floor" 1).addEntity ⟨.circuit, 1⟩
    "First floor" 1).addEntity ⟨.tank, 0⟩ "Hot water" 1
  have hsensors := (hentities.addTemperature 0 (tenths 75)).addTemperature 1 (tenths 205)
  refine (hsensors.withSystemMode 1 false).modify ⟨.tank, 0⟩ ?_
  intro device
  rfl

/-- A write that is carried out overrides with nothing but a mode that can be set. -/
lemma accept (h : plant.Admissible) (hwrite : operation.isWrite = true)
    (haccepts : plant.Accepts operation later) : later.Admissible := by
  cases operation with
  | setOffset entity =>
    obtain ⟨-, device, hdevice, rfl⟩ := accepts_setOffset_iff.mp haccepts
    exact h.setDevice entity fun mode hmode => h entity device mode hdevice hmode
  | setOverride entity mode =>
    obtain ⟨-, hmode, device, hdevice, rfl⟩ := accepts_setOverride_iff.mp haccepts
    refine h.setDevice entity ?_
    rintro _ ⟨⟩
    exact hmode
  | clearOverride entity =>
    obtain ⟨-, device, hdevice, rfl⟩ := accepts_clearOverride_iff.mp haccepts
    refine h.setDevice entity ?_
    rintro _ ⟨⟩
  | setSystemMode =>
    obtain ⟨-, -, rfl⟩ := accepts_setSystemMode_iff.mp haccepts
    exact h
  | setSuppressFlag =>
    obtain ⟨-, rfl⟩ := accepts_setSuppressFlag_iff.mp haccepts
    exact h
  | _ => cases hwrite

lemma after (h : plant.Admissible) (happening : Happening) :
    (plant.after happening).Admissible := by
  cases happening with
  | call operation =>
    rcases answer_cases plant operation with hsame | ⟨hwrite, haccepts⟩
    · rw [Simulated.after, hsame]
      exact h
    · exact h.accept hwrite haccepts
  | failOn | recover => exact h
  | standingMode entity mode => exact h.modify entity fun _ => rfl

end Admissible

/-- Whatever happens to a plant, its overrides stay admissible. -/
theorem Reachable.admissible (h : plant.Reachable) : plant.Admissible := by
  induction h with
  | empty => rintro entity device mode ⟨⟩
  | demo => exact .demo
  | addEntity _ entity name standingMode ih => exact ih.addEntity entity name standingMode
  | addTemperature _ sensor value ih => exact ih.addTemperature sensor value
  | withSystemMode _ primary suppress ih => exact ih.withSystemMode primary suppress
  | clearCalls _ ih => exact ih
  | after _ happening ih => exact ih.after happening

lemma Reachable.afterAll (h : plant.Reachable) (happenings : List Happening) :
    (plant.afterAll happenings).Reachable := by
  induction happenings generalizing plant with
  | nil => exact h
  | cons happening rest ih => exact ih (h.after happening)

end Simulated

/-! ### Devices saved again -/

/-- A device before and after its form was saved untouched. Where run modes are on offer, an
override that repeats the standing mode is gone; the offset is the one that the form showed. -/
structure Device.Resaved (before after : Device) (offered : Bool) : Prop where
  currentMode : after.currentMode = before.currentMode
  standingMode : after.standingMode = before.standingMode
  override : after.overrideMode.isSome = true ↔ before.overrideMode.isSome = true ∧
    (offered = true → before.currentMode ≠ before.standingMode)
  offset : Number.Binary64.ofPlainDecimal? before.offset.oneDecimal = some after.offset

lemma Device.standingMode_submitted (device : Device) (offset : Number.Binary64)
    (plan : Option OverridePlan) :
    (device.submitted offset plan).standingMode = device.standingMode := by
  rcases plan with _ | _ | _ <;> rfl

/-- Asking a device for the mode and the override that it has leaves it in that mode. -/
lemma Device.resaved_submitted {device : Device} {offset : Number.Binary64}
    {runModes : Option (List Settings.Choice)}
    (hoffset : Number.Binary64.ofPlainDecimal? device.offset.oneDecimal = some offset) :
    device.Resaved (device.submitted offset (runModes.map fun _ =>
      reconcile device.standingMode ⟨device.currentMode, device.overrideMode.isSome⟩))
      runModes.isSome := by
  refine ⟨?_, standingMode_submitted .., ?_, ?_⟩
  · cases runModes with
    | none => rfl
    | some modes =>
      rw [Option.map_some, currentMode_submitted]
      cases hoverride : device.overrideMode <;> simp [currentMode, hoverride]
  · cases runModes with
    | none => simp [submitted]
    | some modes =>
      rw [Option.map_some, isSome_overrideMode_submitted]
      simp
  · rw [offset_submitted]
    exact hoffset

/-- An override is set anew only to what it is. -/
lemma Device.overrideMode_of_reconcile {device : Device} {standing mode : Int64}
    (h : reconcile standing ⟨device.currentMode, device.overrideMode.isSome⟩ = .set mode) :
    device.overrideMode = some mode := by
  unfold reconcile at h
  split at h
  · next hwanted =>
    obtain ⟨override, hoverride⟩ := Option.isSome_iff_exists.mp hwanted.1
    cases h
    simp [currentMode, hoverride]
  · cases h

/-! ### Submissions on a working plant -/

section

variable {plant : Simulated} {entity : Entity} {device : Device} {offset : Number.Binary64}

lemma yields_build (hworks : plant.Works) (hdevice : plant.device? entity = some device)
    (offset : Option Number.Binary64) (request : Option OverrideRequest) :
    Task.Yields (ChangePlan.build entity offset request) plant
      ⟨entity, offset, request.map (reconcile device.standingMode)⟩ := by
  have hplan : Task.Yields (ChangePlan.planOverride entity request) plant
      (request.map (reconcile device.standingMode)) := by
    cases request with
    | none => exact Task.yields_pure none plant
    | some request =>
      simp only [ChangePlan.planOverride, Option.map_some]
      split
      · have hstanding : (plant.read (.standingMode entity) entity (·.standingMode)).1 =
            .ok device.standingMode := hworks.read_eq hdevice _
        refine (Operation.yields_send (.standingMode entity) rfl hstanding).bind ?_
        exact Task.yields_pure _ plant
      · next hwanted =>
        have hclear : reconcile device.standingMode request = .clear := by
          simp [reconcile, hwanted]
        rw [hclear]
        exact Task.yields_pure _ plant
  exact hplan.bind (Task.yields_pure _ plant)

/-- A plant that works carries out a plan whose override can be set. -/
lemma exists_finishes_applyPlan (hworks : plant.Works)
    (hdevice : plant.device? entity = some device)
    (offset : Number.Binary64) {call : Option OverridePlan}
    (hmode : ∀ mode, call = some (.set mode) → IsRunMode mode) :
    ∃ after, Task.Finishes (ChangePlan.apply ⟨entity, some offset, call⟩) plant () after := by
  obtain ⟨middle, hoffset, hmiddle, found, hfound⟩ : ∃ middle : Simulated,
      plant.Accepts (.setOffset entity offset) middle ∧ middle.Works ∧
        ∃ device, middle.device? entity = some device :=
    ⟨_, Simulated.accepts_setOffset_iff.mpr ⟨hworks _, device, hdevice, rfl⟩,
      hworks, _, if_pos rfl⟩
  obtain ⟨⟨⟩, hfirst⟩ := Operation.exists_finishes_send hoffset
  cases call with
  | none =>
    exact ⟨middle, (Task.finishes_ofPlant hfirst).bind (Task.finishes_pure () middle)⟩
  | some call =>
    obtain ⟨after, hcall⟩ : ∃ after, middle.Accepts (call.operation entity) after := by
      cases call with
      | set mode => exact ⟨_, Simulated.accepts_setOverride_iff.mpr
          ⟨hmiddle _, hmode mode rfl, found, hfound, rfl⟩⟩
      | clear =>
        exact ⟨_, Simulated.accepts_clearOverride_iff.mpr ⟨hmiddle _, found, hfound, rfl⟩⟩
    obtain ⟨reply, hsecond⟩ := Operation.exists_finishes_send hcall
    refine ⟨after, (Task.finishes_ofPlant hfirst).bind (Task.finishes_ofPlant ?_)⟩
    cases call with
    | set mode => exact hsecond
    | clear => exact hsecond

end

end Plant

namespace Web

open Caller Form Plant Settings

section

variable {portal : Portal} {request : Request} {world : World}

/-! ### Serving on a working plant -/

section

variable {kind : Kind} {id : String} {context : EntityContext} {entity : Entity}
  {device : Device}

/-- Showing an entity leaves the world as it is. -/
lemma serve_showEntity (hworks : world.plant.Works) (hget : request.method = .get)
    (hroute : Portal.accept request = .ok (.entity kind id))
    (haddressed : addressed portal.settings (portal.caller request) kind id =
      .ok (context, entity))
    (hdevice : world.plant.device? entity = some device) :
    world.serve portal request = ((.plain 200 <| .entity {
      tier := .of portal.settings (portal.caller request)
      entity
      form := (Form.entity kind context.runModes).fill (entityTexts (device.snapshot entity)) []
      state := some (device.snapshot entity) }, []), world) :=
  serve_of_yields portal world hget hroute (yields_showEntity hworks haddressed hdevice)

/-- A rejected submission is answered with its form, and leaves the world as it is. -/
lemma serve_rejected {rejections : Rejections} (hpost : request.method = .post)
    (hroute : Portal.accept request = .ok (.entity kind id))
    (haddressed : addressed portal.settings (portal.caller request) kind id =
      .ok (context, entity))
    (hvalues : (Form.entity kind context.runModes).validate (submittedTexts request.body) =
      .error rejections) :
    (world.serve portal request).1.1.status = 422 ∧ (world.serve portal request).2 = world := by
  have hreads : Task.Reads (portal.handle request (.entity kind id))
      (fun outcome => outcome.response.status = 422 ∧ outcome.publish = none)
      fun _ => False := by
    rw [handle_of_post hpost]
    simp only [Portal.submit, submitEntity, haddressed]
    refine (Task.reads_ofExcept _).bind (fun _ h => by cases h) fun found hfound => ?_
    cases hfound
    dsimp only
    rw [hvalues]
    exact Task.reads_lift (Program.Reads.bind (reads_fetch entity) fun _ _ => ⟨rfl, rfl⟩)
  obtain ⟨outcome, ⟨hstatus, hpublish⟩, hyields⟩ := hreads.exists_yields world.plant
  have houtcome : Portal.cut request.method outcome =
      ⟨(Portal.cut request.method outcome).response, outcome.warnings, none⟩ := by
    rw [← hpublish]
    rfl
  rw [World.serve_of_finishes hroute hyields.finishes houtcome]
  exact ⟨hstatus, rfl⟩

/-- A submission that is accepted for a device of a working plant is redirected, if the override
that it asks for can be set. -/
lemma serve_accepted {values : Values} {offset : Number.Binary64} (hworks : world.plant.Works)
    (hpost : request.method = .post) (hroute : Portal.accept request = .ok (.entity kind id))
    (haddressed : addressed portal.settings (portal.caller request) kind id =
      .ok (context, entity))
    (hdevice : world.plant.device? entity = some device)
    (hvalues : (Form.entity kind context.runModes).validate (submittedTexts request.body) =
      .ok values)
    (hoffset : values.decimal? offsetKey = some offset)
    (hmode : ∀ mode, (overrideRequest? values).map (reconcile device.standingMode) =
      some (.set mode) → IsRunMode mode) :
    (world.serve portal request).1.1.status = 303 ∧
      (world.serve portal request).2.sink = world.sink := by
  obtain ⟨after, happly⟩ := exists_finishes_applyPlan hworks hdevice offset hmode
  have hsubmit : Task.Finishes (portal.handle request (.entity kind id)) world.plant
      (.ofResponse (.redirect (entityLocation entity))) after := by
    rw [handle_of_post hpost]
    refine (Task.yields_ofExcept haddressed world.plant).finishes.bind ?_
    dsimp only
    rw [hvalues]
    refine (Task.yields_ofPlant (yields_build hworks hdevice _ _)).finishes.bind ?_
    rw [hoffset]
    exact happly.bind (Task.finishes_pure _ after)
  rw [World.serve_of_finishes hroute hsubmit (cut_of_post hpost rfl)]
  exact ⟨rfl, rfl⟩

/-- The device after a redirected submission is the one that was submitted. -/
lemma World.device?_serve {values : Values} {offset : Number.Binary64}
    (hroute : Portal.accept request = .ok (.entity kind id))
    (haddressed : addressed portal.settings (portal.caller request) kind id =
      .ok (context, entity))
    (hdevice : world.plant.device? entity = some device)
    (hvalues : (Form.entity kind context.runModes).validate (submittedTexts request.body) =
      .ok values)
    (hoffset : values.decimal? offsetKey = some offset)
    (hstatus : (world.serve portal request).1.1.status = 303) :
    (world.serve portal request).2.plant.device? entity = some (device.submitted offset
      ((overrideRequest? values).map (reconcile device.standingMode))) := by
  have hcommitted := World.committed hstatus
  generalize (world.serve portal request).1.1 = response at hcommitted
  generalize (world.outcome portal request).publish = publish at hcommitted
  cases hcommitted with
  | mode submission => cases hroute.symm.trans submission.route
  | entity submission hfirst hfound hafter =>
    obtain ⟨spelled, haccept, hagain⟩ := submission.route
    cases hroute.symm.trans haccept
    cases haddressed.symm.trans hagain
    cases hvalues.symm.trans submission.accepted
    cases hoffset.symm.trans hfirst
    cases hdevice.symm.trans hfound
    exact hafter

/-- Sending back the form of an entity on a plant within reach. -/
lemma resaved_entity {runModes : Option (List Choice)} (hreachable : world.plant.Reachable)
    (hworks : world.plant.Works) (hpost : request.method = .post)
    (hroute : Portal.accept request = .ok (.entity kind id))
    (haddressed : addressed portal.settings (portal.caller request) kind id =
      .ok (context, entity))
    (hrunModes : context.runModes = runModes)
    (hdevice : world.plant.device? entity = some device)
    (hsent :
      ((Form.entity kind runModes).fill (entityTexts (device.snapshot entity)) []).SentBack
        (submittedTexts request.body)) :
    let served := world.serve portal request
    let acceptable := device.offset.isFinite = true ∧ ∀ modes, runModes = some modes →
      ∃ choice ∈ modes, choice.code = device.currentMode
    (served.1.1.status = 303 ↔ acceptable) ∧
    (¬acceptable → served.1.1.status = 422 ∧ served.2 = world) ∧
    (acceptable → ∃ saved, served.2.plant.device? entity = some saved ∧
      device.Resaved saved runModes.isSome ∧
      Simulated.SameOutside
        (.offset entity :: if runModes.isSome then [.override entity] else [])
        world.plant served.2.plant ∧
      served.2.sink = world.sink) := by
  intro served acceptable
  subst hrunModes
  have hiff := exists_validate_entity_sentBack_iff hsent
  cases hvalues : (Form.entity kind context.runModes).validate (submittedTexts request.body) with
  | error rejections =>
    have hnot : ¬acceptable := by
      rw [hvalues] at hiff
      exact fun h => nomatch (hiff.mpr h).choose_spec
    obtain ⟨hstatus, hsame⟩ : served.1.1.status = 422 ∧ served.2 = world :=
      serve_rejected hpost hroute haddressed hvalues
    refine ⟨?_, fun _ => ⟨hstatus, hsame⟩, fun h => absurd h hnot⟩
    simp [hstatus, hnot]
  | ok values =>
    have hacceptable : acceptable := hiff.mp ⟨values, hvalues⟩
    obtain ⟨offset, hoffset, hread, hasked⟩ := asked_of_sentBack hsent hvalues
    have hplan : (overrideRequest? values).map (reconcile device.standingMode) =
        context.runModes.map fun _ =>
          reconcile device.standingMode ⟨device.currentMode, device.overrideMode.isSome⟩ := by
      rw [hasked, Option.map_map]
      rfl
    have hmode (mode : Int64) (hset : (overrideRequest? values).map
        (reconcile device.standingMode) = some (.set mode)) : IsRunMode mode := by
      rw [hplan, Option.map_eq_some_iff] at hset
      obtain ⟨-, -, hset⟩ := hset
      exact hreachable.admissible entity device mode hdevice
        (Device.overrideMode_of_reconcile hset)
    obtain ⟨hstatus, hsink⟩ : served.1.1.status = 303 ∧ served.2.sink = world.sink :=
      serve_accepted hworks hpost hroute haddressed hdevice hvalues hoffset hmode
    have hsaved : served.2.plant.device? entity = some (device.submitted offset
        ((overrideRequest? values).map (reconcile device.standingMode))) :=
      World.device?_serve hroute haddressed hdevice hvalues hoffset hstatus
    rw [hplan] at hsaved
    refine ⟨?_, fun hnot => absurd hacceptable hnot, fun _ => ⟨_, hsaved, ?_, ?_, hsink⟩⟩
    · simp [hstatus, hacceptable]
    · exact Device.resaved_submitted hread
    · exact World.sameOutside_serve (.entity hpost hroute haddressed hvalues) hstatus

end

end

/-! ### Saving untouched forms -/

/-- A change of the system mode that is carried out leaves its byte, and changes nothing else. -/
lemma composite_of_finishes {change : SystemModeChange} {plant after : Simulated} {reply : UInt8}
    (h : Task.Finishes change.apply plant reply after) :
    reply = change.composite ∧ compose after.primary after.suppress = change.composite ∧
      Simulated.SameOutside [.primary, .suppress] plant after := by
  have hends := change.ends_apply plant
  unfold Task.Ends Program.Ends at hends
  rw [h] at hends
  obtain ⟨rfl, middle, hmode, hflag, -⟩ := hends
  have hfirst := Simulated.SameOutside.written plant (.setSystemMode change.primary)
  have hsecond := Simulated.SameOutside.written middle (.setSuppressFlag change.suppress)
  rw [← Simulated.eq_written_of_accepts rfl hmode] at hfirst
  rw [← Simulated.eq_written_of_accepts rfl hflag] at hsecond
  refine ⟨rfl, ?_, (hfirst.mono ?_).trans (hsecond.mono ?_)⟩
  · obtain ⟨-, -, rfl⟩ := Simulated.accepts_setSystemMode_iff.mp hmode
    obtain ⟨-, rfl⟩ := Simulated.accepts_setSuppressFlag_iff.mp hflag
    rfl
  · simp [Operation.part?]
  · simp [Operation.part?]

/-- Saving a form as it was shown does not change how the plant runs.

Of an entity, on a plant within reach that works: what the page shows is accepted exactly when
the offset is finite and the current mode is on offer where run modes are; it is rejected
otherwise, and the world stays as it is. Once accepted, the device is in the same modes, an
override is kept unless it repeats the standing mode, the offset is the decimal that was shown,
and nothing else has changed.

Of the system mode: what the form shows is accepted exactly when the mode is on offer, and the
change that it asks for, once carried out, leaves the byte that was shown. -/
theorem untouched_forms_keep_plant :
    (∀ (portal : Portal) (world : World) (get post : Request) (kind : Kind) (id : String)
      (context : EntityContext) (entity : Entity) (runModes : Option (List Choice))
      (device : Device), world.plant.Reachable → world.plant.Works →
      get.method = .get → Portal.accept get = .ok (.entity kind id) →
      addressed portal.settings (portal.caller get) kind id = .ok (context, entity) →
      resolveChoices portal.settings (portal.caller get) kind.runModeKeys = .ok runModes →
      world.plant.device? entity = some device →
      ∃ page, world.serve portal get = ((.plain 200 (.entity page), []), world) ∧
        page.entity = entity ∧
        page.form = (Form.entity kind runModes).fill (entityTexts (device.snapshot entity)) [] ∧
        (post.method = .post → Portal.accept post = .ok (.entity kind id) →
          portal.caller post = portal.caller get →
          page.form.SentBack (submittedTexts post.body) →
          let served := world.serve portal post
          let acceptable := device.offset.isFinite = true ∧ ∀ modes, runModes = some modes →
            ∃ choice ∈ modes, choice.code = device.currentMode
          (served.1.1.status = 303 ↔ acceptable) ∧
          (¬acceptable → served.1.1.status = 422 ∧ served.2 = world) ∧
          (acceptable → ∃ saved, served.2.plant.device? entity = some saved ∧
            device.Resaved saved runModes.isSome ∧
            Simulated.SameOutside
              (.offset entity :: if runModes.isSome then [.override entity] else [])
              world.plant served.2.plant ∧
            served.2.sink = world.sink))) ∧
    (∀ (modes : List Choice) (composite : UInt8) (submission : Texts),
      ((Form.system modes).fill (systemTexts composite) []).SentBack submission →
      ((∃ values, (Form.system modes).validate submission = .ok values) ↔
        ∃ choice ∈ modes, choice.code.toInt = (primaryOf composite).toNat) ∧
      ∀ values, (Form.system modes).validate submission = .ok values →
        ∃ change, modeChange values = .ok change ∧ change.composite = composite ∧
          ∀ (plant after : Simulated) (reply : UInt8),
            compose plant.primary plant.suppress = composite →
            Task.Finishes change.apply plant reply after →
            reply = composite ∧
              compose after.primary after.suppress = compose plant.primary plant.suppress ∧
              Simulated.SameOutside [.primary, .suppress] plant after) := by
  constructor
  · intro portal world get post kind id context entity runModes device hreachable
      hworks hget hroute haddressed hrunModes hdevice
    obtain ⟨-, -, hresolved⟩ := resolved_of_context (context_of_addressed haddressed).1
    obtain rfl : context.runModes = runModes := by
      rw [hresolved] at hrunModes
      exact Except.ok.inj hrunModes
    refine ⟨_, serve_showEntity hworks hget hroute haddressed hdevice, rfl, rfl, ?_⟩
    intro hpost haccept hcaller hsent
    rw [← hcaller] at haddressed
    exact resaved_entity hreachable hworks hpost haccept haddressed rfl hdevice hsent
  · intro modes composite submission hsent
    refine ⟨exists_validate_system_sentBack_iff hsent, fun values hvalues => ?_⟩
    obtain ⟨change, hchange, rfl⟩ := exists_modeChange_of_sentBack hsent hvalues
    refine ⟨change, hchange, rfl, fun plant after reply hplant hfinishes => ?_⟩
    obtain ⟨hreply, hafter, houtside⟩ := composite_of_finishes hfinishes
    exact ⟨hreply, hafter.trans hplant.symm, houtside⟩

/-- The ground floor is overridden, and then its schedule catches up: saving its form
clears the override, rounds the offset and leaves the mode. The system mode with its flag
is sent back as it is. -/
theorem untouched_forms_keep_plant_ground_floor :
    let entity : Entity := ⟨.circuit, 0⟩
    let plant := Simulated.demo.afterAll
      [.call (.setOverride entity 2), .call (.setOffset entity (.ofDecimal false 125 (-2))),
        .standingMode entity 2]
    let post := Request.submission "/circuits/0" "offset=1.2&runmode=2&override=on"
    let served := (World.ofPlant plant).serve .demo post
    let sent : Texts := [(modeKey, "1"), (suppressKey, "on")]
    served.1.1.status = 303 ∧
      (∃ saved, served.2.plant.device? entity = some saved ∧ saved.currentMode = 2 ∧
        saved.overrideMode = none ∧
        Number.Binary64.ofPlainDecimal? "1.2" = some saved.offset) ∧
      ∃ values change, (Form.system [⟨1, "Heating"⟩]).validate sent = .ok values ∧
        modeChange values = .ok change ∧ change.composite = 129 := by
  intro entity plant post served sent
  let get : Request := ⟨.get, "/circuits/0", [], []⟩
  obtain ⟨hentity, hsystem⟩ := untouched_forms_keep_plant
  have hworks : plant.Works := by
    have hfails : plant.fails = Simulated.demo.fails := by
      simp only [plant, Simulated.afterAll, List.foldl_cons, List.foldl_nil, Simulated.after,
        Simulated.setStandingMode, Simulated.modify_eq, Simulated.fails_answer]
    intro label
    rw [hfails]
    rfl
  have hroute : Portal.accept get = .ok (.entity .circuit "0") :=
    eq_ok_of_toOption (by decide +kernel)
  have hagain : Portal.accept post = .ok (.entity .circuit "0") :=
    eq_ok_of_toOption (by decide +kernel)
  let modes : List Choice := [⟨1, "Program"⟩, ⟨2, "Comfort"⟩, ⟨9, "Party"⟩]
  have haddressed : (addressed Portal.demo.settings (Portal.demo.caller get) .circuit
      "0").toOption.map (fun found => (found.2, found.1.runModes)) =
        some (entity, some modes) := by
    decide +kernel
  obtain ⟨⟨context, found⟩, haddressed, hfound⟩ := Option.map_eq_some_iff.mp haddressed
  obtain ⟨rfl, hoffered⟩ := Prod.mk.inj hfound
  have haddressed := eq_ok_of_toOption haddressed
  obtain ⟨-, -, hrunModes⟩ := resolved_of_context (context_of_addressed haddressed).1
  rw [hoffered] at hrunModes
  have hdevice : (plant.device? entity).map (fun device =>
      (device.currentMode, device.standingMode, device.offset.oneDecimal,
        decide
          (((Form.entity .circuit (some modes)).fill (entityTexts (device.snapshot entity))
            []).SentBack (submittedTexts post.body)))) = some (2, 2, "1.2", true) := by
    decide +kernel
  obtain ⟨device, hdevice, hstate⟩ := Option.map_eq_some_iff.mp hdevice
  simp only [Prod.mk.injEq, decide_eq_true_eq] at hstate
  obtain ⟨hmode, hstanding, hoffset, hsent⟩ := hstate
  obtain ⟨page, -, -, hform, hsaved⟩ :=
    hentity .demo (.ofPlant plant) get post .circuit "0" context entity (some modes) device
      (Simulated.Reachable.demo.afterAll _) hworks rfl hroute haddressed hrunModes hdevice
  rw [← hform] at hsent
  obtain ⟨hstatus, -, hkept⟩ := hsaved rfl hagain (by decide +kernel) hsent
  have hredirected : served.1.1.status = 303 := by decide +kernel
  obtain ⟨saved, hafter, hresaved, -, -⟩ := hkept (hstatus.mp hredirected)
  have hcleared : saved.overrideMode = none := by
    rw [← Option.not_isSome_iff_eq_none, hresaved.override]
    intro hactive
    exact hactive.2 rfl (hmode.trans hstanding.symm)
  obtain ⟨hiff, hchange⟩ := hsystem [⟨1, "Heating"⟩] 129 sent (by decide +kernel)
  obtain ⟨values, hvalues⟩ := hiff.mpr ⟨⟨1, "Heating"⟩, by simp, by decide⟩
  obtain ⟨change, hchange, hcomposite, -⟩ := hchange values hvalues
  refine ⟨hredirected, ⟨saved, hafter, hresaved.currentMode.trans hmode, hcleared, ?_⟩,
    values, change, hvalues, hchange, hcomposite⟩
  rw [← hoffset]
  exact hresaved.offset

end Web

end HeatingPortal
