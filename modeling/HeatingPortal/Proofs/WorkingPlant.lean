import HeatingPortal.Proofs.Sessions
import Mathlib.Data.List.Forall2

/-!
# What a working plant shows

On a plant where no operation is made to fail, a call that only reads is answered from the state,
so what a page shows can be computed. `Task.Yields` says of a task that it ends with a given
value and leaves the plant alone; the pages of an entity and of the system mode are such values.
-/

namespace HeatingPortal

/-! ### Tasks that yield a value -/

namespace Plant

variable {α β ε : Type}

/-- A run of a task ends with a value and leaves the plant in some state. -/
def Task.Finishes (task : Task ε α) (plant : Simulated) (value : α) (after : Simulated) : Prop :=
  Simulated.run task.run plant = (.ok value, after)

/-- A run of a task ends with a value and leaves the plant as it is. -/
def Task.Yields (task : Task ε α) (plant : Simulated) (value : α) : Prop :=
  Simulated.run task.run plant = (.ok value, plant)

/-- A run of a task stops with an error and leaves the plant as it is. -/
def Task.Stops (task : Task ε α) (plant : Simulated) (error : ε) : Prop :=
  Simulated.run task.run plant = (.error error, plant)

namespace Task

variable {task : Task ε α} {f : α → Task ε β} {plant middle after : Simulated} {value : α}
  {result : β}

lemma Finishes.bind (h : Finishes task plant value middle)
    (hrest : Finishes (f value) middle result after) :
    Finishes (task >>= f) plant result after := by
  refine (Simulated.run_bind task.run _ plant).trans ?_
  rw [h]
  exact hrest

lemma finishes_pure (value : α) (plant : Simulated) :
    Finishes (pure value : Task ε α) plant value plant := rfl

lemma finishes_ofPlant {cause : Task Failure α} {error : Failure → ε}
    (h : Finishes cause plant value after) :
    Finishes (ofPlant error cause) plant value after := by
  refine (Simulated.run_bind cause.run _ plant).trans ?_
  rw [h]
  rfl

lemma Yields.finishes (h : Yields task plant value) : Finishes task plant value plant := h

lemma Yields.bind (h : Yields task plant value) (hrest : Yields (f value) plant result) :
    Yields (task >>= f) plant result :=
  h.finishes.bind hrest

lemma yields_pure (value : α) (plant : Simulated) :
    Yields (pure value : Task ε α) plant value := rfl

lemma yields_ofExcept {known : Except ε α} (h : known = .ok value) (plant : Simulated) :
    Yields (ofExcept known) plant value := by
  rw [h]
  rfl

lemma yields_lift {program : Program α} (h : Simulated.run program plant = (value, plant)) :
    Yields (ExceptT.lift program : Task ε α) plant value := by
  refine (Simulated.run_bind program _ plant).trans ?_
  rw [h]
  rfl

lemma yields_ofPlant {cause : Task Failure α} {error : Failure → ε}
    (h : Yields cause plant value) :
    Yields (ofPlant error cause) plant value :=
  finishes_ofPlant h.finishes

/-- A task yields a value for every item of a list when it does so for each of them. -/
lemma exists_yields_mapM {δ : Type} {f : δ → Task ε α} {post : δ → α → Prop} {items : List δ}
    (h : ∀ item ∈ items, ∃ value, post item value ∧ Yields (f item) plant value) :
    ∃ values, List.Forall₂ post items values ∧ Yields (items.mapM f) plant values := by
  induction items with
  | nil => exact ⟨[], .nil, yields_pure [] plant⟩
  | cons item rest ih =>
    obtain ⟨⟨value, hvalue, hitem⟩, hrest⟩ := List.forall_mem_cons.mp h
    obtain ⟨values, hvalues, hyields⟩ := ih hrest
    refine ⟨value :: values, .cons hvalue hvalues, ?_⟩
    rw [List.mapM_cons]
    exact hitem.bind (hyields.bind (yields_pure _ plant))

lemma stops_ofExcept_bind {known : Except ε α} {error : ε} (h : known = .error error)
    (f : α → Task ε β) (plant : Simulated) : Stops (ofExcept known >>= f) plant error := by
  rw [h]
  rfl

/-- A task that only reads and cannot fail yields a value. -/
lemma Reads.exists_yields {good : α → Prop} (h : Reads task good fun _ => False)
    (plant : Simulated) : ∃ value, good value ∧ Yields task plant value := by
  have hends := h.ends plant
  unfold Task.Ends Program.Ends at hends
  cases hrun : Simulated.run task.run plant with
  | mk outcome after =>
    rw [hrun] at hends
    cases outcome with
    | error error => exact absurd hends.1 id
    | ok value =>
      obtain ⟨hgood, rfl, -⟩ := hends
      exact ⟨value, hgood, hrun⟩

end Task

lemma Operation.yields_send (operation : Operation) {plant : Simulated} {reply : operation.Reply}
    (hread : operation.isWrite = false) (h : (plant.answer operation).1 = .ok reply) :
    Task.Yields operation.send plant reply :=
  Prod.ext h (Simulated.answer_snd_of_read plant hread)

/-! ### Plants without failures -/

namespace Simulated

/-- The plant after all its failures are gone. -/
def repaired (plant : Simulated) : Simulated :=
  { plant with fails := fun _ => false }

/-- A plant where no operation is made to fail. -/
def Works (plant : Simulated) : Prop :=
  ∀ label, plant.fails label = false

lemma works_repaired (plant : Simulated) : plant.repaired.Works := fun _ => rfl

variable {plant : Simulated} {entity : Entity} {device : Device}

lemma Works.guarded_eq (h : plant.Works) {operation : Operation} (answer : Answer operation) :
    plant.guarded operation answer = answer :=
  if_neg (by simp [h operation.label])

lemma Works.read_eq (h : plant.Works) (hdevice : plant.device? entity = some device)
    {operation : Operation} (f : Device → operation.Reply) :
    (plant.read operation entity f).1 = .ok (f device) := by
  simp only [read, h.guarded_eq, hdevice]

end Simulated

/-- The state of an entity as its device has it. -/
def Device.snapshot (entity : Entity) (device : Device) : Snapshot where
  entity
  name := device.name
  standingMode := device.standingMode
  currentMode := device.currentMode
  overrideActive := device.overrideMode.isSome
  offset := device.offset
  setpoints := device.setpoints
  hasAmbientSensor := device.hasAmbientSensor

variable {plant : Simulated} {entity : Entity} {device : Device}

/-- What is read from a device is what it has. -/
lemma yields_send_of_read (h : plant.Works) (hdevice : plant.device? entity = some device)
    (operation : Operation) (f : Device → operation.Reply) (hread : operation.isWrite = false)
    (hanswer : (plant.answer operation).1 = (plant.read operation entity f).1) :
    Task.Yields operation.send plant (f device) :=
  operation.yields_send hread (hanswer.trans (h.read_eq hdevice f))

lemma yields_fetch (h : plant.Works) (hdevice : plant.device? entity = some device) :
    Task.Yields (Snapshot.fetch entity) plant (device.snapshot entity) := by
  have hsend := yields_send_of_read h hdevice
  refine (hsend (.name entity) (·.name) rfl rfl).bind ?_
  refine (hsend (.standingMode entity) (·.standingMode) rfl rfl).bind ?_
  refine (hsend (.currentMode entity) (·.currentMode) rfl rfl).bind ?_
  refine (hsend (.overrideActive entity) (·.overrideMode.isSome) rfl rfl).bind ?_
  refine (hsend (.offset entity) (·.offset) rfl rfl).bind ?_
  refine (hsend (.setpoints entity) (·.setpoints) rfl rfl).bind ?_
  refine (hsend (.hasAmbientSensor entity) (·.hasAmbientSensor) rfl rfl).bind ?_
  exact Task.yields_pure _ plant

lemma yields_readSystemMode (hmode : plant.fails "system_mode" = false)
    (hflag : plant.fails "suppress_flag" = false) :
    Task.Yields readSystemMode plant (compose plant.primary plant.suppress) := by
  have hprimary : (plant.answer .systemMode).1 = .ok plant.primary :=
    Simulated.guarded_eq_ok_iff.mpr ⟨hmode, rfl⟩
  have hsuppress : (plant.answer .suppressFlag).1 = .ok plant.suppress :=
    Simulated.guarded_eq_ok_iff.mpr ⟨hflag, rfl⟩
  refine (Operation.yields_send .systemMode rfl hprimary).bind ?_
  refine (Operation.yields_send .suppressFlag rfl hsuppress).bind ?_
  exact Task.yields_pure _ plant

end Plant

/-! ### Pages -/

namespace Web

open Caller Form Plant Settings

section

variable {settings : Settings} {caller : Identity} {plant : Simulated}

lemma yields_showEntity {kind : Kind} {id : String} {context : EntityContext} {entity : Entity}
    {device : Device} (h : plant.Works)
    (haddressed : addressed settings caller kind id = .ok (context, entity))
    (hdevice : plant.device? entity = some device) :
    Task.Yields (showEntity settings caller kind id) plant
      (.ofResponse <| .plain 200 <| .entity {
      tier := .of settings caller
      entity
      form := (Form.entity kind context.runModes).fill (entityTexts (device.snapshot entity)) []
      state := some (device.snapshot entity) }) := by
  refine (Task.yields_ofExcept haddressed plant).bind ?_
  refine (Task.yields_ofPlant (yields_fetch h hdevice)).bind ?_
  exact Task.yields_pure _ plant

/-- The entities of a list are there with their names, in the order of the list. -/
lemma exists_yields_listEntities {kind : Kind} {context : EntityContext} (h : plant.Works)
    (hcontext : EntityContext.of settings caller kind = .ok context)
    (hdevices : ∀ entity ∈ context.visible, (plant.device? entity).isSome = true) :
    ∃ entities, entities.map (·.entity) = context.visible ∧
      Task.Yields (listEntities settings caller kind) plant
        (.ofResponse (.plain 200 (.entities ⟨kind, .of settings caller, entities⟩))) := by
  obtain ⟨entities, hentities, hyields⟩ :
      ∃ entities : List Listed, List.Forall₂ (fun entity listed => listed.entity = entity)
        context.visible entities ∧
        Task.Yields (context.visible.mapM readListed) plant entities := by
    refine Task.exists_yields_mapM fun entity hmem => ?_
    obtain ⟨device, hdevice⟩ := Option.isSome_iff_exists.mp (hdevices entity hmem)
    refine ⟨⟨entity, device.name⟩, rfl, ?_⟩
    exact (yields_send_of_read h hdevice (.name entity) (·.name) rfl rfl).bind
      (Task.yields_pure _ plant)
  refine ⟨entities, ?_, ?_⟩
  · rw [← List.forall₂_eq_eq_eq, List.forall₂_map_left_iff]
    exact hentities.flip
  · refine (Task.yields_ofExcept hcontext plant).bind ?_
    refine (Task.yields_ofPlant hyields).bind ?_
    exact Task.yields_pure _ plant

/-- The reading of a sensor, as far as a plant has it. -/
def readingIn (plant : Simulated) (sensor : Sensor) : Reading where
  sensor
  temperature := if plant.fails "temperature" then none else plant.temperature? sensor.id

/-- Why a sensor without a reading cannot be read. -/
def sensorFailure (plant : Simulated) (sensor : Sensor) : Failure :=
  if plant.fails "temperature" then
    (Operation.temperature sensor.id).failure .unavailable "injected failure"
  else (Operation.temperature sensor.id).failure .rejected "no such sensor"

/-- The warnings for the readings that are missing, in their order. -/
def unreadWarnings (plant : Simulated) (readings : List Reading) : List Warning :=
  (readings.filter (·.temperature.isNone)).map fun reading =>
    .sensorUnread (sensorFailure plant reading.sensor)

lemma readingOf_answer (plant : Simulated) (sensor : Sensor) :
    readingOf sensor (plant.answer (.temperature sensor.id)).1 =
      (readingIn plant sensor, unreadWarnings plant [readingIn plant sensor]) := by
  cases hfails : plant.fails "temperature" with
  | true =>
    simp [Simulated.answer, Simulated.guarded, Operation.label, readingOf, readingIn,
      unreadWarnings, sensorFailure, hfails]
  | false =>
    cases hreading : plant.temperature? sensor.id <;>
      simp [Simulated.answer, Simulated.guarded, Operation.label, readingOf, readingIn,
        unreadWarnings, sensorFailure, hfails, hreading]

lemma unreadWarnings_cons (plant : Simulated) (reading : Reading) (rest : List Reading) :
    unreadWarnings plant (reading :: rest) =
      unreadWarnings plant [reading] ++ unreadWarnings plant rest := by
  rw [unreadWarnings, ← List.singleton_append, List.filter_append, List.map_append]
  rfl

/-- Sensors are read one by one, and none of them keeps the others from being read. -/
lemma run_readSensors (visible : List Sensor) (plant : Simulated) :
    Simulated.run (readSensors visible) plant =
      ((visible.map (readingIn plant), unreadWarnings plant (visible.map (readingIn plant))),
        plant) := by
  induction visible with
  | nil => rfl
  | cons sensor rest ih =>
    have hsend : Simulated.run (Operation.temperature sensor.id).send.run plant =
        ((plant.answer (.temperature sensor.id)).1, plant) := rfl
    refine (Simulated.run_bind (Operation.temperature sensor.id).send.run _ plant).trans ?_
    rw [hsend]
    dsimp only
    rw [readingOf_answer]
    refine (Simulated.run_bind (readSensors rest) _ plant).trans ?_
    rw [ih, List.map_cons, unreadWarnings_cons plant _ (rest.map (readingIn plant))]
    rfl

/-- The readings may be missing, and then there are warnings, but the page is there. -/
lemma yields_showSystemMode {modes : List Choice} {visible : List Sensor}
    (hmode : plant.fails "system_mode" = false) (hflag : plant.fails "suppress_flag" = false)
    (hmodes : systemModes settings caller = .ok modes)
    (hsensors : sensors settings caller = .ok visible) :
    Task.Yields (showSystemMode settings caller) plant ⟨.plain 200 <| .system {
      caller
      tier := .of settings caller
      mode := some (compose plant.primary plant.suppress)
      form := (Form.system modes).fill (systemTexts (compose plant.primary plant.suppress)) []
      readings := visible.map (readingIn plant) },
      unreadWarnings plant (visible.map (readingIn plant)), none⟩ := by
  refine (Task.yields_ofExcept hmodes plant).bind ?_
  refine (Task.yields_ofExcept hsensors plant).bind ?_
  refine (Task.yields_ofPlant (yields_readSystemMode hmode hflag)).bind ?_
  refine (Task.yields_lift (run_readSensors visible plant)).bind ?_
  exact Task.yields_pure _ plant

lemma exists_yields_showSystemMode {modes : List Choice} {visible : List Sensor}
    (h : plant.Works) (hmodes : systemModes settings caller = .ok modes)
    (hsensors : sensors settings caller = .ok visible) :
    ∃ readings warnings, Task.Yields (showSystemMode settings caller) plant
      ⟨.plain 200 <| .system {
      caller
      tier := .of settings caller
      mode := some (compose plant.primary plant.suppress)
      form := (Form.system modes).fill (systemTexts (compose plant.primary plant.suppress)) []
      readings }, warnings, none⟩ :=
  ⟨_, _, yields_showSystemMode (h _) (h _) hmodes hsensors⟩

end

/-- What serving a request does is decided by the run of its handler, if nothing is published. -/
lemma World.serve_of_finishes {portal : Portal} {world : World} {request : Request}
    {route : Route} {outcome : Outcome} {after : Simulated} {response : Response}
    {warnings : List Warning} (hroute : Portal.accept request = .ok route)
    (h : Task.Finishes (portal.handle request route) world.plant outcome after)
    (houtcome : Portal.cut request.method outcome = ⟨response, warnings, none⟩) :
    world.serve portal request = ((response, warnings), ⟨after, world.sink⟩) := by
  have hserve : Simulated.run (portal.serve request) world.plant =
      (⟨response, warnings, none⟩, after) := by
    simp only [Portal.serve, hroute]
    refine (Simulated.run_bind _ _ world.plant).trans ?_
    rw [h, ← houtcome]
    rfl
  have hpublished : world.commit none = ([], world) := rfl
  rw [World.serve_eq, World.outcome, hserve, hpublished, List.append_nil]

/-- Reading a page answers with it, and leaves the world as it is. -/
lemma serve_of_yields (portal : Portal) (world : World) {request : Request} {route : Route}
    {status : Nat} {document : Document} {warnings : List Warning} (hget : request.method = .get)
    (hroute : Portal.accept request = .ok route)
    (h : Task.Yields (Portal.view portal.settings (portal.caller request) route) world.plant
      ⟨.plain status document, warnings, none⟩) :
    world.serve portal request = ((.plain status document, warnings), world) := by
  rw [← handle_of_get hget route] at h
  apply World.serve_of_finishes hroute h.finishes
  rw [hget]
  rfl

lemma response_of_yields (portal : Portal) (world : World) {request : Request} {route : Route}
    {status : Nat} {document : Document} {warnings : List Warning} (hget : request.method = .get)
    (hroute : Portal.accept request = .ok route)
    (h : Task.Yields (Portal.view portal.settings (portal.caller request) route) world.plant
      ⟨.plain status document, warnings, none⟩) :
    (world.serve portal request).1.1 = .plain status document := by
  rw [serve_of_yields portal world hget hroute h]

/-- Reading what cannot be shown answers with the error. -/
lemma response_of_stops (portal : Portal) (world : World) {request : Request} {route : Route}
    {error : Error} (hget : request.method = .get) (hroute : Portal.accept request = .ok route)
    (h : Task.Stops (Portal.view portal.settings (portal.caller request) route)
      world.plant error) :
    (world.serve portal request).1.1 = .ofError error := by
  rw [← handle_of_get hget route] at h
  have hserve : Simulated.run (portal.serve request) world.plant =
      (.ofError error, world.plant) := by
    simp only [Portal.serve, hroute]
    refine (Simulated.run_bind _ _ world.plant).trans ?_
    rw [h, hget]
    rfl
  rw [World.serve_eq, World.outcome, hserve]
  rfl

end Web

end HeatingPortal
