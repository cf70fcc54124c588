import HeatingPortal.Proofs.Addresses
import HeatingPortal.Proofs.LoadedSettings
import HeatingPortal.Proofs.Refusals
import HeatingPortal.Proofs.WorkingPlant

/-!
# What decides a request

A request that passes the checks of the settings, the id and the form has a list of calls,
and nothing else decides it. It succeeds when the plant refuses none of them; otherwise its
answer reports the first refused one, as a failure of the plant or, behind a write, as a
change left half done.
-/

namespace HeatingPortal

open Caller Form Plant Settings

/-! ### Errors of refused calls -/

namespace Plant

/-- The error of the first refused call: a write before it took effect. -/
def Refusal.error (refusal : Refusal) : Error :=
  match refusal.before.find? (·.isWrite) with
  | some write => .halfDone write.label refusal.call.label refusal.failure
  | none => .plant refusal.failure

variable {refusal : Refusal}

lemma Refusal.error_of_none (h : refusal.before.find? (·.isWrite) = none) :
    refusal.error = .plant refusal.failure := by
  rw [error, h]

lemma Refusal.error_of_some {write : Operation}
    (h : refusal.before.find? (·.isWrite) = some write) :
    refusal.error = .halfDone write.label refusal.call.label refusal.failure := by
  rw [error, h]

/-- Calls that read took no effect. -/
lemma Refusal.error_behind {calls : List Operation}
    (hreads : ∀ call ∈ calls, call.isWrite = false) (refusal : Refusal) :
    (refusal.behind calls).error = refusal.error := by
  have hnone : calls.find? (·.isWrite) = none := by simpa using hreads
  simp only [error, behind, List.find?_append, hnone, Option.none_or]

namespace Task

variable {α : Type} {plant : Simulated} {calls : List Operation} {good : α → Prop}
  {task : Task Failure α}

/-- Where all calls read, none of them took effect. -/
lemma makes_ofPlant_of_reads (h : Makes task plant calls good (·.failure))
    (hreads : ∀ call ∈ calls, call.isWrite = false) :
    Makes (ofPlant Error.plant task) plant calls good Refusal.error := by
  apply (makes_ofPlant h).mono (fun _ hgood => hgood)
  rintro refusal after rfl
  rw [Refusal.error_of_none]
  rw [List.find?_eq_none]
  intro call hmem
  simp [hreads call (List.mem_append_left _ hmem)]

end Task

/-! ### The tasks of the plant -/

variable (plant : Simulated) (entity : Entity)

lemma makes_readSystemMode :
    Task.Makes readSystemMode plant [.systemMode, .suppressFlag] (fun _ => True)
      (·.failure) := by
  refine (Operation.systemMode.makes_send plant).bind fun _ after _ _ => ?_
  exact (Operation.suppressFlag.makes_send after).map fun _ _ => trivial

/-- The calls that read the state of an entity. -/
def snapshotCalls (entity : Entity) : List Operation :=
  [.name entity, .standingMode entity, .currentMode entity, .overrideActive entity,
    .offset entity, .setpoints entity, .hasAmbientSensor entity]

lemma makes_fetch :
    Task.Makes (Snapshot.fetch entity) plant (snapshotCalls entity) (fun _ => True)
      (·.failure) := by
  unfold Snapshot.fetch
  refine ((Operation.name entity).makes_send plant).bind fun _ plant _ _ => ?_
  refine ((Operation.standingMode entity).makes_send plant).bind fun _ plant _ _ => ?_
  refine ((Operation.currentMode entity).makes_send plant).bind fun _ plant _ _ => ?_
  refine ((Operation.overrideActive entity).makes_send plant).bind fun _ plant _ _ => ?_
  refine ((Operation.offset entity).makes_send plant).bind fun _ plant _ _ => ?_
  refine ((Operation.setpoints entity).makes_send plant).bind fun _ plant _ _ => ?_
  exact ((Operation.hasAmbientSensor entity).makes_send plant).map fun _ _ => trivial

/-- The second write follows one that took effect. -/
lemma makes_applyMode (change : SystemModeChange) :
    Task.Makes change.apply plant
      [.setSystemMode change.primary, .setSuppressFlag change.suppress] (fun _ => True)
      Refusal.error := by
  have hmode (failure : Failure) : Error.plant failure =
      Refusal.error ⟨[], .setSystemMode change.primary, failure⟩ := rfl
  have hflag (failure : Failure) : Error.halfDone "set_system_mode" "set_suppress_flag" failure =
      Refusal.error (.behind [.setSystemMode change.primary]
        ⟨[], .setSuppressFlag change.suppress, failure⟩) := rfl
  refine ((Operation.setSystemMode change.primary).makes_ofPlant_send hmode plant).bind
    fun _ after _ _ => ?_
  exact ((Operation.setSuppressFlag change.suppress).makes_ofPlant_send hflag after).map
    fun _ _ => trivial

lemma SystemModeChange.eq_of_ofCode {code : Int64} {suppress : Bool} {change : SystemModeChange}
    (h : ofCode code suppress = .ok change) : change = ⟨.ofNat code.toInt.toNat, suppress⟩ := by
  unfold ofCode at h
  split_ifs at h
  exact (Except.ok.inj h).symm

/-- The calls that plan an override: only one that is wanted depends on the standing mode. -/
def planCalls (entity : Entity) : Option OverrideRequest → List Operation
  | some ⟨_, true⟩ => [.standingMode entity]
  | some ⟨_, false⟩ | none => []

lemma isWrite_of_mem_planCalls {request : Option OverrideRequest} :
    ∀ call ∈ planCalls entity request, call.isWrite = false := by
  match request with
  | none | some ⟨_, false⟩ => simp [planCalls]
  | some ⟨_, true⟩ => simp [planCalls, Operation.isWrite]

lemma makes_build (offset : Option Number.Binary64) (request : Option OverrideRequest) :
    Task.Makes (ChangePlan.build entity offset request) plant (planCalls entity request)
      (fun plan => plan.entity = entity ∧ plan.offset = offset ∧
        Planned plant entity request plan.override) (·.failure) := by
  have hplan : Task.Makes (ChangePlan.planOverride entity request) plant
      (planCalls entity request) (Planned plant entity request) (·.failure) := by
    match request with
    | none => exact Task.makes_pure .nothing plant
    | some ⟨mode, false⟩ => exact Task.makes_pure (.dropped rfl) plant
    | some ⟨mode, true⟩ =>
      refine ((Operation.standingMode entity).makes_send plant).map fun standing hanswer => ?_
      obtain ⟨device, hdevice, rfl⟩ := Simulated.exists_device_of_read hanswer
      exact .reconciled rfl hdevice
  exact hplan.map fun _ hplanned => ⟨rfl, rfl, hplanned⟩

/-- The override follows an offset that took effect. -/
lemma makes_applyPlan {plan : ChangePlan} {offset : Number.Binary64}
    (hoffset : plan.offset = some offset) :
    Task.Makes plan.apply plant
      (.setOffset plan.entity offset ::
        (plan.override.map (OverridePlan.operation plan.entity)).toList)
      (fun _ => True) Refusal.error := by
  have hset (failure : Failure) : Error.plant failure =
      Refusal.error ⟨[], .setOffset plan.entity offset, failure⟩ := rfl
  unfold ChangePlan.apply
  rw [hoffset]
  refine ((Operation.setOffset plan.entity offset).makes_ofPlant_send hset plant).bind
    fun _ after _ _ => ?_
  cases hoverride : plan.override with
  | none => exact Task.makes_pure trivial after
  | some call =>
    have herror (failure : Failure) : plan.overrideError call failure =
        Refusal.error (.behind [.setOffset plan.entity offset]
          ⟨[], call.operation plan.entity, failure⟩) := by
      simp only [ChangePlan.overrideError, hoffset]
      rfl
    cases call with
    | set mode =>
      exact ((Operation.setOverride plan.entity mode).makes_ofPlant_send herror after).mono
        (fun _ _ => trivial) fun _ _ _ => rfl
    | clear =>
      exact ((Operation.clearOverride plan.entity).makes_ofPlant_send herror after).mono
        (fun _ _ => trivial) fun _ _ _ => rfl

end Plant

namespace Web

/-! ### Lists of calls -/

/-- The call for the override that a submission chooses; one that holds anyway is not set. -/
def overrideCall (plant : Simulated) (entity : Entity) (request : OverrideRequest) : Operation :=
  if request.wanted && !(plant.device? entity).any (·.standingMode = request.mode) then
    .setOverride entity request.mode
  else .clearOverride entity

/-- The calls of accepted values for an entity: the override is called only where run modes are
on offer, and the standing mode is read only if the override is ticked. -/
def changeCalls? (plant : Simulated) (entity : Entity) (runModes : Option (List Choice))
    (values : Values) : Option (List Operation) := do
  let offset ← values.decimal? offsetKey
  if runModes.isNone then
    return [.setOffset entity offset]
  else
    let request : OverrideRequest := ⟨← values.choice? runModeKey, values.isChecked overrideKey⟩
    return planCalls entity (some request) ++
      [.setOffset entity offset, overrideCall plant entity request]

/-- The calls that decide the reading of a route, for a caller who may read it. The
state of the portal is told whether or not the plant can be read, and sensors are read
whether or not they answer. -/
def viewCalls? (settings : Settings) (caller : Identity) : Route → Option (List Operation)
  | .system => (systemModes settings caller).toOption.map fun _ => [.systemMode, .suppressFlag]
  | .entities kind =>
    (EntityContext.of settings caller kind).toOption.map fun context => context.visible.map .name
  | .entity kind id =>
    (addressed settings caller kind id).toOption.map fun found => snapshotCalls found.2
  | .manifest => (showManifest settings).toOption.map fun _ => []
  | .status => some []

/-- The calls of a submission that its form accepts. -/
def submitCalls? (settings : Settings) (caller : Identity) (plant : Simulated)
    (submission : Texts) : Route → Option (List Operation)
  | .system => do
    let modes ← (systemModes settings caller).toOption
    let values ← ((Form.system modes).validate submission).toOption
    let code ← values.choice? modeKey
    return [.setSystemMode (.ofNat code.toInt.toNat),
      .setSuppressFlag (values.isChecked suppressKey)]
  | .entity kind id => do
    let (context, entity) ← (addressed settings caller kind id).toOption
    let values ← ((Form.entity kind context.runModes).validate submission).toOption
    changeCalls? plant entity context.runModes values
  | .entities _ | .manifest | .status => none

/-- The calls that decide a request, if it passes all checks. -/
def Portal.calls? (portal : Portal) (request : Request) (plant : Simulated) :
    Option (List Operation) := do
  let route ← (Portal.accept request).toOption
  if request.method = .post then
    submitCalls? portal.settings (portal.caller request) plant
      (submittedTexts request.body) route
  else
    viewCalls? portal.settings (portal.caller request) route

/-! ### Handlers -/

/-- An answer that blames the client. -/
def IsClientError (response : Response) : Prop :=
  400 ≤ response.status ∧ response.status < 500

/-- A response that a request succeeded. -/
def IsSuccess (response : Response) : Prop :=
  response.status = 200 ∨ response.status = 303

/-- What decides a task: it is refused without regard to the plant, or it makes
the calls of a list. -/
inductive Decided (task : Task Error Outcome) (plant : Simulated) :
    Option (List Operation) → Prop
  | refused (h : IsClientError (Outcome.ofExcept (Simulated.run task.run plant).1).response) :
      Decided task plant none
  | calls {calls : List Operation}
      (h : Task.Makes task plant calls (fun outcome => IsSuccess outcome.response)
        Refusal.error) :
      Decided task plant (some calls)

section

variable {settings : Settings} {caller : Identity} {kind : Kind} {plant : Simulated}

lemma decided_of_error {α : Type} {known : Except Error α} {error : Error}
    (h : known = .error error) (hstatus : 400 ≤ error.status ∧ error.status < 500)
    (f : α → Task Error Outcome) :
    Decided (Task.ofExcept known >>= f) plant none := by
  have hstops := Task.stops_ofExcept_bind h f plant
  rw [Task.Stops] at hstops
  apply Decided.refused
  rw [hstops]
  exact hstatus

lemma decided_of_ok {α : Type} {known : Except Error α} {value : α} (h : known = .ok value)
    {f : α → Task Error Outcome} {calls? : Option (List Operation)}
    (hrest : Decided (f value) plant calls?) :
    Decided (Task.ofExcept known >>= f) plant calls? := by
  rw [h]
  exact hrest

/-- A rejected submission is shown again, whatever the plant tells meanwhile. -/
lemma decided_of_rejection {program : Program Outcome}
    (h : IsClientError (Simulated.run program plant).1.response) :
    Decided (ExceptT.lift program) plant none := by
  apply Decided.refused
  rwa [Task.fst_run_lift]

section

variable (form : Form) (submission : Texts) (rejections : Rejections) (plant : Simulated)

lemma clientError_showRejectedMode : IsClientError (Simulated.run
    (showRejectedMode settings caller form submission rejections) plant).1.response := by
  have hrun : Simulated.run (showRejectedMode settings caller form submission rejections)
      plant = _ :=
    Simulated.run_bind readSystemMode.run _ plant
  have hstatus : 400 ≤ 422 ∧ 422 < 500 := by decide
  rw [hrun]
  exact hstatus

lemma clientError_showRejectedEntity (entity : Entity) : IsClientError (Simulated.run
    (showRejectedEntity settings caller entity form submission rejections)
      plant).1.response := by
  have hrun : Simulated.run
      (showRejectedEntity settings caller entity form submission rejections)
      plant = _ := Simulated.run_bind (Snapshot.fetch entity).run _ plant
  have hstatus : 400 ≤ 422 ∧ 422 < 500 := by decide
  rw [hrun]
  exact hstatus

end

lemma clientError_of_addressed (hsound : settings.Sound) {id : String} {error : Error}
    (h : addressed settings caller kind id = .error error) :
    400 ≤ error.status ∧ error.status < 500 := by
  rcases bind_eq_error h with hcontext | ⟨context, -, h⟩
  · rw [disabled_of_context hsound hcontext]
    simp [Error.status]
  rcases bind_eq_error h with haddress | ⟨entity, -, h⟩
  · have haddressed := addressed_address context id
    rw [haddress] at haddressed
    cases haddressed with
    | unknown | malformed => simp [Error.status]
  · cases h

lemma decided_showSystemMode (hsound : settings.Sound) (caller : Identity) (plant : Simulated) :
    Decided (showSystemMode settings caller) plant (viewCalls? settings caller .system) := by
  cases hmodes : systemModes settings caller with
  | error error =>
    rw [viewCalls?, hmodes]
    refine decided_of_error hmodes ?_ _
    rw [disabled_of_systemModes hsound hmodes]
    decide
  | ok modes =>
    obtain ⟨visible, hsensors⟩ := exists_sensors hsound caller
    rw [viewCalls?, hmodes]
    refine .calls (Task.makes_ofExcept_bind hmodes ?_)
    refine Task.makes_ofExcept_bind hsensors ?_
    refine (Task.makes_ofPlant_of_reads (makes_readSystemMode plant)
      (by simp [Operation.isWrite])).bind fun mode after _ _ => ?_
    have hread : Task.Makes (ExceptT.lift (readSensors visible)) after [] (fun _ => True)
        fun refusal => Refusal.error (refusal.behind [.systemMode, .suppressFlag]) :=
      Task.makes_lift trivial
    exact hread.map fun _ _ => .inl rfl

lemma decided_listEntities (hsound : settings.Sound) (caller : Identity) (kind : Kind)
    (plant : Simulated) :
    Decided (listEntities settings caller kind) plant
      (viewCalls? settings caller (.entities kind)) := by
  cases hcontext : EntityContext.of settings caller kind with
  | error error =>
    rw [viewCalls?, hcontext]
    refine decided_of_error hcontext ?_ _
    rw [disabled_of_context hsound hcontext]
    simp [Error.status]
  | ok context =>
    have hlisted (entity : Entity) (plant : Simulated) :
        Task.Makes (readListed entity) plant [.name entity] (fun _ => True) (·.failure) :=
      ((Operation.name entity).makes_send plant).map fun _ _ => trivial
    rw [viewCalls?, hcontext]
    refine .calls (Task.makes_ofExcept_bind hcontext ?_)
    refine (Task.makes_ofPlant_of_reads (Task.makes_mapM hlisted context.visible plant) ?_).map
      fun _ _ => .inl rfl
    simp [Operation.isWrite]

lemma decided_showEntity (hsound : settings.Sound) (caller : Identity) (kind : Kind)
    (id : String) (plant : Simulated) :
    Decided (showEntity settings caller kind id) plant
      (viewCalls? settings caller (.entity kind id)) := by
  cases haddressed : addressed settings caller kind id with
  | error error =>
    rw [viewCalls?, haddressed]
    exact decided_of_error haddressed (clientError_of_addressed hsound haddressed) _
  | ok found =>
    obtain ⟨context, entity⟩ := found
    rw [viewCalls?, haddressed]
    refine .calls (Task.makes_ofExcept_bind haddressed ?_)
    refine (Task.makes_ofPlant_of_reads (makes_fetch plant entity) ?_).map fun _ _ => .inl rfl
    simp [snapshotCalls, Operation.isWrite]

/-- The manifest and the state of the portal need no call to succeed. -/
lemma decided_view (hsound : settings.Sound) (caller : Identity) (plant : Simulated)
    (route : Route) :
    Decided (Portal.view settings caller route) plant (viewCalls? settings caller route) := by
  cases route with
  | system => exact decided_showSystemMode hsound caller plant
  | entities kind => exact decided_listEntities hsound caller kind plant
  | entity kind id => exact decided_showEntity hsound caller kind id plant
  | manifest =>
    rw [viewCalls?, Portal.view, showManifest]
    cases settings.nonemptyText? Settings.appTitle with
    | none =>
      have herror : IsClientError (.ofError (.disabled Settings.appTitle)) :=
        ⟨by decide, by decide⟩
      exact .refused herror
    | some title => exact .calls ⟨_, .inl rfl, rfl⟩
  | status =>
    have hrun : Simulated.run showStatus plant = _ :=
      Simulated.run_bind readSystemMode.run _ plant
    have hstatus : IsSuccess (Simulated.run showStatus plant).1.response := by
      rw [hrun]
      exact .inl rfl
    exact .calls (Task.makes_lift hstatus)

lemma decided_submitSystemMode (hsound : settings.Sound) (caller : Identity) (submission : Texts)
    (plant : Simulated) :
    Decided (submitSystemMode settings caller submission) plant
      (submitCalls? settings caller plant submission .system) := by
  cases hmodes : systemModes settings caller with
  | error error =>
    rw [submitCalls?, hmodes]
    refine decided_of_error hmodes ?_ _
    rw [disabled_of_systemModes hsound hmodes]
    decide
  | ok modes =>
    simp only [submitCalls?, hmodes, Except.toOption, Option.bind_eq_bind, Option.bind_some]
    refine decided_of_ok hmodes ?_
    dsimp only
    cases hvalues : (Form.system modes).validate submission with
    | error rejections =>
      exact decided_of_rejection (clientError_showRejectedMode _ submission rejections plant)
    | ok values =>
      obtain ⟨code, change, hcode, hchange⟩ := hsound.exists_change hmodes hvalues
      have hmode : modeChange values = .ok change := by
        rw [modeChange, hcode]
        exact hchange
      obtain rfl := SystemModeChange.eq_of_ofCode hchange
      dsimp only [Option.bind_some]
      rw [hcode]
      exact decided_of_ok hmode (.calls ((makes_applyMode plant _).map fun _ _ => .inr rfl))

/-- What is planned for the override is called as the submission asks for it. -/
lemma map_operation_of_planned {entity : Entity} {request : Option OverrideRequest}
    {plan : Option OverridePlan} (h : Planned plant entity request plan) :
    plan.map (OverridePlan.operation entity) = request.map (overrideCall plant entity) := by
  cases h with
  | nothing => rfl
  | dropped hwanted => simp [overrideCall, hwanted, OverridePlan.operation]
  | @reconciled request device hwanted hdevice =>
    by_cases hmode : request.mode = device.standingMode
    · simp [overrideCall, reconcile, hwanted, hdevice, hmode, OverridePlan.operation]
    · simp [overrideCall, reconcile, hwanted, hdevice, hmode, Ne.symm hmode,
        OverridePlan.operation]

lemma exists_changeCalls? {runModes : Option (List Choice)} {submission : Texts}
    {values : Values} (h : (Form.entity kind runModes).validate submission = .ok values)
    (plant : Simulated) (entity : Entity) :
    ∃ offset, values.decimal? offsetKey = some offset ∧
      changeCalls? plant entity runModes values =
        some (planCalls entity (overrideRequest? values) ++
          .setOffset entity offset ::
            ((overrideRequest? values).map (overrideCall plant entity)).toList) := by
  cases runModes with
  | none =>
    obtain ⟨offset, -, rfl⟩ := values_of_entity_none h
    exact ⟨offset, rfl, rfl⟩
  | some modes =>
    obtain ⟨offset, mode, -, -, rfl⟩ := values_of_entity_some h
    exact ⟨offset, rfl, rfl⟩

lemma makes_change (plant : Simulated) (entity : Entity) (offset : Number.Binary64)
    (request : Option OverrideRequest) :
    Task.Makes
      (Task.ofPlant .plant (ChangePlan.build entity (some offset) request) >>= ChangePlan.apply)
      plant
      (planCalls entity request ++
        .setOffset entity offset :: (request.map (overrideCall plant entity)).toList)
      (fun _ => True) Refusal.error := by
  have hreads : ∀ call ∈ planCalls entity request, call.isWrite = false :=
    isWrite_of_mem_planCalls entity
  refine (Task.makes_ofPlant_of_reads
    (makes_build plant entity (some offset) request) hreads).bind fun plan after hplan _ => ?_
  obtain ⟨hentity, hoffset, hplanned⟩ := hplan
  have happly := makes_applyPlan after hoffset
  rw [hentity, map_operation_of_planned hplanned] at happly
  exact happly.mono (fun _ _ => trivial) fun refusal _ _ => (refusal.error_behind hreads).symm

lemma decided_submitEntity (hsound : settings.Sound) (caller : Identity) (kind : Kind)
    (id : String) (submission : Texts) (plant : Simulated) :
    Decided (submitEntity settings caller kind id submission) plant
      (submitCalls? settings caller plant submission (.entity kind id)) := by
  cases haddressed : addressed settings caller kind id with
  | error error =>
    rw [submitCalls?, haddressed]
    exact decided_of_error haddressed (clientError_of_addressed hsound haddressed) _
  | ok found =>
    obtain ⟨context, entity⟩ := found
    simp only [submitCalls?, haddressed, Except.toOption, Option.bind_eq_bind, Option.bind_some]
    refine decided_of_ok haddressed ?_
    dsimp only
    cases hvalues : (Form.entity kind context.runModes).validate submission with
    | error rejections =>
      exact decided_of_rejection
        (clientError_showRejectedEntity _ submission rejections plant entity)
    | ok values =>
      obtain ⟨offset, hoffset, hcalls⟩ := exists_changeCalls? hvalues plant entity
      dsimp only [Option.bind_some]
      rw [hcalls, hoffset]
      -- The redirection follows the calls of the plan, whatever their replies.
      have hredirect : Task.Makes (_ >>= fun _ =>
          pure (Outcome.ofResponse (.redirect (entityLocation entity)))) plant _
          (fun outcome => IsSuccess outcome.response) Refusal.error :=
        (makes_change plant entity offset (overrideRequest? values)).map fun _ _ => .inr rfl
      rw [bind_assoc] at hredirect
      exact .calls hredirect

lemma decided_submit (hsound : settings.Sound) (caller : Identity) (submission : Texts)
    (plant : Simulated) (route : Route) :
    Decided (Portal.submit settings caller submission route) plant
      (submitCalls? settings caller plant submission route) := by
  cases route with
  | system => exact decided_submitSystemMode hsound caller submission plant
  | entity kind id => exact decided_submitEntity hsound caller kind id submission plant
  | entities | manifest | status =>
    have hstatus : IsClientError (.plain 405 .empty) := ⟨by decide, by decide⟩
    exact .refused hstatus

end

/-! ### Answers -/

lemma not_isSuccess_ofError (error : Error) : ¬IsSuccess (.ofError error) := by
  cases error <;> simp [IsSuccess, Response.ofError, Response.plain, Error.status]

section

variable {task : Task Error Outcome} {plant : Simulated} {calls : List Operation}
  (h : Task.Makes task plant calls (fun outcome => IsSuccess outcome.response) Refusal.error)

include h

/-- A task succeeds when all its calls are answered. -/
lemma isSuccess_iff_of_makes :
    IsSuccess (Outcome.ofExcept (Simulated.run task.run plant).1).response ↔
      ∀ call ∈ calls, (plant.answer call).1.isOk = true := by
  simp only [Simulated.isOk_answer_iff, ← Simulated.firstRefusal?_eq_none_iff]
  cases hfirst : plant.firstRefusal? calls with
  | none =>
    obtain ⟨outcome, hsuccess, hrun⟩ := h.exists_ok hfirst
    rw [hrun]
    exact iff_of_true hsuccess rfl
  | some refusal =>
    rw [h.eq_error hfirst]
    exact iff_of_false (not_isSuccess_ofError _) (by simp)

/-- A task ends with the error of its first refused call. -/
lemma eq_error_of_makes {before after : List Operation} {call : Operation} {failure : Failure}
    (hsplit : calls = before ++ call :: after)
    (hbefore : ∀ earlier ∈ before, (plant.answer earlier).1.isOk = true)
    (hrefuses : plant.Refuses call failure) :
    (Simulated.run task.run plant).1 = .error (Refusal.error ⟨before, call, failure⟩) := by
  apply h.eq_error
  simp only [Simulated.isOk_answer_iff] at hbefore
  exact Simulated.firstRefusal?_eq_some_iff.mpr
    ⟨⟨after, hsplit⟩, hbefore, Simulated.refuses_iff.mp hrefuses⟩

end

/-! ### Serving -/

section

variable {portal : Portal} {request : Request} {route : Route} {world : World}

lemma response_of_accept (haccept : Portal.accept request = .ok route) :
    (world.serve portal request).1.1 = (Portal.cut request.method
      (.ofExcept (Simulated.run (portal.handle request route).run world.plant).1)).response := by
  have hserve : portal.serve request = (portal.handle request route).run.bind fun result =>
      .done (Portal.cut request.method (.ofExcept result)) := by
    unfold Portal.serve
    rw [haccept]
    rfl
  rw [World.serve_eq, World.outcome, hserve, Simulated.run_bind]
  rfl

lemma decided_handle (hsound : portal.settings.Sound)
    (haccept : Portal.accept request = .ok route) (plant : Simulated) :
    Decided (portal.handle request route) plant (portal.calls? request plant) := by
  have hcalls : portal.calls? request plant = if request.method = .post then
      submitCalls? portal.settings (portal.caller request) plant
        (submittedTexts request.body) route
    else viewCalls? portal.settings (portal.caller request) route := by
    rw [Portal.calls?, haccept]
    rfl
  rw [hcalls]
  unfold Portal.handle
  dsimp only
  split
  · exact decided_submit hsound _ _ plant route
  · exact decided_view hsound _ plant route

lemma clientError_of_refusal {refusal : Response}
    (haccept : Portal.accept request = .error refusal)
    (world : World) : IsClientError (world.serve portal request).1.1 := by
  obtain ⟨status, hmem, document, rfl, -⟩ := exists_plain_of_refusal haccept
  have hstatus : (world.serve portal request).1.1.status = status := by
    simp only [World.serve_eq, World.outcome, serve_of_refusal haccept]
    rfl
  simp only [List.mem_cons, List.not_mem_nil, or_false] at hmem
  rw [IsClientError, hstatus]
  omega

/-- A request is the client's error, or it is answered by a task that makes its calls. -/
lemma serve_cases (hsound : portal.settings.Sound) (request : Request) (world : World) :
    (portal.calls? request world.plant = none ∧ IsClientError (world.serve portal request).1.1) ∨
    ∃ (calls : List Operation) (task : Task Error Outcome),
      portal.calls? request world.plant = some calls ∧
      Task.Makes task world.plant calls (fun outcome => IsSuccess outcome.response)
        Refusal.error ∧
      (world.serve portal request).1.1 = (Portal.cut request.method
        (.ofExcept (Simulated.run task.run world.plant).1)).response := by
  cases haccept : Portal.accept request with
  | error refusal =>
    refine .inl ⟨?_, clientError_of_refusal haccept world⟩
    rw [Portal.calls?, haccept]
    rfl
  | ok route =>
    have hdecided := decided_handle hsound haccept world.plant
    have hresponse : (world.serve portal request).1.1 = _ := response_of_accept haccept
    generalize portal.calls? request world.plant = calls? at hdecided ⊢
    cases hdecided with
    | refused h => exact .inl ⟨rfl, by rw [hresponse]; exact h⟩
    | calls h => exact .inr ⟨_, _, rfl, h, hresponse⟩

end

end Web

end HeatingPortal
