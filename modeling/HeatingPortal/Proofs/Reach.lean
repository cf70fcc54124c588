import HeatingPortal.Proofs.Calls
import HeatingPortal.Proofs.Effects
import HeatingPortal.Proofs.SoundSettings

/-!
# What serving a request calls

A caller reaches the entities and sensors of its lists, and the plant as a whole. Whatever the
plant answers, serving a request calls nothing else (`serve_within`), and under sound settings it
ends in an error only where the plant, the id or a missing setting is the cause.
-/

namespace HeatingPortal.Web

open Caller Form Plant Settings

variable {settings : Settings} {caller : Identity} {kind : Kind} {error : Error}

/-! ### Targets in reach -/

/-- What a caller can reach: entities and sensors whose ids are on the caller's lists. -/
def CanReach (settings : Settings) (caller : Identity) : Target → Prop
  | .entity entity =>
    ∃ ids, resolveIds settings caller entity.kind.idKeys = .ok (some ids) ∧ entity.id ∈ ids
  | .runtime => True
  | .sensor id =>
    ∃ location : Location, ∃ ids,
      resolveIds settings caller location.sensorKeys = .ok (some ids) ∧ id ∈ ids

lemma canReach_runtime : CanReach settings caller .runtime := trivial

lemma canReach_of_target {target : Target} (hreach : CanReach settings caller target)
    {operation : Operation} (h : operation.target = target) :
    CanReach settings caller operation.target := by
  rwa [h]

lemma canReach_of_mem {context : EntityContext} {entity : Entity}
    (hcontext : EntityContext.of settings caller entity.kind = .ok context)
    (hmem : entity.id ∈ context.ids) : CanReach settings caller (.entity entity) := by
  obtain ⟨-, hids, -⟩ := resolved_of_context hcontext
  exact ⟨context.ids, hids, hmem⟩

lemma canReach_of_visible {context : EntityContext} {entity : Entity}
    (hcontext : EntityContext.of settings caller kind = .ok context)
    (hvisible : entity ∈ context.visible) : CanReach settings caller (.entity entity) := by
  obtain ⟨hkind, -, -⟩ := resolved_of_context hcontext
  obtain ⟨id, hmem, rfl⟩ := List.mem_map.mp hvisible
  subst hkind
  exact canReach_of_mem hcontext hmem

lemma canReach_of_addressed {context : EntityContext} {entity : Entity} {id : String}
    (h : addressed settings caller kind id = .ok (context, entity)) :
    CanReach settings caller (.entity entity) := by
  obtain ⟨hcontext, hentity⟩ := context_of_addressed h
  rw [← kind_of_addressed h] at hcontext
  exact canReach_of_mem hcontext (read_of_address hentity).2

lemma sensorsAt_of_resolveIds {location : Location} {ids : Option (List Int64)}
    (h : resolveIds settings caller location.sensorKeys = .ok ids) :
    sensorsAt settings caller location = .ok ((ids.getD []).map (Sensor.mk location)) := by
  rw [sensorsAt, h]
  rfl

lemma canReach_of_sensorsAt {location : Location} {list : List Sensor}
    (h : sensorsAt settings caller location = .ok list) :
    ∀ sensor ∈ list, CanReach settings caller (.sensor sensor.id) := by
  obtain ⟨ids, hids, h⟩ := bind_eq_ok h
  cases h
  intro sensor hmem
  obtain ⟨id, hid, rfl⟩ := List.mem_map.mp hmem
  cases ids with
  | none => cases hid
  | some ids => exact ⟨location, ids, mapError_eq_ok hids, hid⟩

lemma canReach_of_sensors {list : List Sensor} (h : sensors settings caller = .ok list) :
    ∀ sensor ∈ list, CanReach settings caller (.sensor sensor.id) := by
  obtain ⟨outdoor, houtdoor, h⟩ := bind_eq_ok h
  obtain ⟨indoor, hindoor, h⟩ := bind_eq_ok h
  cases h
  intro sensor hmem
  rcases List.mem_append.mp hmem with hmem | hmem
  · exact canReach_of_sensorsAt houtdoor sensor hmem
  · exact canReach_of_sensorsAt hindoor sensor hmem

/-! ### Errors under sound settings -/

/-- An error that a request may end in although the settings are sound. -/
def Expected : Error → Prop
  | .disabled _ | .unknownEntity _ | .malformedId _ | .plant _ | .halfDone .. => True
  | .system _ | .settings _ | .rejected _ | .input _ | .other _ => False

/-- An error that a call to the plant ended in. -/
def OfPlant : Error → Prop
  | .plant _ | .halfDone .. => True
  | _ => False

lemma OfPlant.expected (h : OfPlant error) : Expected error := by
  cases error with
  | plant | halfDone => trivial
  | _ => cases h

/-- A response that carries no error that sound settings exclude; only a change left half done is
an error of the server. -/
structure Response.Orderly (response : Response) : Prop where
  internal : response.errorCode? ≠ some "internal"
  validation : response.errorCode? ≠ some "validation"
  halfDone : response.status = 500 → response.errorCode? = some halfDoneCode

lemma Expected.orderly (h : Expected error) : (Response.ofError error).Orderly := by
  have hcode : (Response.ofError error).errorCode? = some error.code := rfl
  have hstatus : (Response.ofError error).status = error.status := rfl
  constructor <;> rw [hcode] <;> cases error <;>
    simp_all [Expected, Error.code, Error.status, halfDoneCode]

lemma orderly_plain {status : Nat} {document : Document}
    (hcode : (Response.plain status document).errorCode? = none) (hstatus : status ≠ 500) :
    (Response.plain status document).Orderly := by
  constructor
  · simp [hcode]
  · simp [hcode]
  · intro h
    exact absurd h hstatus

lemma orderly_redirect (location : String) : (Response.redirect location).Orderly := by
  constructor <;> simp [Response.redirect, Response.errorCode?]

section

variable (hsound : settings.Sound)

include hsound

lemma disabled_of_systemModes (h : systemModes settings caller = .error error) :
    error = .disabled KeyPair.modes.standard := by
  obtain ⟨choices, hchoices⟩ := hsound.exists_choices (by decide : .modes ∈ _) caller
  rw [systemModes, hchoices] at h
  cases choices <;> cases h
  rfl

lemma disabled_of_context (h : EntityContext.of settings caller kind = .error error) :
    error = .disabled kind.idKeys.standard := by
  obtain ⟨ids, hids⟩ := hsound.exists_ids (by cases kind <;> decide : kind.idKeys ∈ _) caller
  obtain ⟨modes, hmodes⟩ :=
    hsound.exists_choices (by cases kind <;> decide : kind.runModeKeys ∈ _) caller
  rw [EntityContext.of, hids, hmodes] at h
  cases ids <;> cases h
  rfl

lemma expected_of_systemModes (h : systemModes settings caller = .error error) :
    Expected error := by
  rw [disabled_of_systemModes hsound h]
  trivial

lemma expected_of_context (h : EntityContext.of settings caller kind = .error error) :
    Expected error := by
  rw [disabled_of_context hsound h]
  trivial

lemma expected_of_addressed {id : String}
    (h : addressed settings caller kind id = .error error) :
    Expected error := by
  rcases bind_eq_error h with h | ⟨context, -, h⟩
  · exact expected_of_context hsound h
  rcases bind_eq_error h with h | ⟨entity, -, h⟩
  · delta EntityContext.address at h
    cases hread : Entity.read? context.kind id with
    | none =>
      rw [hread] at h
      cases h
      trivial
    | some entity =>
      rw [hread] at h
      dsimp only at h
      split at h <;> cases h
      trivial
  · cases h

lemma exists_sensorsAt (caller : Identity) (location : Location) :
    ∃ list, sensorsAt settings caller location = .ok list := by
  obtain ⟨ids, hids⟩ :=
    hsound.exists_ids (by cases location <;> decide : location.sensorKeys ∈ _) caller
  exact ⟨_, sensorsAt_of_resolveIds hids⟩

lemma exists_sensors (caller : Identity) : ∃ list, sensors settings caller = .ok list := by
  obtain ⟨outdoor, houtdoor⟩ := exists_sensorsAt hsound caller .outdoor
  obtain ⟨indoor, hindoor⟩ := exists_sensorsAt hsound caller .indoor
  exact ⟨outdoor ++ indoor, by rw [sensors, houtdoor, hindoor]; rfl⟩

lemma exists_modeChange {modes : List Choice} {submission : Texts} {values : Values}
    (hmodes : systemModes settings caller = .ok modes)
    (hvalues : (Form.system modes).validate submission = .ok values) :
    ∃ change, modeChange values = .ok change := by
  obtain ⟨code, change, hcode, hchange⟩ := hsound.exists_change hmodes hvalues
  exact ⟨change, by rw [modeChange, hcode]; exact hchange⟩

end

/-! ### Parts of handlers -/

section

variable {allowed : Operation → Prop}

lemma within_fetch {entity : Entity}
    (h : ∀ operation : Operation, operation.target = .entity entity → allowed operation) :
    Task.Within allowed (Snapshot.fetch entity) (fun _ => True) fun _ => True := by
  unfold Snapshot.fetch
  iterate 7
    refine (Operation.within_send (h _ rfl)).bind fun _ _ => ?_
  exact Task.within_pure trivial

lemma within_readSystemMode
    (h : ∀ operation : Operation, operation.target = .runtime → allowed operation) :
    Task.Within allowed readSystemMode (fun _ => True) fun _ => True := by
  refine (Operation.within_send (h .systemMode rfl)).bind fun _ _ => ?_
  refine (Operation.within_send (h .suppressFlag rfl)).bind fun _ _ => ?_
  exact Task.within_pure trivial

lemma within_readSensors {list : List Sensor}
    (h : ∀ sensor ∈ list, allowed (.temperature sensor.id)) :
    (readSensors list).Within allowed fun _ => True := by
  induction list with
  | nil => exact trivial
  | cons sensor rest ih =>
    obtain ⟨hsensor, hrest⟩ := List.forall_mem_cons.mp h
    refine Program.Within.bind (Operation.within_send hsensor) fun _ _ => ?_
    exact (ih hrest).bind fun _ _ => trivial

lemma within_applyMode (change : SystemModeChange)
    (h : ∀ operation : Operation, operation.target = .runtime → allowed operation) :
    Task.Within allowed change.apply (fun _ => True) OfPlant := by
  refine (Task.within_ofPlant (Operation.within_send (h _ rfl)) fun _ => trivial).bind
    fun _ _ => ?_
  refine (Task.within_ofPlant (Operation.within_send (h _ rfl)) fun _ => trivial).bind
    fun _ _ => ?_
  exact Task.within_pure trivial

lemma within_build {entity : Entity} (offset : Option Number.Binary64)
    (request : Option OverrideRequest) (h : allowed (.standingMode entity)) :
    Task.Within allowed (ChangePlan.build entity offset request)
      (fun plan => plan.entity = entity) fun _ => True := by
  have hplan : Task.Within allowed (ChangePlan.planOverride entity request) (fun _ => True)
      fun _ => True := by
    cases request with
    | none => exact Task.within_pure trivial
    | some request =>
      simp only [ChangePlan.planOverride]
      split
      · exact (Operation.within_send h).bind fun _ _ => Task.within_pure trivial
      · exact Task.within_pure trivial
  exact hplan.bind fun _ _ => Task.within_pure rfl

lemma ofPlant_overrideError (plan : ChangePlan) (call : OverridePlan) (failure : Failure) :
    OfPlant (plan.overrideError call failure) := by
  unfold ChangePlan.overrideError
  split <;> trivial

lemma within_applyPlan (plan : ChangePlan)
    (h : ∀ operation : Operation, operation.target = .entity plan.entity → allowed operation) :
    Task.Within allowed plan.apply (fun _ => True) OfPlant := by
  have hoverride (call : OverridePlan) : Task.Within allowed
      ((ChangePlan.sendOverride plan.entity call).ofPlant (plan.overrideError call))
      (fun _ => True) OfPlant := by
    refine Task.within_ofPlant ?_ (ofPlant_overrideError plan call)
    cases call <;> exact Operation.within_send (h _ rfl)
  unfold ChangePlan.apply
  cases plan.offset with
  | none =>
    cases plan.override with
    | none => exact Task.within_pure trivial
    | some call => exact hoverride call
  | some offset =>
    refine (Task.within_ofPlant (Operation.within_send (h _ rfl)) fun _ => trivial).bind
      fun _ _ => ?_
    cases plan.override with
    | none => exact Task.within_pure trivial
    | some call => exact hoverride call

end

/-! ### Pages -/

/-- The pages that a caller is shown for a route; what the plant answered is left open. -/
inductive PageFor (settings : Settings) (caller : Identity) : Route → Document → Prop
  | system {modes : List Choice} {mode : UInt8} {readings : List Reading}
      (hmodes : systemModes settings caller = .ok modes) :
      PageFor settings caller .system (.system ⟨caller, .of settings caller, some mode,
        (Form.system modes).fill (systemTexts mode) [], readings⟩)
  | entities {kind : Kind} {entities : List Listed} :
      PageFor settings caller (.entities kind) (.entities ⟨kind, .of settings caller, entities⟩)
  | entity {kind : Kind} {id : String} {context : EntityContext} {entity : Entity}
      {snapshot : Snapshot}
      (haddressed : addressed settings caller kind id = .ok (context, entity)) :
      PageFor settings caller (.entity kind id) (.entity ⟨.of settings caller, entity,
        (Form.entity kind context.runModes).fill (entityTexts snapshot) [], some snapshot⟩)
  | manifest {title : String} : PageFor settings caller .manifest (.manifest title)
  | status {mode : Option UInt8} : PageFor settings caller .status (.status mode)

/-- An outcome that is a page for a route. -/
def ShowsPage (settings : Settings) (caller : Identity) (route : Route) (outcome : Outcome) :
    Prop :=
  ∃ document warnings, outcome = ⟨.plain 200 document, warnings, none⟩ ∧
    PageFor settings caller route document

/-- A task for a caller that calls nothing beyond the caller's reach, with a page for a route or,
under sound settings, an expected error. -/
def ReadsPage (settings : Settings) (caller : Identity) (route : Route)
    (task : Task Error Outcome) :
    Prop :=
  Task.Within (fun operation => CanReach settings caller operation.target) task
    (ShowsPage settings caller route) fun error => settings.Sound → Expected error

lemma ShowsPage.orderly {route : Route} {outcome : Outcome}
    (h : ShowsPage settings caller route outcome) : outcome.response.Orderly := by
  obtain ⟨document, warnings, rfl, hpage⟩ := h
  cases hpage <;> exact orderly_plain rfl (by decide)

section

variable (settings caller)

lemma readsPage_showSystemMode :
    ReadsPage settings caller .system (showSystemMode settings caller) := by
  refine (Task.within_ofExcept fun error herror hsound => ?_).bind fun modes hmodes => ?_
  · exact expected_of_systemModes hsound herror
  refine (Task.within_ofExcept fun error herror hsound => ?_).bind fun list hlist => ?_
  · obtain ⟨sensors, hsensors⟩ := exists_sensors hsound caller
    rw [hsensors] at herror
    cases herror
  refine (Task.within_ofPlant
    (within_readSystemMode fun _ => canReach_of_target canReach_runtime)
    fun failure _ => trivial).bind fun mode _ => ?_
  refine (Task.within_lift (within_readSensors (canReach_of_sensors hlist))).bind
    fun readings _ => ?_
  exact Task.within_pure ⟨_, _, rfl, .system hmodes⟩

lemma readsPage_listEntities (kind : Kind) :
    ReadsPage settings caller (.entities kind) (listEntities settings caller kind) := by
  refine (Task.within_ofExcept fun error herror hsound => ?_).bind fun context hcontext => ?_
  · exact expected_of_context hsound herror
  refine (Task.within_ofPlant (Task.within_mapM fun entity hvisible => ?_)
    fun failure _ => trivial).bind fun entities _ => ?_
  · refine (Operation.within_send ?_).bind fun name _ => Task.within_pure trivial
    exact canReach_of_visible hcontext hvisible
  · exact Task.within_pure ⟨_, _, rfl, .entities⟩

lemma readsPage_showEntity (kind : Kind) (id : String) :
    ReadsPage settings caller (.entity kind id) (showEntity settings caller kind id) := by
  refine (Task.within_ofExcept fun error herror hsound => ?_).bind fun found hfound => ?_
  · exact expected_of_addressed hsound herror
  obtain ⟨context, entity⟩ := found
  refine (Task.within_ofPlant (within_fetch fun _ => canReach_of_target ?_)
    fun failure _ => trivial).bind fun snapshot _ => ?_
  · exact canReach_of_addressed hfound
  · exact Task.within_pure ⟨_, _, rfl, .entity hfound⟩

lemma readsPage_showManifest :
    ReadsPage settings caller .manifest (Task.ofExcept (showManifest settings)) := by
  unfold showManifest
  split
  · exact Task.within_pure ⟨_, _, rfl, .manifest⟩
  · exact fun _ => trivial

lemma readsPage_showStatus : ReadsPage settings caller .status (ExceptT.lift showStatus) := by
  refine Task.within_lift (Program.Within.bind
    (within_readSystemMode fun _ => canReach_of_target canReach_runtime) fun result _ => ?_)
  exact ⟨_, _, rfl, .status⟩

/-- Reading a route shows its page. -/
lemma readsPage_view (route : Route) :
    ReadsPage settings caller route (Portal.view settings caller route) := by
  cases route with
  | system => exact readsPage_showSystemMode settings caller
  | entities kind => exact readsPage_listEntities settings caller kind
  | entity kind id => exact readsPage_showEntity settings caller kind id
  | manifest => exact readsPage_showManifest settings caller
  | status => exact readsPage_showStatus settings caller

end

/-! ### Submissions -/

/-- What comes of a submission that a form checks: a redirection, or a page with the reasons. -/
inductive Checked (settings : Settings) (caller : Identity) (form : Form) (submission : Texts) :
    Response → Prop
  | accepted {values : Values} {location : String}
      (hvalues : form.validate submission = .ok values) :
      Checked settings caller form submission (.redirect location)
  | mode {rejections : Rejections} {mode : Option UInt8} {texts : Texts}
      (hrejections : form.validate submission = .error rejections) :
      Checked settings caller form submission (.plain 422 (.system ⟨caller, .of settings caller,
        mode, form.fill texts rejections, []⟩))
  | entity {rejections : Rejections} {entity : Entity} {state : Option Snapshot} {texts : Texts}
      (hrejections : form.validate submission = .error rejections) :
      Checked settings caller form submission (.plain 422 (.entity ⟨.of settings caller, entity,
        form.fill texts rejections, state⟩))

lemma Checked.orderly {form : Form} {submission : Texts} {response : Response}
    (h : Checked settings caller form submission response) : response.Orderly := by
  cases h with
  | accepted => exact orderly_redirect _
  | mode | entity => exact orderly_plain rfl (by decide)

section

variable (settings caller) {allowed : Operation → Prop}

/-- A submission of the system mode calls nothing but the plant as a whole. It fails for want of
modes, or after its form accepted it. -/
lemma within_submitSystemMode (submission : Texts)
    (h : ∀ operation : Operation, operation.target = .runtime → allowed operation) :
    Task.Within allowed (submitSystemMode settings caller submission)
      (fun outcome => ∃ modes, systemModes settings caller = .ok modes ∧
        Checked settings caller (.system modes) submission outcome.response)
      fun error => systemModes settings caller = .error error ∨
        ∃ modes values, systemModes settings caller = .ok modes ∧
          (Form.system modes).validate submission = .ok values ∧
          (settings.Sound → OfPlant error) := by
  refine (Task.within_ofExcept fun error herror => .inl herror).bind fun modes hmodes => ?_
  dsimp only
  cases hvalues : (Form.system modes).validate submission with
  | error rejections =>
    refine Task.within_lift (Program.Within.bind (within_readSystemMode h) fun result _ => ?_)
    exact ⟨modes, hmodes, .mode hvalues⟩
  | ok values =>
    refine (Task.within_ofExcept fun error herror => ?_).bind fun change _ => ?_
    · refine .inr ⟨modes, values, hmodes, hvalues, fun hsound => ?_⟩
      obtain ⟨change, hchange⟩ := exists_modeChange hsound hmodes hvalues
      rw [hchange] at herror
      cases herror
    refine ((within_applyMode change h).weaken fun error herror => ?_).bind fun composite _ => ?_
    · exact .inr ⟨modes, values, hmodes, hvalues, fun _ => herror⟩
    · exact Task.within_pure ⟨modes, hmodes, .accepted hvalues⟩

/-- A submission for an entity calls nothing but the entity that it addresses. It fails for want
of that entity, or after its form accepted it. -/
lemma within_submitEntity {kind : Kind} {id : String} (submission : Texts)
    (h : ∀ context entity, addressed settings caller kind id = .ok (context, entity) →
      ∀ operation : Operation, operation.target = .entity entity → allowed operation) :
    Task.Within allowed (submitEntity settings caller kind id submission)
      (fun outcome => ∃ context entity,
        addressed settings caller kind id = .ok (context, entity) ∧
          Checked settings caller (.entity kind context.runModes) submission outcome.response)
      fun error => addressed settings caller kind id = .error error ∨
        ∃ context entity values, addressed settings caller kind id = .ok (context, entity) ∧
          (Form.entity kind context.runModes).validate submission = .ok values ∧
          OfPlant error := by
  refine (Task.within_ofExcept fun error herror => .inl herror).bind fun found hfound => ?_
  obtain ⟨context, entity⟩ := found
  have hentity := h context entity hfound
  dsimp only
  cases hvalues : (Form.entity kind context.runModes).validate submission with
  | error rejections =>
    refine Task.within_lift (Program.Within.bind (within_fetch hentity) fun result _ => ?_)
    exact ⟨context, entity, hfound, .entity hvalues⟩
  | ok values =>
    have hfails (error : Error) (herror : OfPlant error) :
        addressed settings caller kind id = .error error ∨
          ∃ context entity values, addressed settings caller kind id = .ok (context, entity) ∧
            (Form.entity kind context.runModes).validate submission = .ok values ∧
            OfPlant error :=
      .inr ⟨context, entity, values, hfound, hvalues, herror⟩
    refine (Task.within_ofPlant (within_build _ _ (hentity _ rfl)) fun failure =>
      hfails (.plant failure) trivial).bind fun plan hplan => ?_
    subst hplan
    refine ((within_applyPlan plan hentity).weaken hfails).bind fun _ _ => ?_
    exact Task.within_pure ⟨context, _, hfound, .accepted hvalues⟩

end

/-! ### Handlers -/

/-- A task for a caller that calls nothing beyond the caller's reach, with an orderly outcome or,
under sound settings, an expected error. -/
def InReach (settings : Settings) (caller : Identity) (task : Task Error Outcome) : Prop :=
  Task.Within (fun operation => CanReach settings caller operation.target) task
    (fun outcome => outcome.response.Orderly) fun error => settings.Sound → Expected error

variable (settings caller) {allowed : Operation → Prop}

lemma inReach_view (route : Route) :
    InReach settings caller (Portal.view settings caller route) :=
  (readsPage_view settings caller route).mono (fun _ hpage => hpage.orderly)
    fun _ herror => herror

lemma inReach_submit (submission : Texts) (route : Route) :
    InReach settings caller (Portal.submit settings caller submission route) := by
  cases route with
  | system =>
    refine (within_submitSystemMode settings caller submission
      fun _ => canReach_of_target canReach_runtime).mono ?_ ?_
    · rintro outcome ⟨modes, -, hchecked⟩
      exact hchecked.orderly
    · rintro error (herror | ⟨modes, values, -, -, herror⟩) hsound
      · exact expected_of_systemModes hsound herror
      · exact (herror hsound).expected
  | entity kind id =>
    refine (within_submitEntity settings caller submission
      fun context entity haddressed _ => ?_).mono ?_ ?_
    · exact canReach_of_target (canReach_of_addressed haddressed)
    · rintro outcome ⟨context, entity, -, hchecked⟩
      exact hchecked.orderly
    · rintro error (herror | ⟨context, entity, values, -, -, herror⟩) hsound
      · exact expected_of_addressed hsound herror
      · exact herror.expected
  | entities | manifest | status => exact Task.within_pure (orderly_plain rfl (by decide))

/-! ### Serving -/

variable {settings caller} {portal : Portal} {request : Request}

lemma orderly_of_refusal {response : Response} (h : Portal.accept request = .error response) :
    response.Orderly := by
  obtain ⟨status, hmem, document, rfl, hjson⟩ := exists_plain_of_refusal h
  refine orderly_plain (errorCode?_of_json? hjson status) ?_
  rintro rfl
  simp at hmem

lemma Response.Orderly.cut {outcome : Outcome} (h : outcome.response.Orderly) (method : Method) :
    (Portal.cut method outcome).response.Orderly :=
  ⟨h.internal, h.validation, h.halfDone⟩

/-- A request that is refused calls nothing. -/
lemma serve_of_refusal {response : Response} (h : Portal.accept request = .error response) :
    portal.serve request = .done (Portal.cut request.method (.ofResponse response)) := by
  unfold Portal.serve
  rw [h]
  rfl

/-- A handler keeps to what the submissions and the views of its route keep to. -/
lemma within_handle {good : Outcome → Prop} {bad : Error → Prop} {route : Route}
    (hsubmit : ∀ submission, Task.Within allowed
      (Portal.submit portal.settings (portal.caller request) submission route) good bad)
    (hview : Task.Within allowed
      (Portal.view portal.settings (portal.caller request) route) good bad) :
    Task.Within allowed (portal.handle request route) good bad := by
  unfold Portal.handle
  dsimp only
  split
  · exact hsubmit _
  · exact hview

/-- Serving an accepted request does what its handler does, and cuts what comes of it. -/
lemma within_serve_of_handle {good post : Outcome → Prop} {bad : Error → Prop} {route : Route}
    (haccept : Portal.accept request = .ok route)
    (hhandle : Task.Within allowed (portal.handle request route) good bad)
    (hgood : ∀ outcome, good outcome → post (Portal.cut request.method outcome))
    (hbad : ∀ error, bad error → post (Portal.cut request.method (.ofError error))) :
    (portal.serve request).Within allowed post := by
  unfold Portal.serve
  rw [haccept]
  refine Program.Within.bind hhandle fun result hresult => ?_
  cases result with
  | error error => exact hbad error hresult
  | ok outcome => exact hgood outcome hresult

/-- Serving a submission keeps to what its handler keeps to. -/
lemma within_serve {good post : Outcome → Prop} {bad : Error → Prop} {route : Route}
    (hpost : request.method = .post) (haccept : Portal.accept request = .ok route)
    (hsubmit : Task.Within allowed (Portal.submit portal.settings (portal.caller request)
      (submittedTexts request.body) route) good bad)
    (hgood : ∀ outcome, good outcome → post (Portal.cut request.method outcome))
    (hbad : ∀ error, bad error → post (Portal.cut request.method (.ofError error))) :
    (portal.serve request).Within allowed post := by
  rw [← handle_of_post hpost] at hsubmit
  exact within_serve_of_handle haccept hsubmit hgood hbad

/-- Whatever the plant answers, a request calls nothing beyond the reach of its caller, and under
sound settings its response is orderly. -/
theorem serve_within (portal : Portal) (request : Request) :
    (portal.serve request).Within
      (fun operation => CanReach portal.settings (portal.caller request) operation.target)
      fun outcome => portal.settings.Sound → outcome.response.Orderly := by
  cases haccept : Portal.accept request with
  | error response =>
    rw [serve_of_refusal haccept]
    exact fun _ => (orderly_of_refusal haccept).cut _
  | ok route =>
    have hhandle : InReach portal.settings (portal.caller request)
        (portal.handle request route) :=
      within_handle (fun submission => inReach_submit _ _ submission route)
        (inReach_view _ _ route)
    refine within_serve_of_handle haccept hhandle (fun _ horderly _ => horderly.cut _) ?_
    exact fun error herror hsound => (herror hsound).orderly.cut _

end HeatingPortal.Web
