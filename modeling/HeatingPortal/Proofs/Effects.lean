import HeatingPortal.Proofs.Contexts
import HeatingPortal.Proofs.Submissions
import HeatingPortal.Proofs.Writes
import HeatingPortal.Web.Portal

/-!
# What serving a request does to the plant

`serve_effect` sums up all routes: serving a request leaves the plant as it is and promises
nothing, or it carries out an accepted submission, the system mode in two writes or an entity in
one or two, perhaps cut short after the first. What a request may do and what its answer means
are case analyses over these six.
-/

namespace HeatingPortal.Web

open Caller Form Plant Settings Number

/-- The code of the error that a response carries. -/
def Response.errorCode? (response : Response) : Option String :=
  match response.document with
  | .error error => some error.code
  | _ => none

/-- The code of an error that leaves a change half done. -/
def halfDoneCode : String :=
  "partial_mutation_failure"

/-- An outcome that promises nothing: no redirection, no half-done change, nothing to publish. -/
structure Outcome.Quiet (outcome : Outcome) : Prop where
  status : outcome.response.status ≠ 303
  code : outcome.response.errorCode? ≠ some halfDoneCode
  publish : outcome.publish = none

/-- An error before anything was written. -/
def Quiet (error : Error) : Prop :=
  ∀ applied failed failure, error ≠ .halfDone applied failed failure

lemma status_ne_redirect (error : Error) : error.status ≠ 303 := by
  cases error <;> simp [Error.status]

lemma exists_halfDone_of_code {error : Error} (h : error.code = halfDoneCode) :
    ∃ applied failed failure, error = .halfDone applied failed failure := by
  cases error with
  | halfDone applied failed failure => exact ⟨applied, failed, failure, rfl⟩
  | _ =>
    simp only [Error.code, halfDoneCode] at h
    exact absurd h (by decide)

lemma Quiet.outcome {error : Error} (h : Quiet error) : (Outcome.ofError error).Quiet where
  status := status_ne_redirect error
  code heq := by
    obtain ⟨applied, failed, failure, rfl⟩ := exists_halfDone_of_code (Option.some.inj heq)
    exact h applied failed failure rfl
  publish := rfl

/-! ### Submissions -/

/-- The caller of a request. -/
def Portal.caller (portal : Portal) (request : Request) : Identity :=
  callerOf request.headers portal.identityHeader

lemma handle_of_post {portal : Portal} {request : Request} (hpost : request.method = .post)
    (route : Route) : portal.handle request route =
      Portal.submit portal.settings (portal.caller request)
        (submittedTexts request.body) route :=
  if_pos hpost

lemma handle_of_get {portal : Portal} {request : Request} (hget : request.method = .get)
    (route : Route) : portal.handle request route =
      Portal.view portal.settings (portal.caller request) route :=
  if_neg (by simp [hget])

/-- A request that submits an acceptable change of the system mode. -/
structure ModeSubmission (portal : Portal) (request : Request) (change : SystemModeChange) :
    Prop where
  post : request.method = .post
  route : Portal.accept request = .ok .system
  accepted : ∃ modes values,
    systemModes portal.settings (portal.caller request) = .ok modes ∧
      (Form.system modes).validate (submittedTexts request.body) = .ok values ∧
      modeChange values = .ok change

/-- A request that submits acceptable values for an entity that its caller can address. -/
structure EntitySubmission (portal : Portal) (request : Request) (context : EntityContext)
    (entity : Entity) (values : Values) : Prop where
  post : request.method = .post
  route : ∃ id, Portal.accept request = .ok (.entity entity.kind id) ∧
    addressed portal.settings (portal.caller request) entity.kind id = .ok (context, entity)
  accepted : (Form.entity entity.kind context.runModes).validate
    (submittedTexts request.body) = .ok values

/-! ### Effects -/

/-- The outcomes of a request with the plant after it and the writes that led there. -/
inductive Effect (portal : Portal) (request : Request) (plant : Simulated) :
    Outcome → Simulated → List Performed → Prop
  | nothing {outcome : Outcome} (hquiet : outcome.Quiet) :
      Effect portal request plant outcome plant []
  | modeSet {change : SystemModeChange} {middle after : Simulated}
      (submission : ModeSubmission portal request change)
      (hmode : plant.Accepts (.setSystemMode change.primary) middle)
      (hflag : middle.Accepts (.setSuppressFlag change.suppress) after) :
      Effect portal request plant ⟨.redirect "/", [], some change.composite⟩ after
        [⟨plant, .setSystemMode change.primary⟩, ⟨middle, .setSuppressFlag change.suppress⟩]
  | modeHalfSet {change : SystemModeChange} {after : Simulated} {failure : Failure}
      (submission : ModeSubmission portal request change)
      (hmode : plant.Accepts (.setSystemMode change.primary) after)
      (hflag : after.Refuses (.setSuppressFlag change.suppress) failure) :
      Effect portal request plant
        (.ofError (.halfDone "set_system_mode" "set_suppress_flag" failure)) after
        [⟨plant, .setSystemMode change.primary⟩]
  | offsetSet {context : EntityContext} {entity : Entity} {values : Values} {offset : Binary64}
      {after : Simulated} (submission : EntitySubmission portal request context entity values)
      (hoffset : values.decimal? offsetKey = some offset)
      (hnone : overrideRequest? values = none)
      (hset : plant.Accepts (.setOffset entity offset) after) :
      Effect portal request plant (.ofResponse (.redirect (entityLocation entity))) after
        [⟨plant, .setOffset entity offset⟩]
  | entitySet {context : EntityContext} {entity : Entity} {values : Values} {offset : Binary64}
      {call : OverridePlan} {middle after : Simulated}
      (submission : EntitySubmission portal request context entity values)
      (hoffset : values.decimal? offsetKey = some offset)
      (hplanned : Planned plant entity (overrideRequest? values) (some call))
      (hset : plant.Accepts (.setOffset entity offset) middle)
      (hcall : middle.Accepts (call.operation entity) after) :
      Effect portal request plant (.ofResponse (.redirect (entityLocation entity))) after
        [⟨plant, .setOffset entity offset⟩, ⟨middle, call.operation entity⟩]
  | entityHalfSet {context : EntityContext} {entity : Entity} {values : Values}
      {offset : Binary64} {call : OverridePlan} {after : Simulated} {failure : Failure}
      (submission : EntitySubmission portal request context entity values)
      (hoffset : values.decimal? offsetKey = some offset)
      (hplanned : Planned plant entity (overrideRequest? values) (some call))
      (hset : plant.Accepts (.setOffset entity offset) after)
      (hcall : after.Refuses (call.operation entity) failure) :
      Effect portal request plant
        (.ofError (.halfDone "set_offset" (call.operation entity).label failure)) after
        [⟨plant, .setOffset entity offset⟩]

/-! ### Refusals before any call -/

section

variable {α : Type} {settings : Settings} {caller : Identity} {kind : Kind} {error : Error}

lemma quiet_of_demand {pair : KeyPair} {result : Except Fault (Option α)}
    (h : demand pair result = .error error) : Quiet error := by
  rcases result with fault | _ | value <;> cases h <;> exact nofun

lemma quiet_of_mapError {result : Except Fault α}
    (h : result.mapError Error.settings = .error error) : Quiet error := by
  cases result <;> cases h
  exact nofun

lemma quiet_of_context (h : EntityContext.of settings caller kind = .error error) :
    Quiet error := by
  rcases bind_eq_error h with h | ⟨ids, -, h⟩
  · exact quiet_of_demand h
  rcases bind_eq_error h with h | ⟨runModes, -, h⟩
  · exact quiet_of_mapError h
  · cases h

lemma quiet_of_address {context : EntityContext} {text : String}
    (h : context.address text = .error error) : Quiet error := by
  delta EntityContext.address at h
  cases hread : Entity.read? context.kind text with
  | none =>
    rw [hread] at h
    cases h
    exact nofun
  | some entity =>
    rw [hread] at h
    dsimp only at h
    split at h <;> cases h
    exact nofun

lemma quiet_of_addressed {id : String} (h : addressed settings caller kind id = .error error) :
    Quiet error := by
  rcases bind_eq_error h with h | ⟨context, -, h⟩
  · exact quiet_of_context h
  rcases bind_eq_error h with h | ⟨entity, -, h⟩
  · exact quiet_of_address h
  · cases h

lemma quiet_of_sensorsAt {location : Location}
    (h : sensorsAt settings caller location = .error error) : Quiet error := by
  rcases bind_eq_error h with h | ⟨ids, -, h⟩
  · exact quiet_of_mapError h
  · cases h

lemma quiet_of_sensors (h : sensors settings caller = .error error) : Quiet error := by
  rcases bind_eq_error h with h | ⟨outdoor, -, h⟩
  · exact quiet_of_sensorsAt h
  rcases bind_eq_error h with h | ⟨indoor, -, h⟩
  · exact quiet_of_sensorsAt h
  · cases h

lemma quiet_of_ofCode {code : Int64} {suppress : Bool}
    (h : SystemModeChange.ofCode code suppress = .error error) : Quiet error := by
  unfold SystemModeChange.ofCode at h
  split_ifs at h
  cases h
  exact nofun

lemma quiet_of_modeChange {values : Values} (h : modeChange values = .error error) :
    Quiet error := by
  unfold modeChange at h
  cases hmode : values.choice? modeKey with
  | none =>
    rw [hmode] at h
    cases h
    exact nofun
  | some code =>
    rw [hmode] at h
    exact quiet_of_ofCode h

end

/-! ### Handlers that only read -/

lemma reads_fetch (entity : Entity) :
    Task.Reads (Snapshot.fetch entity) (fun _ => True) fun _ => True := by
  unfold Snapshot.fetch
  iterate 7
    refine (Operation.reads_send _ rfl).bind (fun _ h => h) fun _ _ => ?_
  exact Task.reads_pure trivial

lemma reads_readSystemMode : Task.Reads readSystemMode (fun _ => True) fun _ => True := by
  refine (Operation.reads_send .systemMode rfl).bind (fun _ h => h) fun _ _ => ?_
  refine (Operation.reads_send .suppressFlag rfl).bind (fun _ h => h) fun _ _ => ?_
  exact Task.reads_pure trivial

lemma reads_readSensors (list : List Sensor) : (readSensors list).Reads fun _ => True := by
  induction list with
  | nil => exact trivial
  | cons sensor rest ih =>
    refine Program.Reads.bind (Operation.reads_send (.temperature sensor.id) rfl) fun _ _ => ?_
    exact ih.bind fun _ _ => trivial

/-- A task for a page that ends with a quiet outcome or a quiet error. -/
def ReadsQuietly (task : Task Error Outcome) : Prop :=
  Task.Reads task Outcome.Quiet Quiet

lemma quiet_of_page {status : Nat} {document : Document} {warnings : List Warning}
    (hstatus : status ≠ 303) (hdocument : (Response.plain status document).errorCode? = none) :
    Outcome.Quiet ⟨.plain status document, warnings, none⟩ where
  status := hstatus
  code := by simp [hdocument]
  publish := rfl

section

variable (settings : Settings) (caller : Identity)

lemma readsQuietly_showSystemMode : ReadsQuietly (showSystemMode settings caller) := by
  refine (Task.reads_ofExcept _).bind (fun _ h => quiet_of_demand h) fun modes _ => ?_
  refine (Task.reads_ofExcept _).bind (fun _ h => quiet_of_sensors h) fun sensors _ => ?_
  refine (Task.reads_ofPlant reads_readSystemMode fun failure _ => ?_).bind (fun _ h => h)
    fun mode _ => ?_
  · exact nofun
  refine (Task.reads_lift (reads_readSensors sensors)).bind (fun _ h => h) fun readings _ => ?_
  exact Task.reads_pure (quiet_of_page (by decide) rfl)

lemma readsQuietly_listEntities (kind : Kind) :
    ReadsQuietly (listEntities settings caller kind) := by
  refine (Task.reads_ofExcept _).bind (fun _ h => quiet_of_context h) fun context _ => ?_
  have hlisted (entity : Entity) :
      Task.Reads (readListed entity) (fun _ => True) fun _ => True := by
    refine (Operation.reads_send (.name entity) rfl).bind (fun _ h => h) fun _ _ => ?_
    exact Task.reads_pure trivial
  refine (Task.reads_ofPlant (Task.reads_mapM hlisted context.visible) fun failure _ => ?_).bind
    (fun _ h => h) fun entities _ => ?_
  · exact nofun
  exact Task.reads_pure (quiet_of_page (by decide) rfl)

lemma readsQuietly_showEntity (kind : Kind) (id : String) :
    ReadsQuietly (showEntity settings caller kind id) := by
  refine (Task.reads_ofExcept _).bind (fun _ h => quiet_of_addressed h) fun found _ => ?_
  refine (Task.reads_ofPlant (reads_fetch found.2) fun failure _ => ?_).bind (fun _ h => h)
    fun snapshot _ => ?_
  · exact nofun
  exact Task.reads_pure (quiet_of_page (by decide) rfl)

lemma readsQuietly_showManifest : ReadsQuietly (Task.ofExcept (showManifest settings)) := by
  apply (Task.reads_ofExcept _).mono
  · intro outcome h
    simp only [showManifest] at h
    split at h <;> cases h
    exact quiet_of_page (by decide) rfl
  · intro error h
    simp only [showManifest] at h
    split at h <;> cases h
    exact nofun

lemma readsQuietly_view (route : Route) : ReadsQuietly (Portal.view settings caller route) := by
  cases route with
  | system => exact readsQuietly_showSystemMode settings caller
  | entities kind => exact readsQuietly_listEntities settings caller kind
  | entity kind id => exact readsQuietly_showEntity settings caller kind id
  | manifest => exact readsQuietly_showManifest settings
  | status =>
    refine Task.reads_lift (Program.Reads.bind reads_readSystemMode fun _ _ => ?_)
    exact quiet_of_page (by decide) rfl

lemma reads_showRejectedMode (form : Form) (submission : Texts) (rejections : Rejections) :
    (showRejectedMode settings caller form submission rejections).Reads Outcome.Quiet :=
  Program.Reads.bind reads_readSystemMode fun _ _ => quiet_of_page (by decide) rfl

lemma reads_showRejectedEntity (entity : Entity) (form : Form) (submission : Texts)
    (rejections : Rejections) :
    (showRejectedEntity settings caller entity form submission rejections).Reads Outcome.Quiet :=
  Program.Reads.bind (reads_fetch entity) fun _ _ => quiet_of_page (by decide) rfl

end

/-! ### Handlers of submissions -/

section

variable {portal : Portal} {request : Request}

/-- A run of a handler that ends in one of the effects. -/
def HasEffect (portal : Portal) (request : Request) (plant : Simulated)
    (task : Task Error Outcome) : Prop :=
  Task.Ends task plant (Effect portal request plant) fun error =>
    Effect portal request plant (.ofError error)

lemma ReadsQuietly.hasEffect {task : Task Error Outcome} (h : ReadsQuietly task)
    (plant : Simulated) : HasEffect portal request plant task := by
  apply (Task.Reads.ends h plant).mono
  · rintro outcome after writes ⟨hquiet, rfl, rfl⟩
    exact .nothing hquiet
  · rintro error after writes ⟨hquiet, rfl, rfl⟩
    exact .nothing hquiet.outcome

/-- What is known without any call stops a handler quietly or is passed on. -/
lemma HasEffect.ofExcept {α : Type} {result : Except Error α} {f : α → Task Error Outcome}
    {plant : Simulated} (hquiet : ∀ error, result = .error error → Quiet error)
    (hrest : ∀ value, result = .ok value → HasEffect portal request plant (f value)) :
    HasEffect portal request plant (Task.ofExcept result >>= f) := by
  refine ((Task.reads_ofExcept result).ends plant).bind ?_ ?_
  · rintro error after writes ⟨hresult, rfl, rfl⟩
    exact .nothing (hquiet error hresult).outcome
  · rintro value after writes ⟨hresult, rfl, rfl⟩
    exact hrest value hresult

lemma hasEffect_submitSystemMode (plant : Simulated) (hpost : request.method = .post)
    (hroute : Portal.accept request = .ok .system) :
    HasEffect portal request plant
      (submitSystemMode portal.settings (portal.caller request)
        (submittedTexts request.body)) := by
  refine .ofExcept (fun _ => quiet_of_demand) fun modes hmodes => ?_
  dsimp only
  cases hvalues : (Form.system modes).validate (submittedTexts request.body) with
  | error rejections =>
    exact ReadsQuietly.hasEffect (Task.reads_lift (reads_showRejectedMode _ _ _ _ _)) plant
  | ok values =>
    refine .ofExcept (fun _ => quiet_of_modeChange) fun change hchange => ?_
    have submission : ModeSubmission portal request change :=
      ⟨hpost, hroute, modes, values, hmodes, hvalues, hchange⟩
    refine (change.ends_apply plant).bind ?_ ?_
    · rintro error after writes (⟨rfl, rfl, failure, rfl⟩ | ⟨failure, hmode, hflag, rfl, rfl⟩)
      · exact .nothing (Quiet.outcome nofun)
      · exact .modeHalfSet submission hmode hflag
    · rintro composite after writes ⟨rfl, middle, hmode, hflag, rfl⟩
      exact Task.ends_pure (.modeSet submission hmode hflag)

/-- What is addressed belongs to the context of its kind. -/
lemma context_of_addressed {settings : Settings} {caller : Identity} {kind : Kind} {id : String}
    {context : EntityContext} {entity : Entity}
    (h : addressed settings caller kind id = .ok (context, entity)) :
    EntityContext.of settings caller kind = .ok context ∧ context.address id = .ok entity := by
  obtain ⟨found, hcontext, h⟩ := bind_eq_ok h
  obtain ⟨other, hentity, h⟩ := bind_eq_ok h
  cases h
  exact ⟨hcontext, hentity⟩

lemma kind_of_addressed {settings : Settings} {caller : Identity} {kind : Kind} {id : String}
    {context : EntityContext} {entity : Entity}
    (h : addressed settings caller kind id = .ok (context, entity)) : entity.kind = kind := by
  obtain ⟨hcontext, hentity⟩ := context_of_addressed h
  exact (kind_of_read (read_of_address hentity).1).trans (resolved_of_context hcontext).1

lemma hasEffect_submitEntity (plant : Simulated) {kind : Kind} {id : String}
    (hpost : request.method = .post) (hroute : Portal.accept request = .ok (.entity kind id)) :
    HasEffect portal request plant
      (submitEntity portal.settings (portal.caller request) kind id
        (submittedTexts request.body)) := by
  refine .ofExcept (fun _ => quiet_of_addressed) ?_
  rintro ⟨context, entity⟩ haddressed
  obtain rfl := kind_of_addressed haddressed
  dsimp only
  cases hvalues : (Form.entity entity.kind context.runModes).validate
      (submittedTexts request.body) with
  | error rejections =>
    exact ReadsQuietly.hasEffect (Task.reads_lift (reads_showRejectedEntity _ _ _ _ _ _)) plant
  | ok values =>
    have submission : EntitySubmission portal request context entity values :=
      ⟨hpost, ⟨id, hroute, haddressed⟩, hvalues⟩
    obtain ⟨offset, hoffset⟩ := exists_decimal?_of_entity hvalues
    dsimp only
    -- Planning only reads, so whatever fails up to here fails quietly.
    refine (Task.ends_ofPlant (ChangePlan.ends_build entity (values.decimal? offsetKey)
      (overrideRequest? values) plant)).bind ?_ ?_
    · rintro error after writes ⟨failure, rfl, rfl, rfl⟩
      exact .nothing (Quiet.outcome nofun)
    rintro ⟨_, _, override⟩ after writes ⟨rfl, rfl, rfl, rfl, hplanned⟩
    refine (ChangePlan.ends_apply hoffset after).bind ?_ ?_
    · rintro error last writes (⟨rfl, rfl, failure, rfl⟩ |
        ⟨call, failure, rfl, hset, hcall, rfl, rfl⟩)
      · exact .nothing (Quiet.outcome nofun)
      · exact .entityHalfSet submission hoffset hplanned hset hcall
    · rintro ⟨⟩ last writes ⟨middle, hset, ⟨rfl, rfl, rfl⟩ | ⟨call, rfl, hcall, rfl⟩⟩
      · refine Task.ends_pure (.offsetSet submission hoffset ?_ hset)
        -- Nothing is planned for the override only if nothing is asked of it.
        generalize overrideRequest? values = asked at hplanned
        cases hplanned
        rfl
      · exact Task.ends_pure (.entitySet submission hoffset hplanned hset hcall)

/-! ### Serving -/

lemma Outcome.Quiet.cut {outcome : Outcome} (h : outcome.Quiet) (method : Method) :
    (Portal.cut method outcome).Quiet :=
  ⟨h.status, h.code, h.publish⟩

lemma cut_of_post {outcome : Outcome} (hpost : request.method = .post)
    (h : outcome.response.headersOnly = false) :
    Portal.cut request.method outcome = outcome := by
  obtain ⟨⟨status, location, document, headersOnly⟩, warnings, publish⟩ := outcome
  cases h
  rw [hpost]
  rfl

/-- Only pages are shortened to their head, never the answers to submissions. -/
lemma Effect.cut {plant after : Simulated} {outcome : Outcome} {writes : List Performed}
    (h : Effect portal request plant outcome after writes) :
    Effect portal request plant (Portal.cut request.method outcome) after writes := by
  cases h with
  | nothing hquiet => exact .nothing (hquiet.cut _)
  | modeSet submission hmode hflag =>
    rw [cut_of_post submission.post rfl]
    exact .modeSet submission hmode hflag
  | modeHalfSet submission hmode hflag =>
    rw [cut_of_post submission.post rfl]
    exact .modeHalfSet submission hmode hflag
  | offsetSet submission hoffset hnone hset =>
    rw [cut_of_post submission.post rfl]
    exact .offsetSet submission hoffset hnone hset
  | entitySet submission hoffset hplanned hset hcall =>
    rw [cut_of_post submission.post rfl]
    exact .entitySet submission hoffset hplanned hset hcall
  | entityHalfSet submission hoffset hplanned hset hcall =>
    rw [cut_of_post submission.post rfl]
    exact .entityHalfSet submission hoffset hplanned hset hcall

lemma eq_plain_of_decode {route : Route} {response : Response}
    (h : route.decode = .error response) : response = .plain 400 (.plain idNotText) := by
  unfold Route.decode at h
  split at h
  · split at h <;> cases h
    rfl
  · cases h

/-- Only a JSON document carries an error. -/
lemma errorCode?_of_json? {document : Document} (h : document.json? = none) (status : Nat) :
    (Response.plain status document).errorCode? = none := by
  cases document with
  | empty | plain => rfl
  | _ => cases h

/-- A request that is refused for its form gets a page with one of four statuses, and no JSON. -/
lemma exists_plain_of_refusal {response : Response}
    (h : Portal.accept request = .error response) :
    ∃ status ∈ [400, 404, 405, 415], ∃ document, response = .plain status document ∧
      document.json? = none := by
  unfold Portal.accept at h
  split at h
  · next route hroute =>
    by_cases hallows : route.allows request.method = true
    · rw [if_pos hallows] at h
      rcases bind_eq_error h with h | ⟨decoded, -, h⟩
      · exact ⟨400, by simp, .plain idNotText, eq_plain_of_decode h, rfl⟩
      · split at h <;> cases h
        exact ⟨415, by simp, _, rfl, rfl⟩
    · rw [if_neg hallows] at h
      cases h
      exact ⟨405, by simp, _, rfl, rfl⟩
  · cases h
    exact ⟨404, by simp, _, rfl, rfl⟩

lemma quiet_of_refusal {response : Response} (h : Portal.accept request = .error response) :
    (Outcome.ofResponse response).Quiet := by
  obtain ⟨status, hmem, document, rfl, hjson⟩ := exists_plain_of_refusal h
  refine quiet_of_page ?_ (errorCode?_of_json? hjson status)
  rintro rfl
  simp at hmem

lemma hasEffect_handle (plant : Simulated) {route : Route}
    (hroute : Portal.accept request = .ok route) :
    HasEffect portal request plant (portal.handle request route) := by
  unfold Portal.handle
  dsimp only
  split
  · next hpost =>
    cases route with
    | system => exact hasEffect_submitSystemMode plant hpost hroute
    | entity kind id => exact hasEffect_submitEntity plant hpost hroute
    | entities | manifest | status =>
      exact Task.ends_pure (.nothing (quiet_of_page (by decide) rfl))
  · exact (readsQuietly_view _ _ route).hasEffect plant

/-- Serving a request ends in one of the effects. -/
theorem serve_effect (portal : Portal) (request : Request) (plant : Simulated) :
    Program.Ends (portal.serve request) plant (Effect portal request plant) := by
  unfold Portal.serve
  cases haccept : Portal.accept request with
  | error response => exact Effect.nothing ((quiet_of_refusal haccept).cut _)
  | ok route =>
    have hhandle : HasEffect portal request plant (portal.handle request route) :=
      hasEffect_handle plant haccept
    unfold HasEffect Task.Ends at hhandle
    have hserved : Program.Ends (portal.handle request route).run plant fun result =>
        Effect portal request plant (Portal.cut request.method (.ofExcept result)) := by
      apply Program.Ends.mono hhandle
      rintro (error | outcome) after writes heffect
      · exact heffect.cut
      · exact heffect.cut
    exact hserved.map

end

end HeatingPortal.Web
