import HeatingPortal.Proofs.Literals
import HeatingPortal.Proofs.LoadedSettings
import HeatingPortal.Proofs.Paths
import HeatingPortal.Proofs.Rejections

/-!
# Offered choices

The page of a form offers choices, and a submission of the same form is checked against
choices. The two requests resolve the list one after the other and each on its own, perhaps
while the plant changes or fails, yet for one caller both get the form that `FormFor` names. So
the text of a choice field is accepted when it is a literal of an offered code, and otherwise
its field is rejected.
-/

namespace HeatingPortal

/-! ### Choices and reasons of a form -/

namespace Form

open Plant Settings Text

variable {form : Form} {submission texts : Texts} {rejections : Rejections} {key : String}
  {field : Field} {choices : List Choice}

/-- The choices of the field under a key. -/
def choices? (form : Form) (key : String) : Option (List Choice) :=
  (form.fields.find? (·.key = key)).bind (·.kind.choices?)

/-- The choices that a filled form offers under a key. -/
def Filled.offered? (filled : Filled) (key : String) : Option (List Choice) :=
  (filled.fields.find? (·.field.key = key)).bind (·.field.kind.choices?)

/-- The reason that a filled form gives under a key. -/
def Filled.reason? (filled : Filled) (key : String) : Option String :=
  (filled.fields.find? (·.field.key = key)).bind (·.error)

lemma offered?_fill (form : Form) (texts : Texts) (rejections : Rejections) (key : String) :
    (form.fill texts rejections).offered? key = form.choices? key := by
  rw [Filled.offered?, choices?, find?_fill]
  cases form.fields.find? (·.key = key) <;> rfl

lemma reason?_fill (texts : Texts) (rejections : Rejections)
    (h : form.fields.find? (·.key = key) = some field) :
    (form.fill texts rejections).reason? key = rejections.reason? key := by
  have hkey : field.key = key := by simpa using List.find?_some h
  rw [Filled.reason?, find?_fill, h, Option.map_some, Option.bind_some, Field.fill, hkey]

/-- The first rejection of a field is looked up under its key. -/
lemma reason?_eq_lookup (rejections : Rejections) (key : String) :
    rejections.reason? key =
      (rejections.map fun rejection => (rejection.field, rejection.reason)).lookup key := by
  induction rejections with
  | nil => rfl
  | cons rejection rest ih =>
    rw [Rejections.reason?] at ih ⊢
    rw [List.map_cons, List.lookup_cons, List.find?_cons, ← ih]
    by_cases hkey : rejection.field = key
    · simp [hkey]
    · have hne : (key == rejection.field) = false := beq_false_of_ne (Ne.symm hkey)
      simp [hkey, hne]

/-- A form with different keys gives each field the reason of its own check. -/
lemma reason?_rejections (hnodup : (form.fields.map (·.key)).Nodup) (hmem : field ∈ form.fields)
    (submission : Texts) :
    (form.rejections submission).reason? field.key =
      (field.rejection? submission).map (·.reason) := by
  have hkeyed (other : Field) :
      (other.rejection? submission).map (fun rejection => (rejection.field, rejection.reason)) =
        ((other.rejection? submission).map (·.reason)).map (other.key, ·) := by
    unfold Field.rejection?
    split <;> rfl
  rw [reason?_eq_lookup, rejections, List.map_filterMap]
  simp only [hkeyed]
  exact lookup_filterMap_key hnodup hmem

/-- A choice field is rejected unless its text spells the code of one of its choices. -/
lemma reason?_choice_eq_none_iff (hnodup : (form.fields.map (·.key)).Nodup)
    (h : form.choices? key = some choices) :
    (form.rejections submission).reason? key = none ↔
      ∃ text, submission.get? key = some text ∧
        ∃ choice ∈ choices, IsPaddedLiteral text.toList choice.code.toInt := by
  obtain ⟨⟨key', label, kind⟩, hfind, hkind⟩ := Option.bind_eq_some_iff.mp h
  obtain rfl : key' = key := by simpa using List.find?_some hfind
  cases kind with
  | display | decimal | checkbox => cases hkind
  | choice list =>
    obtain rfl : list = choices := Option.some.inj hkind
    have hfield := reason?_rejections hnodup (List.mem_of_find?_eq_some hfind) submission
    rw [hfield, Option.map_eq_none_iff, rejection?_choice_eq_none_iff]
    simp only [checkChoice_eq_ok_iff]
    cases submission.get? key' with
    | none =>
      have hempty : trimmedInt64? "" = none := by decide
      simp [hempty]
    | some text =>
      simp only [Option.getD_some, Option.some.injEq, exists_eq_left',
        ← trimmedInt64?_eq_some_iff]
      constructor
      · rintro ⟨code, hcode, choice, hmem, rfl⟩
        exact ⟨choice, hmem, hcode⟩
      · rintro ⟨choice, hmem, hcode⟩
        exact ⟨choice.code, hcode, choice, hmem, rfl⟩

lemma rejections_of_validate_error (h : form.validate submission = .error rejections) :
    rejections = form.rejections submission := by
  unfold validate at h
  split at h <;> cases h
  rfl

lemma rejections_of_validate_ok {values : Values} (h : form.validate submission = .ok values) :
    form.rejections submission = [] :=
  List.filterMap_eq_nil_iff.mpr (validate_eq_ok_iff.mp h).1

end Form

namespace Web

open Caller Form Plant Settings Text

/-! ### Choices and reasons of a response -/

/-- The form on a page. -/
def Document.form? : Document → Option Filled
  | system page => some page.form
  | entity page => some page.form
  | _ => none

/-- Only a JSON document has a form. -/
lemma form?_of_json? {document : Document} (h : document.json? = none) :
    document.form? = none := by
  cases document with
  | empty | plain => rfl
  | _ => cases h

namespace Response

/-- The choices that a response offers under a key. -/
def offered? (response : Response) (key : String) : Option (List Choice) :=
  response.document.form?.bind (·.offered? key)

/-- The reason that a response gives against the field of a key. -/
def reason? (response : Response) (key : String) : Option String :=
  match response.document with
  | .system page => page.form.reason? key
  | .entity page => page.form.reason? key
  | .error (.rejected rejections) => rejections.reason? key
  | _ => none

/-- A response that gives against each field of a form the reason of its check. -/
def Reports (response : Response) (form : Form) (submission : Texts) : Prop :=
  ∀ key field, form.fields.find? (·.key = key) = some field →
    response.reason? key = (form.rejections submission).reason? key

end Response

/-! ### The form of a target -/

/-- The form for a target that a caller is shown and may submit. -/
inductive FormFor (settings : Settings) (caller : Identity) : Target → Form → Prop
  | system {modes : List Choice} (hmodes : systemModes settings caller = .ok modes) :
      FormFor settings caller .runtime (.system modes)
  | entity {entity : Entity} {context : EntityContext}
      (hcontext : EntityContext.of settings caller entity.kind = .ok context)
      (hmem : entity.id ∈ context.ids) :
      FormFor settings caller (.entity entity) (.entity entity.kind context.runModes)

/-- What the form of a route changes: the plant as a whole, or the entity whose
id is written there. -/
def Route.subject? : Route → Option Target
  | system => some .runtime
  | entity kind id => (Entity.read? kind id).map .entity
  | entities _ | manifest | status => none

/-- What the form at a target of requests changes, however that target is written. -/
def subject? (target : String) : Option Target :=
  (Route.ofTarget? target).bind fun route => route.decode.toOption.bind Route.subject?

variable {settings : Settings} {caller : Identity} {target : Target} {form : Form}
  {route : Route} {submission : Texts}

lemma FormFor.nodup_keys (h : FormFor settings caller target form) :
    (form.fields.map (·.key)).Nodup := by
  cases h with
  | system => exact nodup_keys_system _
  | entity => exact nodup_keys_entity _ _

lemma formFor_of_addressed {kind : Kind} {id : String} {context : EntityContext}
    {entity : Entity} (h : addressed settings caller kind id = .ok (context, entity)) :
    Entity.read? kind id = some entity ∧
      FormFor settings caller (.entity entity) (.entity kind context.runModes) := by
  obtain ⟨hcontext, hentity⟩ := context_of_addressed h
  obtain ⟨hread, hmem⟩ := read_of_address hentity
  obtain ⟨hkind, -, -⟩ := resolved_of_context hcontext
  rw [hkind] at hread
  obtain rfl := kind_of_read hread
  exact ⟨hread, .entity hcontext hmem⟩

lemma addressed_of_formFor {entity : Entity} {context : EntityContext} {id : String}
    (hcontext : EntityContext.of settings caller entity.kind = .ok context)
    (hmem : entity.id ∈ context.ids) (hread : Entity.read? entity.kind id = some entity) :
    addressed settings caller entity.kind id = .ok (context, entity) := by
  obtain ⟨hkind, -, -⟩ := resolved_of_context hcontext
  rw [← hkind] at hread
  exact addressed_of_context hcontext (address_of_read hread hmem)

/-! ### Showing -/

/-- The form on the page of a route is the form for what the route is about. -/
lemma PageFor.exists_formFor {document : Document} {filled : Filled}
    (h : PageFor settings caller route document) (hfilled : document.form? = some filled) :
    ∃ target form texts, route.subject? = some target ∧ FormFor settings caller target form ∧
      filled = form.fill texts [] := by
  cases h with
  | system hmodes =>
    cases hfilled
    exact ⟨_, _, _, rfl, .system hmodes, rfl⟩
  | entity haddressed =>
    cases hfilled
    obtain ⟨hread, hform⟩ := formFor_of_addressed haddressed
    exact ⟨_, _, _, by rw [Route.subject?, hread]; rfl, hform, rfl⟩
  | entities | manifest | status => cases hfilled

/-! ### Submitting -/

lemma Response.reports_of_accepted {response : Response} {values : Values}
    (hvalues : form.validate submission = .ok values)
    (hnone : ∀ key, response.reason? key = none) :
    response.Reports form submission := by
  intro key field _
  rw [hnone, rejections_of_validate_ok hvalues]
  rfl

lemma Checked.reports {response : Response}
    (h : Checked settings caller form submission response) :
    response.Reports form submission := by
  cases h with
  | accepted hvalues => exact Response.reports_of_accepted hvalues fun _ => rfl
  | mode hrejections | entity hrejections =>
    intro key field hfield
    rw [← rejections_of_validate_error hrejections]
    exact reason?_fill _ _ hfield

lemma OfPlant.reports {error : Error} {values : Values} (h : OfPlant error)
    (hvalues : form.validate submission = .ok values) :
    (Response.ofError error).Reports form submission := by
  refine Response.reports_of_accepted hvalues fun key => ?_
  cases error with
  | plant | halfDone => rfl
  | _ => cases h

/-- Serving a submission reports the check of a form, whatever comes of the calls. -/
def ReportsForm (form : Form) (submission : Texts) (task : Task Error Outcome) : Prop :=
  Task.Within (fun _ => True) task (fun outcome => outcome.response.Reports form submission)
    fun error => (Response.ofError error).Reports form submission

lemma reportsForm_submitSystemMode (hsound : settings.Sound) {modes : List Choice}
    (hmodes : systemModes settings caller = .ok modes) (submission : Texts) :
    ReportsForm (.system modes) submission (submitSystemMode settings caller submission) := by
  refine (within_submitSystemMode settings caller submission fun _ _ => trivial).mono ?_ ?_
  · rintro outcome ⟨found, hfound, hchecked⟩
    cases hmodes.symm.trans hfound
    exact hchecked.reports
  · rintro error (herror | ⟨found, values, hfound, hvalues, herror⟩)
    · cases hmodes.symm.trans herror
    · cases hmodes.symm.trans hfound
      exact (herror hsound).reports hvalues

lemma reportsForm_submitEntity {kind : Kind} {id : String} {context : EntityContext}
    {entity : Entity} (haddressed : addressed settings caller kind id = .ok (context, entity))
    (submission : Texts) :
    ReportsForm (.entity kind context.runModes) submission
      (submitEntity settings caller kind id submission) := by
  refine (within_submitEntity settings caller submission fun _ _ _ _ _ => trivial).mono ?_ ?_
  · rintro outcome ⟨_, _, hfound, hchecked⟩
    cases haddressed.symm.trans hfound
    exact hchecked.reports
  · rintro error (herror | ⟨_, _, values, hfound, hvalues, herror⟩)
    · cases haddressed.symm.trans herror
    · cases haddressed.symm.trans hfound
      exact herror.reports hvalues

/-- A submission for what a route is about is checked by the form that its
caller is shown there. -/
lemma reportsForm_submit (hsound : settings.Sound) (hsubject : route.subject? = some target)
    (h : FormFor settings caller target form) (submission : Texts) :
    ReportsForm form submission (Portal.submit settings caller submission route) := by
  cases h with
  | system hmodes =>
    cases route with
    | system => exact reportsForm_submitSystemMode hsound hmodes submission
    | entity kind id =>
      obtain ⟨entity, -, hentity⟩ := Option.map_eq_some_iff.mp hsubject
      cases hentity
    | entities | manifest | status => cases hsubject
  | entity hcontext hmem =>
    cases route with
    | entity kind id =>
      obtain ⟨entity, hread, hentity⟩ := Option.map_eq_some_iff.mp hsubject
      cases hentity
      obtain rfl := kind_of_read hread
      exact reportsForm_submitEntity (addressed_of_formFor hcontext hmem hread) submission
    | system | entities | manifest | status => cases hsubject

/-! ### Requests -/

section

variable {portal : Portal} {request : Request}

lemma subject?_decode {decoded : Route} (h : route.decode = .ok decoded)
    (hsubject : decoded.subject? = some target) : route.takesForms = true := by
  cases route with
  | system | entity => rfl
  | entities | manifest | status =>
    cases h
    cases hsubject

lemma subject?_of_accept (h : Portal.accept request = .ok route) :
    subject? request.target = route.subject? := by
  unfold Portal.accept at h
  cases hroute : Route.ofTarget? request.target with
  | none =>
    rw [hroute] at h
    cases h
  | some found =>
    rw [hroute] at h
    dsimp only at h
    split at h
    · obtain ⟨decoded, hdecoded, h⟩ := bind_eq_ok h
      split at h
      · cases h
      · cases h
        rw [subject?, hroute, Option.bind_some, hdecoded]
        rfl
    · cases h

/-- A form that is submitted to a target that is about something is accepted there. -/
lemma exists_accept (hpost : request.method = .post) (hform : request.isForm = true)
    (hsubject : subject? request.target = some target) :
    ∃ route, Portal.accept request = .ok route ∧ route.subject? = some target := by
  obtain ⟨route, hroute, hdecoded⟩ := Option.bind_eq_some_iff.mp hsubject
  obtain ⟨decoded, hdecode, hsubject⟩ := Option.bind_eq_some_iff.mp hdecoded
  have hdecode := eq_ok_of_toOption hdecode
  have htakes := subject?_decode hdecode hsubject
  refine ⟨decoded, ?_, hsubject⟩
  simp only [Portal.accept, hroute, hpost, Route.allows, htakes, if_true, hdecode, hform]
  rfl

/-- A page offers the choices of the form for what its target is about. -/
lemma formFor_of_offered (portal : Portal) {request : Request} (hget : request.method = .get)
    (world : World) {key : String} {choices : List Choice}
    (hoffered : (world.serve portal request).1.1.offered? key = some choices) :
    ∃ target form, subject? request.target = some target ∧
      FormFor portal.settings (portal.caller request) target form ∧
      form.choices? key = some choices := by
  obtain ⟨filled, hfilled, hchoices⟩ := Option.bind_eq_some_iff.mp hoffered
  rw [World.serve_eq] at hfilled
  cases haccept : Portal.accept request with
  | error response =>
    obtain ⟨status, -, document, rfl, hjson⟩ := exists_plain_of_refusal haccept
    rw [World.outcome, serve_of_refusal haccept] at hfilled
    cases (form?_of_json? hjson).symm.trans hfilled
  | ok route =>
    have hview := readsPage_view portal.settings (portal.caller request) route
    rw [← handle_of_get hget] at hview
    have hserve : (portal.serve request).Within
        (fun operation => CanReach portal.settings (portal.caller request) operation.target)
        fun outcome => ∀ filled, outcome.response.document.form? = some filled →
          ∃ document, document.form? = some filled ∧
            PageFor portal.settings (portal.caller request) route document := by
      refine within_serve_of_handle haccept hview ?_ ?_
      · rintro outcome ⟨document, warnings, rfl, hpage⟩ filled hfilled
        exact ⟨document, hfilled, hpage⟩
      · intro error _ filled hfilled
        cases hfilled
    obtain ⟨document, hdocument, hpage⟩ :=
      hserve.run Simulated.answer world.plant filled hfilled
    obtain ⟨target, form, texts, hsubject, hform, rfl⟩ := hpage.exists_formFor hdocument
    rw [offered?_fill] at hchoices
    exact ⟨target, form, (subject?_of_accept haccept).trans hsubject, hform, hchoices⟩

/-- A submitted form is answered with the reasons of the form for what its target is about. -/
lemma reports_of_formFor (hsound : portal.settings.Sound) (hpost : request.method = .post)
    (hform : request.isForm = true) (hsubject : subject? request.target = some target)
    (hfor : FormFor portal.settings (portal.caller request) target form) (world : World) :
    (world.serve portal request).1.1.Reports form (submittedTexts request.body) := by
  obtain ⟨route, haccept, hroute⟩ := exists_accept hpost hform hsubject
  have hsubmit := reportsForm_submit hsound hroute hfor (submittedTexts request.body)
  have hserve : (portal.serve request).Within (fun _ => True) fun outcome =>
      outcome.response.Reports form (submittedTexts request.body) :=
    within_serve hpost haccept hsubmit (fun _ hreports => hreports) fun _ hreports => hreports
  rw [World.serve_eq]
  exact hserve.run Simulated.answer world.plant

end

/-- A caller may submit exactly what a page offered: the field of a key on offer is not rejected
when its text is a literal of an offered code, perhaps between blanks, and only then. In
particular every offered code is accepted as it is written, and nothing is accepted where
nothing is on offer. -/
theorem choice_accepted_iff_offered (document : Kdl.Document) (settings : Settings)
    (hload : ofKdl document = .ok settings) (header : String) (shown sent : Request)
    (hget : shown.method = .get) (hpost : sent.method = .post) (hform : sent.isForm = true)
    (hsubject : subject? sent.target = subject? shown.target)
    (hcaller : Portal.caller ⟨settings, header⟩ sent = Portal.caller ⟨settings, header⟩ shown)
    (world later : World) (key : String) (choices : List Choice)
    (hoffered : (world.serve ⟨settings, header⟩ shown).1.1.offered? key = some choices) :
    let raw := (submittedTexts sent.body).get? key
    let reason := (later.serve ⟨settings, header⟩ sent).1.1.reason? key
    (reason = none ↔ ∃ text, raw = some text ∧
      ∃ choice ∈ choices, IsPaddedLiteral text.toList choice.code.toInt) ∧
    (∀ choice ∈ choices, raw = some (ofInt64 choice.code) → reason = none) ∧
    (choices = [] → reason ≠ none) := by
  intro raw reason
  obtain ⟨target, form, htarget, hfor, hchoices⟩ := formFor_of_offered _ hget world hoffered
  obtain ⟨field, hfield, -⟩ := Option.bind_eq_some_iff.mp hchoices
  rw [← hcaller] at hfor
  have hreports : reason = (form.rejections (submittedTexts sent.body)).reason? key :=
    reports_of_formFor (sound_of_ofKdl hload) hpost hform (hsubject.trans htarget) hfor later key
      field hfield
  have haccepted : reason = none ↔ ∃ text, raw = some text ∧
      ∃ choice ∈ choices, IsPaddedLiteral text.toList choice.code.toInt := by
    rw [hreports]
    exact reason?_choice_eq_none_iff hfor.nodup_keys hchoices
  refine ⟨haccepted, fun choice hmem hraw => ?_, fun hempty hreason => ?_⟩
  · exact haccepted.mpr ⟨_, hraw, choice, hmem, isPaddedLiteral_ofInt64 choice.code⟩
  · obtain ⟨text, -, choice, hmem, -⟩ := haccepted.mp hreason
    rw [hempty] at hmem
    cases hmem

/-- The second of the run modes is submitted after an ideographic and an em space, with
a sign and zeros in front and under another spelling of the id; the offset is rejected,
the run mode is not. -/
theorem choice_accepted_iff_offered_padded :
    let portal := Portal.ofSettings demoSettings
    let shown : Request := ⟨.get, "/circuits/0", [], []⟩
    let sent : Request := ⟨.post, "/circuits/%2B00", [("content-type", formType)],
      "offset=x&runmode=%E3%80%80%E2%80%83%2B002".toUTF8.toList⟩
    let world := World.ofPlant .demo
    let later := World.ofPlant .empty
    let choices : List Choice := [⟨1, "Program"⟩, ⟨2, "Comfort"⟩]
    let answer := (later.serve portal sent).1.1
    ofKdl demoDocument = .ok demoSettings ∧ subject? sent.target = subject? shown.target ∧
      portal.caller sent = portal.caller shown ∧
      (world.serve portal shown).1.1.status = 200 ∧
      (world.serve portal shown).1.1.offered? runModeKey = some choices ∧
      answer.status = 422 ∧ answer.reason? offsetKey = some notDecimal ∧
      (answer.reason? runModeKey = none ↔ ∃ text,
        (submittedTexts sent.body).get? runModeKey = some text ∧
          ∃ choice ∈ choices, IsPaddedLiteral text.toList choice.code.toInt) ∧
      answer.reason? runModeKey = none := by
  intro portal shown sent world later choices answer
  have hsubject : subject? sent.target = subject? shown.target := by decide +kernel
  have hcaller : portal.caller sent = portal.caller shown := by decide +kernel
  have hoffered : (world.serve portal shown).1.1.offered? runModeKey = some choices := by
    decide +kernel
  obtain ⟨haccepted, -, -⟩ := choice_accepted_iff_offered demoDocument demoSettings
    ofKdl_demoDocument defaultIdentityHeader shown sent rfl rfl (by decide +kernel)
    hsubject hcaller world later runModeKey choices hoffered
  exact ⟨ofKdl_demoDocument, hsubject, hcaller, by decide +kernel, hoffered, by decide +kernel,
    by decide +kernel, haccepted, by decide +kernel⟩

end Web

end HeatingPortal
