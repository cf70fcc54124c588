import HeatingPortal.Proofs.Reach
import HeatingPortal.Proofs.Sessions

/-!
# Rejections

Whether a request is rejected, and how, is known before the plant is asked. The plant has a share
in one kind of rejection only: a rejected form is shown again, and what it shows of the plant is
the live part of the page. Without that part, every run of a request that is rejected ends alike,
and a request that is not rejected in one run is rejected in none (`rejection_congr`).
-/

namespace HeatingPortal

open Caller Form Plant Settings Web

/-! ### Live parts -/

namespace Form

/-- A field without what it shows of the plant, which is the value of a
field that is only shown. -/
def FilledField.withoutLive (filled : FilledField) : FilledField :=
  if filled.field.kind.isEditable then filled else { filled with value := .nothing }

/-- A form without what it shows of the plant. -/
def Filled.withoutLive (filled : Filled) : Filled :=
  { filled with fields := filled.fields.map FilledField.withoutLive }

lemma lookup_filterMap_of_ne {α : Type} {fields : List Field} {f : Field → Option α}
    {key : String} (h : ∀ field ∈ fields, field.key ≠ key) :
    (fields.filterMap fun field => (f field).map (field.key, ·)).lookup key = none := by
  induction fields with
  | nil => rfl
  | cons field rest ih =>
    obtain ⟨hfield, hrest⟩ := List.forall_mem_cons.mp h
    cases hvalue : f field with
    | none => simpa [hvalue] using ih hrest
    | some value =>
      have hkey : (key == field.key) = false := beq_false_of_ne hfield.symm
      simpa [hvalue, List.lookup_cons, hkey] using ih hrest

/-- Among fields of different keys, each has what was made for it. -/
lemma lookup_filterMap_key {α : Type} {fields : List Field} {f : Field → Option α}
    (h : (fields.map (·.key)).Nodup) {field : Field} (hmem : field ∈ fields) :
    (fields.filterMap fun field => (f field).map (field.key, ·)).lookup field.key = f field := by
  induction fields with
  | nil => cases hmem
  | cons first rest ih =>
    rw [List.map_cons, List.nodup_cons] at h
    obtain ⟨hfirst, hrest⟩ := h
    have hne : ∀ other ∈ rest, other.key ≠ first.key := by
      intro other hother heq
      exact hfirst (heq ▸ List.mem_map_of_mem hother)
    rcases List.mem_cons.mp hmem with rfl | hmem
    · cases hvalue : f field with
      | none => simpa [hvalue] using lookup_filterMap_of_ne hne
      | some value => simp [hvalue]
    · have hkey : (field.key == first.key) = false := beq_false_of_ne (hne field hmem)
      cases hvalue : f first with
      | none => simpa [List.filterMap_cons, hvalue] using ih hrest hmem
      | some value =>
        simpa [List.filterMap_cons, hvalue, List.lookup_cons, hkey] using ih hrest hmem

/-- A rejected field is shown with what was submitted for it, or with what is live. -/
lemma get?_attempted {form : Form} (h : (form.fields.map (·.key)).Nodup)
    (live submission : Texts) {field : Field} (hmem : field ∈ form.fields) :
    (form.attempted live submission).get? field.key =
      (if field.kind.isEditable then submission else live).get? field.key :=
  lookup_filterMap_key h hmem

/-- Without its live part, a form that is shown again depends on the submission alone. -/
lemma withoutLive_fill_attempted {form : Form} (h : (form.fields.map (·.key)).Nodup)
    (live other submission : Texts) (rejections : Rejections) :
    (form.fill (form.attempted live submission) rejections).withoutLive =
      (form.fill (form.attempted other submission) rejections).withoutLive := by
  simp only [fill, Filled.withoutLive, List.map_map, Filled.mk.injEq, true_and]
  refine List.map_congr_left fun field hmem => ?_
  simp only [Function.comp_apply, FilledField.withoutLive, Field.fill, get?_attempted h _ _ hmem]
  cases field.kind.isEditable <;> rfl

lemma nodup_keys_system (modes : List Choice) :
    ((Form.system modes).fields.map (·.key)).Nodup := by
  simp [system, modeKey, suppressKey]

lemma nodup_keys_entity (kind : Kind) (runModes : Option (List Choice)) :
    ((Form.entity kind runModes).fields.map (·.key)).Nodup := by
  cases runModes <;> simp [entity, runModeFields, offsetKey, runModeKey, overrideKey]

end Form

namespace Web

/-- A document without what it shows of the plant. -/
def Document.withoutLive : Document → Document
  | system page => system { page with mode := none, form := page.form.withoutLive }
  | entity page => entity { page with form := page.form.withoutLive, state := none }
  | document => document

/-! ### Verdicts -/

namespace Response

/-- A rejection puts the blame on the request. -/
def IsRejection (response : Response) : Prop :=
  400 ≤ response.status ∧ response.status < 500

instance (response : Response) : Decidable response.IsRejection :=
  inferInstanceAs (Decidable (_ ∧ _))

/-- What of a rejection is settled without the plant: all of it, the live part of a form that is
shown again aside. -/
def settled (response : Response) : Response :=
  if response.status = 422 then { response with document := response.document.withoutLive }
  else response

/-- What is settled of a response that is a rejection. -/
def verdict? (response : Response) : Option Response :=
  if response.IsRejection then some response.settled else none

lemma verdict?_of_status {response : Response}
    (h : response.status < 400 ∨ 500 ≤ response.status) :
    response.verdict? = none := by
  refine if_neg fun hrejection => ?_
  obtain ⟨hlow, hhigh⟩ := hrejection
  omega

lemma status_settled (response : Response) : response.settled.status = response.status := by
  unfold settled
  split <;> rfl

/-- Of two responses with the same verdict, one is a rejection of a status if the other is. -/
lemma status_of_verdict?_eq {response other : Response} (h : response.verdict? = other.verdict?)
    (hrejection : response.IsRejection) : other.status = response.status := by
  rw [verdict?, if_pos hrejection, verdict?] at h
  split at h
  · rw [← status_settled other, ← Option.some.inj h, status_settled]
  · cases h

lemma status_iff_of_verdict?_eq {response other : Response}
    (h : response.verdict? = other.verdict?) {status : Nat} (hlow : 400 ≤ status)
    (hhigh : status < 500) : response.status = status ↔ other.status = status := by
  constructor
  · rintro rfl
    exact status_of_verdict?_eq h ⟨hlow, hhigh⟩
  · rintro rfl
    exact status_of_verdict?_eq h.symm ⟨hlow, hhigh⟩

/-- Rejections with the same verdict are settled alike. -/
lemma settled_eq_of_verdict?_eq {response other : Response}
    (h : response.verdict? = other.verdict?)
    (hrejection : response.IsRejection) : response.settled = other.settled := by
  rw [verdict?, if_pos hrejection, verdict?] at h
  split at h
  · exact Option.some.inj h
  · cases h

/-- A verdict is cut to its head as the response is. -/
lemma verdict?_headersOnly (response : Response) (headersOnly : Bool) :
    verdict? { response with headersOnly } =
      response.verdict?.map ({ · with headersOnly }) := by
  by_cases h : response.IsRejection
  · have hcut : IsRejection { response with headersOnly } := h
    rw [verdict?, verdict?, if_pos h, if_pos hcut]
    unfold settled
    split <;> rfl
  · have hcut : ¬IsRejection { response with headersOnly } := h
    rw [verdict?, verdict?, if_neg h, if_neg hcut]
    rfl

end Response

/-! ### Decided tasks -/

/-- Whatever it is answered, a program ends with one verdict. -/
def Decides (verdict : Option Response) (program : Program Outcome) : Prop :=
  program.Within (fun _ => True) fun outcome => outcome.response.verdict? = verdict

/-- Whatever it is answered, a task ends with one verdict on its outcome or its error. -/
def IsDecided (task : Task Error Outcome) : Prop :=
  ∃ verdict, Task.Within (fun _ => True) task
    (fun outcome => outcome.response.verdict? = verdict)
    fun error => (Response.ofError error).verdict? = verdict

/-- What is known without any call decides, or the rest does. -/
lemma isDecided_ofExcept_bind {α : Type} {result : Except Error α} {f : α → Task Error Outcome}
    (h : ∀ value, IsDecided (f value)) : IsDecided (Task.ofExcept result >>= f) := by
  cases result with
  | error error => exact ⟨(Response.ofError error).verdict?, rfl⟩
  | ok value => exact h value

lemma isDecided_lift {verdict : Option Response} {program : Program Outcome}
    (h : Decides verdict program) : IsDecided (ExceptT.lift program) :=
  ⟨verdict, Task.within_lift h⟩

/-- A failed call to the plant is no rejection, whether something was written before or not. -/
lemma OfPlant.verdict? {error : Error} (h : OfPlant error) :
    (Response.ofError error).verdict? = none := by
  apply Response.verdict?_of_status
  cases error with
  | plant | halfDone => exact .inr (by simp [Response.ofError, Response.plain, Error.status])
  | _ => cases h

lemma verdict?_plant (failure : Failure) : (Response.ofError (.plant failure)).verdict? = none :=
  OfPlant.verdict? trivial

section

variable (settings : Settings) (caller : Identity)

lemma isDecided_showSystemMode : IsDecided (showSystemMode settings caller) := by
  refine isDecided_ofExcept_bind fun modes => isDecided_ofExcept_bind fun list => ⟨none, ?_⟩
  refine (Task.within_ofPlant (within_readSystemMode fun _ _ => trivial) verdict?_plant).bind
    fun mode _ => ?_
  refine (Task.within_lift (within_readSensors fun _ _ => trivial)).bind fun readings _ => ?_
  exact Task.within_pure rfl

lemma isDecided_listEntities (kind : Kind) :
    IsDecided (listEntities settings caller kind) := by
  refine isDecided_ofExcept_bind fun context => ⟨none, ?_⟩
  refine (Task.within_ofPlant (Task.within_mapM fun entity _ => ?_) verdict?_plant).bind
    fun entities _ => ?_
  · exact (Operation.within_send trivial).bind fun name _ => Task.within_pure trivial
  · exact Task.within_pure rfl

lemma isDecided_showEntity (kind : Kind) (id : String) :
    IsDecided (showEntity settings caller kind id) := by
  refine isDecided_ofExcept_bind fun found => ⟨none, ?_⟩
  refine (Task.within_ofPlant (within_fetch fun _ _ => trivial) verdict?_plant).bind
    fun snapshot _ => ?_
  exact Task.within_pure rfl

lemma isDecided_view (route : Route) : IsDecided (Portal.view settings caller route) := by
  cases route with
  | system => exact isDecided_showSystemMode settings caller
  | entities kind => exact isDecided_listEntities settings caller kind
  | entity kind id => exact isDecided_showEntity settings caller kind id
  | manifest =>
    cases h : showManifest settings with
    | error error => exact ⟨_, by rw [Portal.view, h]; rfl⟩
    | ok outcome => exact ⟨_, by rw [Portal.view, h]; rfl⟩
  | status =>
    refine ⟨none, Task.within_lift ?_⟩
    exact Program.Within.bind (within_readSystemMode fun _ _ => trivial) fun _ _ => rfl

/-! ### Submissions -/

lemma verdict?_page (document : Document) :
    (Response.plain 422 document).verdict? = some (.plain 422 document.withoutLive) := rfl

/-- All that the plant can add to a rejected form is its live part. -/
lemma exists_decides_showRejectedMode (modes : List Choice) (submission : Texts)
    (rejections : Rejections) : ∃ verdict, Decides verdict
      (showRejectedMode settings caller (.system modes) submission rejections) := by
  let form := (Form.system modes).fill ((Form.system modes).attempted [] submission) rejections
  refine ⟨some <| .plain 422 <| .system ⟨caller, .of settings caller, none,
    form.withoutLive, []⟩, ?_⟩
  refine Program.Within.bind (within_readSystemMode fun _ _ => trivial) fun result _ => ?_
  simp only [Program.pure_eq, Program.Within, verdict?_page, Document.withoutLive, form,
    withoutLive_fill_attempted (nodup_keys_system modes) _ [] submission rejections]

lemma exists_decides_showRejectedEntity (entity : Entity) (kind : Kind)
    (runModes : Option (List Choice)) (submission : Texts) (rejections : Rejections) :
    ∃ verdict, Decides verdict
      (showRejectedEntity settings caller entity (.entity kind runModes) submission
        rejections) := by
  let form := (Form.entity kind runModes).fill
    ((Form.entity kind runModes).attempted [] submission) rejections
  refine ⟨some <| .plain 422 <| .entity ⟨.of settings caller, entity,
    form.withoutLive, none⟩, ?_⟩
  refine Program.Within.bind (within_fetch fun _ _ => trivial) fun result _ => ?_
  simp only [Program.pure_eq, Program.Within, verdict?_page, Document.withoutLive, form,
    withoutLive_fill_attempted (nodup_keys_entity kind runModes) _ [] submission rejections]

lemma isDecided_submitSystemMode (submission : Texts) :
    IsDecided (submitSystemMode settings caller submission) := by
  refine isDecided_ofExcept_bind fun modes => ?_
  dsimp only
  cases (Form.system modes).validate submission with
  | error rejections =>
    obtain ⟨verdict, h⟩ :=
      exists_decides_showRejectedMode settings caller modes submission rejections
    exact isDecided_lift h
  | ok values =>
    refine isDecided_ofExcept_bind fun change => ⟨none, ?_⟩
    refine ((within_applyMode change fun _ _ => trivial).weaken fun _ h => h.verdict?).bind
      fun composite _ => ?_
    exact Task.within_pure rfl

lemma isDecided_submitEntity (kind : Kind) (id : String) (submission : Texts) :
    IsDecided (submitEntity settings caller kind id submission) := by
  refine isDecided_ofExcept_bind fun found => ?_
  obtain ⟨context, entity⟩ := found
  dsimp only
  cases (Form.entity kind context.runModes).validate submission with
  | error rejections =>
    obtain ⟨verdict, h⟩ := exists_decides_showRejectedEntity settings caller entity kind
      context.runModes submission rejections
    exact isDecided_lift h
  | ok values =>
    refine ⟨none, (Task.within_ofPlant (within_build _ _ trivial) verdict?_plant).bind
      fun plan _ => ?_⟩
    refine ((within_applyPlan plan fun _ _ => trivial).weaken fun _ h => h.verdict?).bind
      fun _ _ => ?_
    exact Task.within_pure rfl

lemma isDecided_submit (submission : Texts) (route : Route) :
    IsDecided (Portal.submit settings caller submission route) := by
  cases route with
  | system => exact isDecided_submitSystemMode settings caller submission
  | entity kind id => exact isDecided_submitEntity settings caller kind id submission
  | entities | manifest | status => exact ⟨_, Task.within_pure rfl⟩

end

/-! ### Serving -/

/-- Whatever the plant answers, a request ends with one verdict. -/
theorem exists_decides_serve (portal : Portal) (request : Request) :
    ∃ verdict, Decides verdict (portal.serve request) := by
  unfold Portal.serve
  cases Portal.accept request with
  | error response => exact ⟨_, rfl⟩
  | ok route =>
    have hhandle : IsDecided (portal.handle request route) := by
      unfold Portal.handle
      dsimp only
      split
      · exact isDecided_submit _ _ _ route
      · exact isDecided_view _ _ route
    obtain ⟨verdict, h⟩ := hhandle
    refine ⟨verdict.map ({ · with headersOnly := request.method = .head }),
      Program.Within.bind h fun result hresult => ?_⟩
    cases result with
    | error error => exact (Response.verdict?_headersOnly _ _).trans (congrArg _ hresult)
    | ok outcome => exact (Response.verdict?_headersOnly _ _).trans (congrArg _ hresult)

lemma verdict?_serve_congr (portal : Portal) (request : Request) (first second : World) :
    (first.serve portal request).1.1.verdict? = (second.serve portal request).1.1.verdict? := by
  obtain ⟨verdict, h⟩ := exists_decides_serve portal request
  have hserved (world : World) : (world.serve portal request).1.1.verdict? = verdict := by
    rw [World.serve_eq]
    exact h.run Simulated.answer world.plant
  rw [hserved, hserved]

/-- Two worlds reject the same requests, with the same status and the same response. Only of a
form that is shown again the live part may differ: the values of its editable fields, the choices
and the reasons are the same. -/
theorem rejection_congr (portal : Portal) (request : Request) (first second : World) :
    let answer := (first.serve portal request).1.1
    let other := (second.serve portal request).1.1
    (∀ status, 400 ≤ status → status < 500 → (answer.status = status ↔ other.status = status)) ∧
      (answer.IsRejection → answer.status ≠ 422 → answer = other) ∧
      (answer.status = 422 → answer.location = other.location ∧
        answer.headersOnly = other.headersOnly ∧
        answer.document.withoutLive = other.document.withoutLive) := by
  intro answer other
  have hverdict : answer.verdict? = other.verdict? :=
    verdict?_serve_congr portal request first second
  clear_value answer other
  refine ⟨fun status => Response.status_iff_of_verdict?_eq hverdict, ?_, ?_⟩
  · intro hrejection hstatus
    have hother := Response.status_of_verdict?_eq hverdict hrejection
    have hsettled := Response.settled_eq_of_verdict?_eq hverdict hrejection
    rwa [Response.settled, Response.settled, hother, if_neg hstatus, if_neg hstatus] at hsettled
  · intro hstatus
    have hrejection : answer.IsRejection := by
      rw [Response.IsRejection, hstatus]
      decide
    have hother := Response.status_of_verdict?_eq hverdict hrejection
    have hsettled := Response.settled_eq_of_verdict?_eq hverdict hrejection
    rw [Response.settled, Response.settled, hother, if_pos hstatus, if_pos hstatus] at hsettled
    obtain ⟨-, hlocation, hdocument, hhead⟩ := Response.mk.inj hsettled
    exact ⟨hlocation, hhead, hdocument⟩

/-- A plant without any entity, which cannot even be asked for a name, rejects as
the small plant does. -/
theorem rejection_congr_outage :
    let first := World.ofPlant .demo
    let second := World.ofPlant (Simulated.empty.failOn "name")
    let hidden := Request.submission "/circuits/1" "offset=1.5"
    let typo := Request.submission "/circuits/0" "offset=x&runmode=2"
    ((first.serve .demo hidden).1.1.status = 404 ↔
      (second.serve .demo hidden).1.1.status = 404) ∧
      (first.serve .demo hidden).1.1 = (second.serve .demo hidden).1.1 ∧
      (first.serve .demo typo).1.1.document.withoutLive =
        (second.serve .demo typo).1.1.document.withoutLive ∧
      (first.serve .demo typo).1.1.body ≠ (second.serve .demo typo).1.1.body := by
  intro first second hidden typo
  obtain ⟨hstatus, hsame, -⟩ := rejection_congr .demo hidden first second
  obtain ⟨-, -, hpage⟩ := rejection_congr .demo typo first second
  refine ⟨hstatus 404 (by decide) (by decide),
    hsame (by decide +kernel) (by decide +kernel), ?_, ?_⟩
  · exact (hpage (by decide +kernel)).2.2
  · decide +kernel

end Web

end HeatingPortal
