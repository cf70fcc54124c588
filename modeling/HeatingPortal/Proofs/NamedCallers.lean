import HeatingPortal.Proofs.ReachablePages

/-!
# Callers by name

A caller has a name twice: in the header of a request, and as an argument of the report on the
settings. The report takes the name as it is, while a header counts only when all its characters
show. So the two agree on every name that shows and on every name that is not the
administrator's. An administrator whose name holds any other character is privileged in the
report and in no request.
-/

namespace HeatingPortal

open Caller Command Form Plant Settings Web

namespace Caller

variable {settings : Settings} {caller other : Identity} {name : String}

lemma ofName_of_ne (hname : name ≠ "") : Identity.ofName name = .named name := by
  simp [Identity.ofName, hname]

/-- A name is privileged when it is the administrator's. -/
lemma tier_ofName_eq_privileged_iff (hname : name ≠ "") :
    Tier.of settings (.ofName name) = .privileged ↔ settings.text? adminName = some name := by
  rw [ofName_of_ne hname]
  constructor
  · intro h
    obtain ⟨admin, -, htext, hadmin⟩ := admin_of_privileged h
    rw [htext, ← hadmin]
    rfl
  · intro h
    have hadmin : settings.nonemptyText? adminName = some name := by
      rw [nonemptyText?, h]
      exact if_pos (by simpa using hname)
    simp [Tier.of, Identity.name?, hadmin]

/-- Nothing but the tier of a caller decides what resolves. -/
lemma resolve_congr (h : Tier.of settings caller = Tier.of settings other) (pair : KeyPair) :
    resolve settings caller pair = resolve settings other pair := by
  simp only [resolve, h]

end Caller

namespace Web

/-- A header with a character that does not show leaves its caller anonymous. -/
lemma callerOf_of_not_visible {headers : List (String × String)} {header name : String}
    (h : header? headers header = some name) (hhidden : ¬name.toList.all isVisible = true) :
    callerOf headers header = .anonymous := by
  have hnone : visibleHeader? headers header = none := by
    rw [visibleHeader?, h]
    exact if_neg hhidden
  rw [callerOf, hnone]
  rfl

/-! ### The tier of an answer -/

/-- The tier that a page tells. -/
def Document.tier? : Document → Option Tier
  | system page => some page.tier
  | entities page => some page.tier
  | entity page => some page.tier
  | _ => none

/-- A response that tells no other tier than that of a caller. -/
def Response.TellsTier (response : Response) (settings : Settings) (caller : Identity) : Prop :=
  ∀ tier, response.document.tier? = some tier → tier = .of settings caller

section

variable {settings : Settings} {caller : Identity}

lemma Response.tellsTier_of_none {response : Response} (h : response.document.tier? = none) :
    response.TellsTier settings caller := by
  intro tier htier
  rw [h] at htier
  cases htier

lemma PageFor.tellsTier {route : Route} {document : Document}
    (h : PageFor settings caller route document) :
    (Response.plain 200 document).TellsTier settings caller := by
  cases h with
  | system | entities | entity =>
    rintro tier ⟨⟩
    rfl
  | manifest | status => exact Response.tellsTier_of_none rfl

lemma Checked.tellsTier {form : Form} {submission : Texts} {response : Response}
    (h : Checked settings caller form submission response) :
    response.TellsTier settings caller := by
  cases h with
  | accepted => exact Response.tellsTier_of_none rfl
  | mode | entity =>
    rintro tier ⟨⟩
    rfl

/-- A task for a caller whose outcome tells no other tier. -/
def TellsTier (settings : Settings) (caller : Identity) (task : Task Error Outcome) : Prop :=
  Task.Within (fun operation => CanReach settings caller operation.target) task
    (fun outcome => outcome.response.TellsTier settings caller) fun _ => True

lemma tellsTier_view (settings : Settings) (caller : Identity) (route : Route) :
    TellsTier settings caller (Portal.view settings caller route) := by
  refine (readsPage_view settings caller route).mono ?_ fun _ _ => trivial
  rintro outcome ⟨document, warnings, rfl, hpage⟩
  exact hpage.tellsTier

lemma tellsTier_submit (settings : Settings) (caller : Identity) (submission : Texts)
    (route : Route) :
    TellsTier settings caller (Portal.submit settings caller submission route) := by
  cases route with
  | system =>
    refine (within_submitSystemMode settings caller submission
      fun _ => canReach_of_target canReach_runtime).mono ?_ fun _ _ => trivial
    rintro outcome ⟨modes, -, hchecked⟩
    exact hchecked.tellsTier
  | entity kind id =>
    refine (within_submitEntity settings caller submission
      fun context entity haddressed _ => ?_).mono ?_ fun _ _ => trivial
    · exact canReach_of_target (canReach_of_addressed haddressed)
    · rintro outcome ⟨context, entity, -, hchecked⟩
      exact hchecked.tellsTier
  | entities | manifest | status => exact Task.within_pure (Response.tellsTier_of_none rfl)

end

/-- Whatever is answered to a request, its page tells the tier of the caller. -/
lemma tellsTier_serve (portal : Portal) (request : Request) (world : World) :
    (world.serve portal request).1.1.TellsTier portal.settings (portal.caller request) := by
  rw [World.serve_eq]
  cases haccept : Portal.accept request with
  | error response =>
    obtain ⟨status, -, document, rfl, hjson⟩ := exists_plain_of_refusal haccept
    rw [World.outcome, serve_of_refusal haccept]
    apply Response.tellsTier_of_none
    cases document with
    | empty | plain => rfl
    | _ => cases hjson
  | ok route =>
    have hhandle : TellsTier portal.settings (portal.caller request)
        (portal.handle request route) :=
      within_handle (fun submission => tellsTier_submit _ _ submission route)
        (tellsTier_view _ _ route)
    have hserve : (portal.serve request).Within
        (fun operation => CanReach portal.settings (portal.caller request) operation.target)
        fun outcome => outcome.response.TellsTier portal.settings (portal.caller request) :=
      within_serve_of_handle haccept hhandle (fun _ htells => htells)
        fun _ _ => Response.tellsTier_of_none rfl
    exact hserve.run Simulated.answer world.plant

/-- Who is named in a header is served as the report tells for that name, in tier and in all that
resolves, when the name shows or is not the administrator's; otherwise the report tells of a
privileged caller, and an anonymous one is served. -/
theorem named_caller_served_as_reported (settings : Settings) (header : String)
    (request : Request) (name : String) (hname : name ≠ "")
    (hheader : header? request.headers header = some name) :
    let portal : Portal := ⟨settings, header⟩
    let served := portal.caller request
    let reported := Identity.ofName name
    let visible := name.toList.all isVisible = true
    (∀ world : World, (world.serve portal request).1.1.TellsTier settings served) ∧
    (Tier.of settings reported = .privileged ↔ settings.text? adminName = some name) ∧
    (Tier.of settings served = .privileged ↔ settings.text? adminName = some name ∧ visible) ∧
    (served = reported ↔ visible) ∧
    ((Tier.of settings served = Tier.of settings reported ∧
        ∀ pair, resolve settings served pair = resolve settings reported pair) ↔
      visible ∨ settings.text? adminName ≠ some name) := by
  intro portal served reported visible
  refine ⟨tellsTier_serve portal request, ?_⟩
  have hreported : Tier.of settings reported = .privileged ↔
      settings.text? adminName = some name :=
    tier_ofName_eq_privileged_iff hname
  by_cases hvisible : visible
  · have hserved : served = reported := by
      refine callerOf_of_header? hheader ?_
      rintro found ⟨⟩
      exact hvisible
    simp [hserved, hreported, hvisible]
  · have hserved : served = .anonymous := callerOf_of_not_visible hheader hvisible
    have hanonymous : Tier.of settings served = .standard := by
      rw [hserved]
      rfl
    refine ⟨hreported, ?_, ?_, ?_⟩
    · simp [hanonymous, hvisible]
    · simp [hserved, hvisible, reported, ofName_of_ne hname]
    · simp only [hvisible, false_or, ne_eq, ← hreported]
      constructor
      · rintro ⟨htier, -⟩ hprivileged
        rw [hanonymous, hprivileged] at htier
        cases htier
      · intro hother
        have htier : Tier.of settings served = Tier.of settings reported := by
          rw [hanonymous]
          cases h : Tier.of settings reported with
          | privileged => exact absurd h hother
          | standard => rfl
        exact ⟨htier, resolve_congr htier⟩

/-- The administrator of the document has a name that shows. -/
theorem named_caller_served_as_reported_admin :
    let request : Request := ⟨.get, "/circuits", [("x-remote-user", "admin")], []⟩
    let served := Portal.caller ⟨demoSettings, defaultIdentityHeader⟩ request
    header? request.headers defaultIdentityHeader = some "admin" ∧
      Tier.of demoSettings served = .privileged ∧ served = .ofName "admin" := by
  intro request served
  have hheader : header? request.headers defaultIdentityHeader = some "admin" := by
    decide +kernel
  have hadmin : demoSettings.text? adminName = some "admin" := by decide +kernel
  have hvisible : "admin".toList.all isVisible = true := by decide +kernel
  obtain ⟨-, -, hprivileged, hsame, -⟩ := named_caller_served_as_reported demoSettings
    defaultIdentityHeader request "admin" (by decide) hheader
  exact ⟨hheader, hprivileged.mpr ⟨hadmin, hvisible⟩, hsame.mpr hvisible⟩

/-- A document whose administrator has a name with an umlaut. -/
def umlautDocument : Kdl.Document :=
  let integer (value : Int) : Kdl.Entry := ⟨none, .integer value⟩
  [⟨"adminName", [⟨none, .text "jürgen"⟩], none⟩,
    ⟨"standardCircuits", [integer 0], none⟩,
    ⟨"privilegedCircuits", [integer 0, integer 1], none⟩]

/-- A control character. -/
def isControl (c : Char) : Bool :=
  c.toNat < 0x20 || (0x7F ≤ c.toNat && c.toNat ≤ 0x9F)

/-- The administrator whose name has an umlaut is reported as privileged with two circuits, and
is served the standard list of one. -/
theorem umlaut_served_as_standard :
    let name := "jürgen"
    let request : Request := ⟨.get, "/circuits", [("x-remote-user", name)], []⟩
    name ≠ "" ∧ name.toList.any isControl = false ∧
      header? request.headers defaultIdentityHeader = some name ∧
      ∃ settings, ofKdl umlautDocument = .ok settings ∧
        let answer := ((World.ofPlant .demo).serve (.ofSettings settings) request).1.1
        settings.text? adminName = some name ∧
        Tier.of settings (.ofName name) = .privileged ∧
        reachable settings (.ofName name) = ["/circuits/0", "/circuits/1"] ∧
        answer.status = 200 ∧
        answer.document.list? =
          some ⟨.circuit, .standard, [⟨⟨.circuit, 0⟩, "Ground floor"⟩]⟩ := by
  intro name request
  have hloaded : (ofKdl umlautDocument).toOption.map (fun settings =>
      let answer := ((World.ofPlant .demo).serve (.ofSettings settings) request).1.1
      (settings.text? adminName, Tier.of settings (.ofName name),
        reachable settings (.ofName name), answer.status, answer.document.list?)) =
      some (some name, .privileged, ["/circuits/0", "/circuits/1"], 200,
        some ⟨.circuit, .standard, [⟨⟨.circuit, 0⟩, "Ground floor"⟩]⟩) := by
    decide +kernel
  obtain ⟨settings, hsettings, hfacts⟩ := Option.map_eq_some_iff.mp hloaded
  simp only [Prod.mk.injEq] at hfacts
  exact ⟨by decide, by decide +kernel, by decide +kernel, settings, eq_ok_of_toOption hsettings,
    hfacts⟩

end Web

end HeatingPortal
