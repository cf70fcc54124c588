import HeatingPortal.Proofs.Sessions

/-!
# Authorization

Whatever the settings hold and whatever happened before, a request writes only what its caller
may change: the system mode to a mode on offer, and entities of the route's kind that are listed
for the caller, with an override only among the run modes on offer. Lists of privileged keys are
for nobody but the caller whose header names the administrator.
-/

namespace HeatingPortal.Web

open Caller Plant Settings

variable {portal : Portal} {request : Request}

/-! ### Permissions -/

/-- A request of an entity that is listed for its caller. -/
structure Addresses (portal : Portal) (request : Request) (entity : Entity) : Prop where
  route : ∃ id, Portal.accept request = .ok (.entity entity.kind id) ∧
    Entity.read? entity.kind id = some entity
  listed : ∃ ids, entity.id ∈ ids ∧
    resolveIds portal.settings (portal.caller request) entity.kind.idKeys = .ok (some ids)

/-- The run modes on offer to the caller of a request. -/
def OffersRunModes (portal : Portal) (request : Request) (kind : Kind) (modes : List Choice) :
    Prop :=
  resolveChoices portal.settings (portal.caller request) kind.runModeKeys = .ok (some modes)

/-- The system modes on offer to the caller of a request to change the system mode. -/
def OffersModes (portal : Portal) (request : Request) (modes : List Choice) : Prop :=
  Portal.accept request = .ok .system ∧
    resolveChoices portal.settings (portal.caller request) .modes = .ok (some modes)

/-- What a request may write, to a plant as it is just before. -/
def Permitted (portal : Portal) (request : Request) (plant : Simulated) : Operation → Prop
  | .setOffset entity _ => Addresses portal request entity
  | .setOverride entity mode =>
    Addresses portal request entity ∧
      (∃ modes, OffersRunModes portal request entity.kind modes ∧
        ∃ choice ∈ modes, choice.code = mode) ∧
      ∃ device, plant.device? entity = some device ∧ mode ≠ device.standingMode
  | .clearOverride entity =>
    Addresses portal request entity ∧ ∃ modes, OffersRunModes portal request entity.kind modes
  | .setSystemMode primary =>
    ∃ modes, OffersModes portal request modes ∧
      ∃ choice ∈ modes, choice.code.toInt = primary.toNat
  | .setSuppressFlag _ => ∃ modes, OffersModes portal request modes
  | _ => False

/-- A request whose header names the administrator, who has a name. -/
def NamesAdmin (portal : Portal) (request : Request) : Prop :=
  ∃ admin, admin ≠ "" ∧ portal.settings.text? adminName = some admin ∧
    header? request.headers portal.identityHeader = some admin

/-! ### Submissions -/

section

variable {plant after : Simulated} {change : SystemModeChange} {context : EntityContext}
  {entity : Entity} {values : Form.Values} {call : OverridePlan}

lemma ModeSubmission.offers (submission : ModeSubmission portal request change) :
    ∃ modes, OffersModes portal request modes ∧
      ∃ choice ∈ modes, choice.code.toInt = change.primary.toNat := by
  obtain ⟨modes, values, hmodes, hvalues, hchange⟩ := submission.accepted
  obtain ⟨choice, hmem, -, hcode, -⟩ := Form.submitted_of_modeChange hvalues hchange
  exact ⟨modes, ⟨submission.route, resolveChoices_of_systemModes hmodes⟩, choice, hmem, hcode⟩

lemma EntitySubmission.addresses
    (submission : EntitySubmission portal request context entity values) :
    Addresses portal request entity := by
  obtain ⟨id, hroute, haddressed⟩ := submission.route
  obtain ⟨hcontext, hentity⟩ := context_of_addressed haddressed
  obtain ⟨hkind, hids, -⟩ := resolved_of_context hcontext
  obtain ⟨hread, hmem⟩ := read_of_address hentity
  exact ⟨⟨id, hroute, hkind ▸ hread⟩, context.ids, hmem, hids⟩

/-- What is asked of the override is a run mode on offer. -/
lemma EntitySubmission.offers
    (submission : EntitySubmission portal request context entity values)
    {asked : OverrideRequest} (hasked : overrideRequest? values = some asked) :
    ∃ modes, OffersRunModes portal request entity.kind modes ∧
      ∃ choice ∈ modes, choice.code = asked.mode := by
  obtain ⟨id, -, haddressed⟩ := submission.route
  obtain ⟨-, -, hresolved⟩ := resolved_of_context (context_of_addressed haddressed).1
  obtain ⟨modes, hmodes, hchoice⟩ := Form.exists_runMode_of_entity submission.accepted hasked
  rw [hmodes] at hresolved
  exact ⟨modes, hresolved, hchoice⟩

/-- The standing mode survives the write of the offset, so the override that was planned before
it is still another mode. -/
lemma EntitySubmission.permitted_operation
    (submission : EntitySubmission portal request context entity values)
    (hplanned : Planned plant entity (overrideRequest? values) (some call))
    {offset : Number.Binary64} (hset : plant.Accepts (.setOffset entity offset) after) :
    Permitted portal request after (call.operation entity) := by
  cases call with
  | clear =>
    obtain ⟨asked, hasked⟩ := hplanned.exists_request
    obtain ⟨modes, hmodes, -⟩ := submission.offers hasked
    exact ⟨submission.addresses, modes, hmodes⟩
  | set mode =>
    obtain ⟨device, hdevice, hmode, hasked⟩ := hplanned.of_set
    obtain ⟨-, found, hfound, rfl⟩ := Simulated.accepts_setOffset_iff.mp hset
    obtain rfl : device = found := Option.some.inj (hdevice.symm.trans hfound)
    refine ⟨submission.addresses, submission.offers hasked, { device with offset }, ?_, hmode⟩
    exact if_pos rfl

/-- Every write of an effect is permitted at its moment. -/
lemma Effect.permitted {outcome : Outcome} {writes : List Performed}
    (h : Effect portal request plant outcome after writes) :
    ∀ write ∈ writes, Permitted portal request write.plant write.operation := by
  cases h with
  | nothing => simp
  | modeSet submission =>
    obtain ⟨modes, hmodes, hchoice⟩ := submission.offers
    simp only [List.forall_mem_cons]
    exact ⟨⟨modes, hmodes, hchoice⟩, ⟨modes, hmodes⟩, by simp⟩
  | modeHalfSet submission =>
    simp only [List.forall_mem_cons]
    exact ⟨submission.offers, by simp⟩
  | offsetSet submission | entityHalfSet submission =>
    simp only [List.forall_mem_cons]
    exact ⟨submission.addresses, by simp⟩
  | entitySet submission _ hplanned hset =>
    simp only [List.forall_mem_cons]
    exact ⟨submission.addresses, submission.permitted_operation hplanned hset, by simp⟩

end

/-! ### Sessions -/

/-- Without naming the administrator a request has the standard key of every pair. -/
lemma resolve_of_not_namesAdmin (h : ¬NamesAdmin portal request) (pair : KeyPair) :
    resolve portal.settings (portal.caller request) pair =
      (portal.settings.get? pair.standard).map (Resolved.mk · .standard) := by
  apply resolve_of_standard
  cases htier : Tier.of portal.settings (portal.caller request) with
  | standard => rfl
  | privileged =>
    obtain ⟨admin, hname, hadmin, hcaller⟩ := admin_of_privileged htier
    exact absurd ⟨admin, hname, hadmin, header?_of_callerOf hcaller⟩ h

/-- Serving a request to a world records nothing but writes that the request may make, each on
the plant that it meets, and without naming the administrator it has the standard keys only. -/
structure Authorized (portal : Portal) (request : Request) (world : World) : Prop where
  recorded : (world.serve portal request).2.plant.calls =
    world.plant.calls ++ (world.writes portal request).map (·.operation)
  permitted : ∀ write ∈ world.writes portal request,
    Permitted portal request write.plant write.operation
  standard : ¬NamesAdmin portal request → ∀ pair,
    resolve portal.settings (portal.caller request) pair =
      (portal.settings.get? pair.standard).map (Resolved.mk · .standard)

lemma authorized (portal : Portal) (request : Request) (world : World) :
    Authorized portal request world := by
  obtain ⟨outcome, after, heffect, -⟩ := World.exists_effect portal request world
  exact ⟨World.calls_serve portal request world, heffect.permitted, resolve_of_not_namesAdmin⟩

/-- All requests of a session are authorized, and whatever is recorded after it was recorded
before, or was called directly, or is a permitted write of one of its requests. -/
theorem history_authorized (portal : Portal) (start : World) (session : List Event) :
    (∀ moment ∈ start.history portal session, ∀ request, moment.event = .request request →
      Authorized portal request moment.world) ∧
    ∀ operation ∈ (start.afterAll portal session).plant.calls,
      operation ∈ start.plant.calls ∨ .call operation ∈ session ∨
        ∃ moment ∈ start.history portal session, ∃ request, moment.event = .request request ∧
          ∃ write ∈ moment.world.writes portal request, write.operation = operation ∧
            Permitted portal request write.plant operation := by
  refine ⟨fun moment _ request _ => authorized portal request moment.world, ?_⟩
  intro operation hmem
  rcases World.mem_calls_afterAll hmem with
    hbefore | hdirect | ⟨moment, hmoment, request, hrequest, write, hwrite, rfl⟩
  · exact .inl hbefore
  · exact .inr (.inl hdirect)
  · refine .inr (.inr ⟨moment, hmoment, request, hrequest, write, hwrite, rfl, ?_⟩)
    exact (authorized portal request moment.world).permitted write hwrite

/-- After a schedule changed its standing mode, anybody may override the ground floor. -/
theorem history_authorized_override :
    let request := Request.submission "/circuits/0" "offset=1.5&runmode=2&override=on"
    let start := World.ofPlant .demo
    let session := [.standingMode ⟨.circuit, 0⟩ 3, .failOn "set_system_mode", .request request]
    (∃ moment ∈ start.history .demo session, ∃ served, moment.event = .request served ∧
      ∃ write ∈ moment.world.writes .demo served,
        write.operation = .setOverride ⟨.circuit, 0⟩ 2 ∧
        Permitted .demo served write.plant (.setOverride ⟨.circuit, 0⟩ 2)) ∧
      resolve Portal.demo.settings (Portal.demo.caller request) .circuits =
        some ⟨.ids [0], .standard⟩ := by
  intro request start session
  obtain ⟨hrequests, hrecorded⟩ := history_authorized .demo start session
  constructor
  · have hcall : .setOverride ⟨.circuit, 0⟩ 2 ∈ (start.afterAll .demo session).plant.calls := by
      decide +kernel
    rcases hrecorded _ hcall with hbefore | hdirect | hserved
    · exact absurd hbefore (by decide +kernel)
    · simp [session] at hdirect
    · exact hserved
  · have hmoment : ⟨start.afterAll .demo (session.take 2), .request request⟩ ∈
        start.history .demo session :=
      World.mem_history_iff.mpr ⟨session.take 2, [], rfl, rfl⟩
    have hstandard := (hrequests _ hmoment request rfl).standard
    refine (hstandard ?_ .circuits).trans (by decide +kernel)
    rintro ⟨admin, -, -, hheader⟩
    have hnone : header? request.headers Portal.demo.identityHeader = none := by decide +kernel
    rw [hnone] at hheader
    cases hheader

end HeatingPortal.Web
