import HeatingPortal.Proofs.Sessions

/-!
# Callers of the standard tier

Settings are read through the caller's tier, the title of the manifest apart. Two settings that
have the title and all standard keys in common therefore serve callers alike whom both place in
the standard tier: whatever the privileged keys hold, such callers cannot tell.
-/

namespace HeatingPortal

open Settings Caller Plant Web

/-- Settings with the same title and the same standard keys. -/
structure Settings.Alike (first second : Settings) : Prop where
  title : first.get? appTitle = second.get? appTitle
  standard : ∀ pair ∈ KeyPair.all, first.get? pair.standard = second.get? pair.standard

/-- Settings that are alike and a caller of the standard tier under both. -/
structure Caller.Indistinct (first second : Settings) (caller : Identity) : Prop where
  alike : first.Alike second
  first : Tier.of first caller = .standard
  second : Tier.of second caller = .standard

namespace Caller.Indistinct

variable {first second : Settings} {caller : Identity}

/-! ### Contexts -/

lemma tier (h : Indistinct first second caller) : Tier.of first caller = Tier.of second caller :=
  h.first.trans h.second.symm

lemma resolve (h : Indistinct first second caller) {pair : KeyPair}
    (hpair : pair ∈ KeyPair.all) :
    resolve first caller pair = Caller.resolve second caller pair := by
  rw [resolve_of_standard h.first, resolve_of_standard h.second, h.alike.standard pair hpair]

lemma resolveAs {α : Type} (h : Indistinct first second caller) (read? : Value → Option α)
    (fault : String → Fault) {pair : KeyPair} (hpair : pair ∈ KeyPair.all) :
    resolveAs read? fault first caller pair =
      Caller.resolveAs read? fault second caller pair := by
  simp only [Caller.resolveAs, h.resolve hpair]

lemma systemModes (h : Indistinct first second caller) :
    systemModes first caller = Caller.systemModes second caller := by
  have hpair : KeyPair.modes ∈ KeyPair.all := by decide
  simp only [Caller.systemModes, resolveChoices, h.resolveAs _ _ hpair]

lemma context (h : Indistinct first second caller) (kind : Kind) :
    EntityContext.of first caller kind = EntityContext.of second caller kind := by
  have hids : kind.idKeys ∈ KeyPair.all := by cases kind <;> decide
  have hmodes : kind.runModeKeys ∈ KeyPair.all := by cases kind <;> decide
  simp only [EntityContext.of, resolveIds, resolveChoices, h.resolveAs _ _ hids,
    h.resolveAs _ _ hmodes]

lemma sensors (h : Indistinct first second caller) :
    sensors first caller = Web.sensors second caller := by
  have hlocated (location : Location) :
      sensorsAt first caller location = sensorsAt second caller location := by
    have hpair : location.sensorKeys ∈ KeyPair.all := by cases location <;> decide
    simp only [sensorsAt, resolveIds, h.resolveAs _ _ hpair]
  simp only [Web.sensors, hlocated]

/-! ### Handlers -/

lemma view (h : Indistinct first second caller) (route : Route) :
    Portal.view first caller route = Portal.view second caller route := by
  cases route with
  | system => simp only [Portal.view, showSystemMode, h.systemModes, h.sensors, h.tier]
  | entities kind => simp only [Portal.view, listEntities, h.context, h.tier]
  | entity kind id => simp only [Portal.view, showEntity, addressed, h.context, h.tier]
  | manifest =>
    simp only [Portal.view, showManifest, nonemptyText?, text?, h.alike.title]
  | status => rfl

lemma submit (h : Indistinct first second caller) (submission : Form.Texts) (route : Route) :
    Portal.submit first caller submission route =
      Portal.submit second caller submission route := by
  cases route with
  | system =>
    simp only [Portal.submit, submitSystemMode, showRejectedMode, h.systemModes, h.tier]
  | entity kind id =>
    simp only [Portal.submit, submitEntity, addressed, showRejectedEntity, h.context, h.tier]
  | entities | manifest | status => rfl

end Caller.Indistinct

namespace Web

variable {first second : Settings} {header : String}

/-- A request is served alike if its caller cannot tell the settings apart. -/
lemma serve_congr {request : Request}
    (h : Indistinct first second (callerOf request.headers header)) :
    Portal.serve ⟨first, header⟩ request = Portal.serve ⟨second, header⟩ request := by
  simp only [Portal.serve, Portal.handle, h.view, h.submit]

/-! ### Sessions -/

/-- What is seen of each event of a session, with the world after it. -/
def World.transcript (portal : Portal) (start : World) (session : List Event) :
    List (Option (Response × List Warning) × World) :=
  (start.history portal session).map fun moment =>
    (moment.world.seen portal moment.event, moment.world.after portal moment.event)

lemma World.transcript_nil (portal : Portal) (start : World) : start.transcript portal [] = [] :=
  rfl

lemma World.transcript_cons (portal : Portal) (start : World) (event : Event)
    (events : List Event) :
    start.transcript portal (event :: events) =
      (start.seen portal event, start.after portal event) ::
        (start.after portal event).transcript portal events := rfl

/-- An event that is no request, or a request of a caller who cannot tell the settings apart. -/
def Event.IsIndistinct (first second : Settings) (header : String) : Event → Prop
  | .request served => Indistinct first second (callerOf served.headers header)
  | _ => True

lemma seen_congr {event : Event} (h : event.IsIndistinct first second header) (world : World) :
    world.seen ⟨first, header⟩ event = world.seen ⟨second, header⟩ event := by
  cases event with
  | request request => simp only [World.seen, World.serve, serve_congr h]
  | _ => rfl

lemma after_congr {event : Event} (h : event.IsIndistinct first second header) (world : World) :
    world.after ⟨first, header⟩ event = world.after ⟨second, header⟩ event := by
  cases event with
  | request request => simp only [World.after, World.serve, serve_congr h]
  | _ => rfl

lemma session_congr {session : List Event}
    (h : ∀ event ∈ session, event.IsIndistinct first second header) (start : World) :
    start.transcript ⟨first, header⟩ session = start.transcript ⟨second, header⟩ session ∧
      start.afterAll ⟨first, header⟩ session = start.afterAll ⟨second, header⟩ session := by
  induction session generalizing start with
  | nil =>
    -- With `rfl` the kernel would compare how the two settings serve.
    rw [World.transcript_nil, World.transcript_nil, World.afterAll_nil, World.afterAll_nil]
    exact ⟨rfl, rfl⟩
  | cons event events ih =>
    have hevent := h event List.mem_cons_self
    obtain ⟨htranscript, hlast⟩ :=
      ih (fun other hmem => h other (List.mem_cons_of_mem event hmem))
        (start.after ⟨second, header⟩ event)
    constructor
    · rw [World.transcript_cons, World.transcript_cons, seen_congr hevent, after_congr hevent,
        htranscript]
    · rw [World.afterAll_cons, World.afterAll_cons, after_congr hevent, hlast]

/-- Settings that differ in privileged keys only look the same in sessions of standard callers:
every answer, warning and world is the same. -/
theorem standard_session_congr (first second : Settings) (header : String) (start : World)
    (session : List Event) (halike : first.Alike second)
    (hstandard : ∀ request, .request request ∈ session →
      Tier.of first (callerOf request.headers header) = .standard ∧
        Tier.of second (callerOf request.headers header) = .standard) :
    start.transcript ⟨first, header⟩ session = start.transcript ⟨second, header⟩ session ∧
      start.afterAll ⟨first, header⟩ session = start.afterAll ⟨second, header⟩ session := by
  refine session_congr (fun event hmem => ?_) start
  cases event with
  | request request =>
    obtain ⟨hfirst, hsecond⟩ := hstandard request hmem
    exact Indistinct.mk halike hfirst hsecond
  | _ => trivial

/-- Neither an anonymous caller nor a guest can tell who the administrator is, nor
what is only theirs. -/
theorem standard_session_congr_guest :
    let first := Portal.demo.settings
    let second := (first.insert adminName (.scalar (.text "root"))).insert
      KeyPair.circuits.privileged (.ids [7])
    let start := World.ofPlant .demo
    let session := [.request (.submission "/circuits/0" "offset=1.5&runmode=2&override=on"),
      .failOn "suppress_flag", .request ⟨.get, "/circuits/1", [("x-remote-user", "guest")], []⟩]
    first.text? adminName ≠ second.text? adminName ∧
      start.transcript ⟨first, defaultIdentityHeader⟩ session =
        start.transcript ⟨second, defaultIdentityHeader⟩ session := by
  intro first second start session
  have halike : first.Alike second := ⟨by decide +kernel, by decide +kernel⟩
  refine ⟨by decide +kernel, ?_⟩
  refine (standard_session_congr first second defaultIdentityHeader start session halike ?_).1
  intro request hmem
  simp only [session, List.mem_cons, Event.request.injEq, reduceCtorEq, List.not_mem_nil,
    false_or, or_false] at hmem
  rcases hmem with rfl | rfl
  · exact ⟨by decide +kernel, by decide +kernel⟩
  · exact ⟨by decide +kernel, by decide +kernel⟩

end Web

end HeatingPortal
