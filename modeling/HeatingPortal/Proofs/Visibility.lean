import HeatingPortal.Proofs.Reach
import HeatingPortal.Proofs.Sessions
import HeatingPortal.Proofs.Views

/-!
# What a caller can see of the plant

Requests of a caller call only what the caller reaches. So two plants that agree on that much
answer them alike and still agree afterwards, and whatever lies out of reach stays as it is.
-/

namespace HeatingPortal

open Plant Caller Web

namespace Plant.Simulated

variable {visible : Target → Prop} {first second plant : Simulated}

/-! ### Plants that agree -/

/-- Two plants with the same system mode, the same failing operations, and the same state of
every visible target. -/
structure AgreeOn (visible : Target → Prop) (first second : Simulated) : Prop where
  primary : first.primary = second.primary
  suppress : first.suppress = second.suppress
  fails : first.fails = second.fails
  device : ∀ entity, visible (.entity entity) → first.device? entity = second.device? entity
  temperature : ∀ sensor, visible (.sensor sensor) →
    first.temperature? sensor = second.temperature? sensor

/-- A plant before and after in which nothing has changed but visible targets. -/
structure SameHidden (visible : Target → Prop) (before after : Simulated) : Prop where
  device : ∀ entity, ¬visible (.entity entity) → after.device? entity = before.device? entity
  temperature : ∀ sensor, ¬visible (.sensor sensor) →
    after.temperature? sensor = before.temperature? sensor

lemma SameHidden.refl (plant : Simulated) : SameHidden visible plant plant :=
  ⟨fun _ _ => rfl, fun _ _ => rfl⟩

lemma SameHidden.trans {before middle after : Simulated} (h : SameHidden visible before middle)
    (hlater : SameHidden visible middle after) : SameHidden visible before after := by
  constructor
  · intro entity hentity
    rw [hlater.device entity hentity, h.device entity hentity]
  · intro sensor hsensor
    rw [hlater.temperature sensor hsensor, h.temperature sensor hsensor]

lemma sameHidden_of_view {before after : Simulated}
    (h : ∀ target, ¬visible target → after.view target = before.view target) :
    SameHidden visible before after := by
  constructor
  · intro entity hentity
    exact View.device.inj (h (.entity entity) hentity)
  · intro sensor hsensor
    exact View.reading.inj (h (.sensor sensor) hsensor)

/-- Where the plant as a whole is visible, agreeing means to be alike on what is visible. -/
lemma agreeOn_iff_alikeOn (hruntime : visible .runtime) :
    AgreeOn visible first second ↔ AlikeOn visible first second := by
  constructor
  · intro h
    refine ⟨h.fails, fun target htarget => ?_⟩
    cases target with
    | entity entity => exact congrArg View.device (h.device entity htarget)
    | runtime => exact congrArg₂ View.runtime h.primary h.suppress
    | sensor sensor => exact congrArg View.reading (h.temperature sensor htarget)
  · intro h
    obtain ⟨hprimary, hsuppress⟩ := h.runtime hruntime
    refine ⟨hprimary, hsuppress, h.fails, fun entity hentity => h.device hentity, ?_⟩
    intro sensor hsensor
    exact View.reading.inj (h.view (.sensor sensor) hsensor)

end Plant.Simulated

namespace Web

variable {portal : Portal} {caller : Identity} {first second : World} {request : Request}

/-! ### Sessions -/

/-- What an event shows to the outside: the answer, and what is recorded and
published meanwhile. -/
structure Record where
  answer : Option (Response × List Warning)
  calls : List Operation
  published : List UInt8

/-- The record of an event in a world. -/
def World.record (portal : Portal) (world : World) (event : Event) : Record where
  answer := world.seen portal event
  calls := (world.after portal event).plant.calls.drop world.plant.calls.length
  published := (world.after portal event).sink.published.drop world.sink.published.length

/-- The records of the events of a session. -/
def World.records (portal : Portal) (start : World) (session : List Event) : List Record :=
  (start.history portal session).map fun moment => moment.world.record portal moment.event

lemma World.records_cons (portal : Portal) (start : World) (event : Event)
    (events : List Event) :
    start.records portal (event :: events) =
      start.record portal event :: (start.after portal event).records portal events := rfl

/-- Two worlds that look the same to a caller. -/
structure World.AgreeFor (portal : Portal) (caller : Identity) (first second : World) :
    Prop where
  plant : Simulated.AgreeOn (CanReach portal.settings caller) first.plant second.plant
  sink : first.sink = second.sink

/-- A request of a caller to whom two worlds look the same is recorded alike, and they still look
the same afterwards. -/
lemma World.AgreeFor.after (h : first.AgreeFor portal caller second)
    (hcaller : portal.caller request = caller) :
    first.record portal (.request request) = second.record portal (.request request) ∧
      (first.after portal (.request request)).AgreeFor portal caller
        (second.after portal (.request request)) := by
  subst hcaller
  have halike := (Simulated.agreeOn_iff_alikeOn canReach_runtime).mp h.plant
  obtain ⟨houtcome, hplant, hcalls⟩ := halike.run (serve_within portal request)
  have houtcome : first.outcome portal request = second.outcome portal request := houtcome
  obtain ⟨hlost, hsink⟩ := World.commit_congr h.sink (second.outcome portal request).publish
  constructor
  · simp only [World.record, World.seen, World.after, World.calls_serve, List.drop_left]
    rw [World.serve_eq, World.serve_eq]
    dsimp only
    rw [houtcome, hlost, hsink, h.sink, World.writes, World.writes, hcalls]
  · rw [World.after, World.after, World.serve_eq, World.serve_eq, houtcome]
    exact ⟨(Simulated.agreeOn_iff_alikeOn canReach_runtime).mpr hplant, hsink⟩

lemma sameHidden_after (hcaller : portal.caller request = caller) (world : World) :
    Simulated.SameHidden (CanReach portal.settings caller) world.plant
      (world.after portal (.request request)).plant := by
  subst hcaller
  rw [World.after, World.plant_serve]
  refine Simulated.sameHidden_of_view fun target htarget => ?_
  refine Simulated.view_run_of_hidden (serve_within portal request) ?_ world.plant
  rintro operation hreach rfl
  exact htarget hreach

/-- Plants that agree on the reach of a caller cannot be told apart by any requests of that
caller: each is answered, recorded and published alike. Afterwards the plants still agree, and
nothing out of reach has changed in either. -/
theorem hidden_session_congr (portal : Portal) (caller : Identity) (first second : World)
    (session : List Request) (hcaller : ∀ request ∈ session, portal.caller request = caller)
    (hsink : first.sink = second.sink)
    (hagree : Simulated.AgreeOn (CanReach portal.settings caller) first.plant second.plant) :
    let events := session.map Event.request
    let visible := CanReach portal.settings caller
    first.records portal events = second.records portal events ∧
      Simulated.AgreeOn visible (first.afterAll portal events).plant
        (second.afterAll portal events).plant ∧
      Simulated.SameHidden visible first.plant (first.afterAll portal events).plant ∧
      Simulated.SameHidden visible second.plant (second.afterAll portal events).plant := by
  have h : first.AgreeFor portal caller second := ⟨hagree, hsink⟩
  clear hsink hagree
  dsimp only
  induction session generalizing first second with
  | nil => exact ⟨rfl, h.plant, .refl first.plant, .refl second.plant⟩
  | cons request rest ih =>
    obtain ⟨hrequest, hrest⟩ := List.forall_mem_cons.mp hcaller
    obtain ⟨hrecord, hafter⟩ := h.after hrequest
    obtain ⟨hrecords, hplant, hfirst, hsecond⟩ := ih _ _ hrest hafter
    simp only [List.map_cons, World.records_cons, World.afterAll_cons]
    refine ⟨?_, hplant, ?_, ?_⟩
    · rw [hrecord, hrecords]
    · exact (sameHidden_after hrequest first).trans hfirst
    · exact (sameHidden_after hrequest second).trans hsecond

/-- To an anonymous caller it makes no difference that the first floor and the tank are gone and
a sensor is new. -/
theorem hidden_session_congr_anonymous :
    let first := World.ofPlant .demo
    let second := World.ofPlant
      ((Simulated.empty.addEntity ⟨.circuit, 0⟩ "Ground floor" 1).addTemperature 5
        (Simulated.tenths 31)
        |>.withSystemMode 1 false)
    let session := [.submission "/circuits/0" "offset=1.5&runmode=2&override=on",
      .submission "/circuits/1" "offset=1.5", .submission "/circuits/0" "offset=x",
      .submission "/tanks/0" "offset=1", ⟨.get, "/circuits", [], []⟩, ⟨.get, "/", [], []⟩]
    first.plant.device? ⟨.circuit, 1⟩ ≠ second.plant.device? ⟨.circuit, 1⟩ ∧
      first.records .demo (session.map .request) =
        second.records .demo (session.map .request) := by
  intro first second session
  have hcircuits : resolveIds Portal.demo.settings .anonymous .circuits = .ok (some [0]) := rfl
  have htanks : resolveIds Portal.demo.settings .anonymous .tanks = .ok none := rfl
  have hsensors (location : Location) :
      resolveIds Portal.demo.settings .anonymous location.sensorKeys = .ok none := by
    cases location <;> rfl
  refine ⟨by decide +kernel, ?_⟩
  refine (hidden_session_congr .demo .anonymous first second session ?_ rfl ?_).1
  · decide +kernel
  refine ⟨rfl, rfl, rfl, ?_, ?_⟩
  · rintro ⟨kind, id⟩ ⟨ids, hids, hmem⟩
    cases kind with
    | tank => cases htanks.symm.trans hids
    | circuit =>
      cases hcircuits.symm.trans hids
      obtain rfl : id = 0 := by simpa using hmem
      rfl
  · rintro sensor ⟨location, ids, hids, -⟩
    cases (hsensors location).symm.trans hids

end Web

end HeatingPortal
