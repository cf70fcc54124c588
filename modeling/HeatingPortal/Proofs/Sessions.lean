import HeatingPortal.Proofs.Effects
import HeatingPortal.Web.Session

/-!
# Sessions

A session is a list of events, and each of them meets the world that the events before it left.
What holds of the worlds of a session follows by induction from what one event preserves; what a
request does to its world is one of the effects.
-/

namespace HeatingPortal.Web

open Plant

namespace World

variable {portal : Portal} {request : Request} {world start : World}

/-! ### Requests -/

/-- The writes that serving a request carries out. -/
def writes (portal : Portal) (request : Request) (world : World) : List Performed :=
  Simulated.performed (portal.serve request) world.plant

lemma plant_commit (world : World) (publish : Option UInt8) :
    (world.commit publish).2.plant = world.plant := by
  cases publish <;> rfl

/-- What serving a request yields, before its system mode is published. -/
def outcome (portal : Portal) (request : Request) (world : World) : Outcome :=
  (Simulated.run (portal.serve request) world.plant).1

/-- Publishing depends on the sink alone. -/
lemma commit_congr {first second : World} (h : first.sink = second.sink)
    (publish : Option UInt8) :
    (first.commit publish).1 = (second.commit publish).1 ∧
      (first.commit publish).2.sink = (second.commit publish).2.sink := by
  cases publish with
  | none => exact ⟨rfl, h⟩
  | some composite => simp [commit, h]

/-- Serving answers with the outcome of the run, reports the loss of its publication as one more
warning, and leaves the plant of the run. -/
lemma serve_eq (portal : Portal) (request : Request) (world : World) :
    world.serve portal request =
      (((world.outcome portal request).response, (world.outcome portal request).warnings ++
          (world.commit (world.outcome portal request).publish).1),
        ⟨(Simulated.run (portal.serve request) world.plant).2,
          (world.commit (world.outcome portal request).publish).2.sink⟩) := by
  have hcommit (plant : Simulated) (publish : Option UInt8) :
      World.commit ⟨plant, world.sink⟩ publish =
        ((world.commit publish).1, ⟨plant, (world.commit publish).2.sink⟩) := by
    cases publish <;> rfl
  rw [serve]
  dsimp only [run]
  rw [hcommit]
  rfl

/-- The answer to a request and the world after it come from one of the effects. -/
lemma exists_effect (portal : Portal) (request : Request) (world : World) :
    ∃ outcome after,
      Effect portal request world.plant outcome after (world.writes portal request) ∧
      (world.serve portal request).1.1 = outcome.response ∧
      (world.serve portal request).2 = (World.commit ⟨after, world.sink⟩ outcome.publish).2 :=
  ⟨_, _, serve_effect portal request world.plant, rfl, rfl⟩

/-- Publishing aside, a request leaves the plant of its run. -/
lemma plant_serve (portal : Portal) (request : Request) (world : World) :
    (world.serve portal request).2.plant =
      (Simulated.run (portal.serve request) world.plant).2 := by
  rw [serve]
  exact plant_commit _ _

/-- What is recorded while a request is served are its writes. -/
lemma calls_serve (portal : Portal) (request : Request) (world : World) :
    (world.serve portal request).2.plant.calls =
      world.plant.calls ++ (world.writes portal request).map (·.operation) := by
  rw [plant_serve]
  exact Simulated.calls_run _ world.plant

/-! ### Histories -/

/-- An event of a session with the world that it meets. -/
structure Moment where
  world : World
  event : Event

/-- The moments of a session. -/
def history (portal : Portal) (world : World) : List Event → List Moment
  | [] => []
  | event :: rest => ⟨world, event⟩ :: history portal (world.after portal event) rest

lemma afterAll_nil (portal : Portal) (start : World) : start.afterAll portal [] = start := rfl

lemma afterAll_cons (portal : Portal) (start : World) (event : Event) (events : List Event) :
    start.afterAll portal (event :: events) =
      (start.after portal event).afterAll portal events := rfl

/-- Every moment of a session meets the world that the events before it left. -/
lemma mem_history_iff {session : List Event} {moment : Moment} :
    moment ∈ start.history portal session ↔
      ∃ before rest, session = before ++ moment.event :: rest ∧
        moment.world = start.afterAll portal before := by
  induction session generalizing start with
  | nil => simp [history]
  | cons event events ih =>
    simp only [history, List.mem_cons, ih]
    constructor
    · rintro (rfl | ⟨before, rest, rfl, hworld⟩)
      · exact ⟨[], events, rfl, rfl⟩
      · exact ⟨event :: before, rest, rfl, hworld⟩
    · rintro ⟨before, rest, hsession, hworld⟩
      cases before with
      | nil =>
        obtain ⟨rfl, rfl⟩ := List.cons.inj hsession
        obtain ⟨met, happened⟩ := moment
        have hmet : met = start := hworld
        exact .inl (by rw [hmet])
      | cons first before =>
        obtain ⟨rfl, rfl⟩ := List.cons.inj hsession
        exact .inr ⟨before, rest, rfl, hworld⟩

/-- A call that is recorded after an event was recorded before it, or is the event itself, or is
a write of the request that is served. -/
lemma mem_calls_after {event : Event} {operation : Operation}
    (h : operation ∈ (world.after portal event).plant.calls) :
    operation ∈ world.plant.calls ∨ event = .call operation ∨
      ∃ request, event = .request request ∧
        ∃ write ∈ world.writes portal request, write.operation = operation := by
  cases event with
  | request request =>
    rw [after, calls_serve, List.mem_append, List.mem_map] at h
    exact h.imp_right fun hwrite => .inr ⟨request, rfl, hwrite⟩
  | call direct =>
    have hcalls := Simulated.calls_run direct.send world.plant
    have hmem : operation ∈ (Simulated.run direct.send world.plant).2.calls := h
    rw [hcalls, List.mem_append] at hmem
    exact hmem.imp_right fun hwrite =>
      .inl (congrArg _ (Simulated.mem_performed_send hwrite)).symm
  | clearCalls => cases h
  | standingMode entity mode =>
    have hcalls : (world.plant.setStandingMode entity mode).calls = world.plant.calls := by
      unfold Simulated.setStandingMode Simulated.modify
      split <;> rfl
    exact .inl (hcalls ▸ h)
  | failOn | recover | sinkFailing => exact .inl h

/-- Every call that is recorded after a session was recorded before it, or was made directly, or
is a write of a request that was served. -/
lemma mem_calls_afterAll {session : List Event} {operation : Operation}
    (h : operation ∈ (start.afterAll portal session).plant.calls) :
    operation ∈ start.plant.calls ∨ .call operation ∈ session ∨
      ∃ moment ∈ start.history portal session, ∃ request, moment.event = .request request ∧
        ∃ write ∈ moment.world.writes portal request, write.operation = operation := by
  induction session generalizing start with
  | nil => exact .inl h
  | cons event events ih =>
    -- What the rest of the session finds recorded may come from the first event.
    rcases ih h with h | h | ⟨moment, hmem, hwrite⟩
    · rcases mem_calls_after h with h | rfl | hwrite
      · exact .inl h
      · exact .inr (.inl List.mem_cons_self)
      · exact .inr (.inr ⟨⟨start, event⟩, List.mem_cons_self, hwrite⟩)
    · exact .inr (.inl (List.mem_cons_of_mem _ h))
    · exact .inr (.inr ⟨moment, List.mem_cons_of_mem _ hmem, hwrite⟩)

/-- What every event of a session preserves holds after the session. -/
lemma afterAll_induction (invariant : World → Prop) {session : List Event}
    (hstep : ∀ world event, event ∈ session → invariant world →
      invariant (world.after portal event))
    (hstart : invariant start) : invariant (start.afterAll portal session) := by
  induction session generalizing start with
  | nil => exact hstart
  | cons event events ih =>
    apply ih
    · exact fun world other hmem => hstep world other (List.mem_cons_of_mem event hmem)
    · exact hstep start event List.mem_cons_self hstart

end World

/-! ### A demonstration -/

/-- A portal for the small plant: everybody has the ground floor, and only the administrator the
first floor and the tank. -/
def Portal.demo : Portal :=
  .ofSettings ⟨Settings.supportedVersion,
    [("adminName", .scalar (.text "admin")),
      ("appTitle", .scalar (.text "Heating")),
      ("privilegedCircuits", .ids [0, 1]),
      ("privilegedTanks", .ids [0]),
      ("standardCircuitRunModes", .choices [⟨1, "Program"⟩, ⟨2, "Comfort"⟩, ⟨9, "Party"⟩]),
      ("standardCircuits", .ids [0]),
      ("standardModes", .choices [⟨1, "Heating"⟩, ⟨5, "Summer"⟩])]⟩

/-- A submission by a caller whom no header names. -/
def Request.submission (target text : String) : Request :=
  ⟨.post, target, [("content-type", formType)], text.toUTF8.toList⟩

end HeatingPortal.Web
