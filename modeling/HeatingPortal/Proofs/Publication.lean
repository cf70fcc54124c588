import HeatingPortal.Proofs.Commits

/-!
# What is published

The recording of published system modes is the log of the submissions that changed the
system mode, as far as the sink took them. The sink has no say in anything else: a session
whose sink fails now and then runs like one whose sink always works, and only reports the
notices that were lost.
-/

namespace HeatingPortal

open Plant

/-- The system mode that a plant has stored. -/
def Plant.Simulated.composite (plant : Simulated) : UInt8 :=
  compose plant.primary plant.suppress

namespace Web

open Caller Form Notice Settings

variable {portal : Portal} {request : Request} {world first second start : World}

/-! ### Changes of the system mode -/

lemma target_of_accept {route : Route} (h : Portal.accept request = .ok route) :
    ∃ sent, Route.ofTarget? request.target = some sent ∧ sent.decode = .ok route := by
  unfold Portal.accept at h
  split at h
  · next sent hsent =>
    by_cases hallows : sent.allows request.method = true
    · rw [if_pos hallows] at h
      obtain ⟨decoded, hdecoded, h⟩ := bind_eq_ok h
      split at h <;> cases h
      exact ⟨sent, hsent, hdecoded⟩
    · rw [if_neg hallows] at h
      cases h
  · cases h

lemma target_of_accept_system (h : Portal.accept request = .ok .system) :
    Route.ofTarget? request.target = some .system := by
  obtain ⟨sent, hsent, hdecode⟩ := target_of_accept h
  unfold Route.decode at hdecode
  split at hdecode
  · split at hdecode <;> cases hdecode
  · cases hdecode
    exact hsent

lemma target_of_accept_entity {kind : Kind} {id : String}
    (h : Portal.accept request = .ok (.entity kind id)) :
    Route.ofTarget? request.target ≠ some .system := by
  obtain ⟨sent, hsent, hdecode⟩ := target_of_accept h
  rw [hsent]
  rintro ⟨rfl⟩
  cases hdecode

namespace World

/-- Whether a request changes the system mode: a submission to the root that is redirected. -/
def commits (portal : Portal) (world : World) (request : Request) : Bool :=
  decide (request.method = .post ∧ Route.ofTarget? request.target = some .system ∧
    (world.serve portal request).1.1.status = 303)

/-- A request publishes the stored system mode if it changed that, and otherwise nothing. -/
lemma publish_outcome (portal : Portal) (world : World) (request : Request) :
    (world.outcome portal request).publish =
      if world.commits portal request then
        some (world.serve portal request).2.plant.composite
      else none := by
  by_cases hstatus : (world.serve portal request).1.1.status = 303
  · have hcommitted := World.committed hstatus
    unfold commits
    -- The case that was committed determines the response and what is published.
    generalize (world.serve portal request).1.1 = response at hstatus hcommitted
    generalize (world.outcome portal request).publish = publish at hcommitted ⊢
    cases hcommitted with
    | mode submission hprimary hsuppress =>
      rw [if_pos]
      · rw [Simulated.composite, hprimary, hsuppress]
        rfl
      · simp [submission.post, target_of_accept_system submission.route, hstatus]
    | entity submission =>
      obtain ⟨id, hroute, -⟩ := submission.route
      rw [if_neg]
      simp [target_of_accept_entity hroute]
  · rw [if_neg]
    · exact (world.effect portal request).publish_eq_none hstatus
    · simp [commits, hstatus]

/-- A request that changes the system mode leaves it as it was submitted. -/
lemma composite_of_commits (h : world.commits portal request = true) :
    ∃ code primary, submittedCode? (submittedTexts request.body) modeKey = some code ∧
      code.toInt = UInt8.toNat primary ∧
      (world.serve portal request).2.plant.composite =
        compose primary (checkCheckbox ((submittedTexts request.body).get? suppressKey)) := by
  obtain ⟨-, htarget, hstatus⟩ := of_decide_eq_true h
  have hcommitted := World.committed hstatus
  generalize (world.serve portal request).1.1 = response at hcommitted
  generalize (world.outcome portal request).publish = publish at hcommitted
  cases hcommitted with
  | mode submission hprimary hsuppress =>
    obtain ⟨modes, values, -, hvalues, hchange⟩ := submission.accepted
    obtain ⟨choice, -, hcode, hbits, -, hflag⟩ := submitted_of_modeChange hvalues hchange
    refine ⟨choice.code, _, hcode, hbits, ?_⟩
    rw [Simulated.composite, hprimary, hsuppress, hflag]
  | entity submission =>
    obtain ⟨id, hroute, -⟩ := submission.route
    exact absurd htarget (target_of_accept_entity hroute)

/-! ### Publishing -/

/-- The warning of a notice that the recording did not take. -/
def lostNotice : Warning :=
  .noticeLost (.unreachable "recording sink set to fail")

/-- What is lost while a request is served: the notice of its change, if the sink fails. -/
def lost (portal : Portal) (world : World) (request : Request) : List Warning :=
  if world.commits portal request ∧ world.sink.failing then [lostNotice] else []

/-- What an event publishes: the system mode that a request changed, if the sink takes it. -/
def Moment.published? (portal : Portal) (moment : Moment) : Option UInt8 :=
  match moment.event with
  | .request request =>
    if moment.world.commits portal request ∧ ¬moment.world.sink.failing then
      some (moment.world.after portal moment.event).plant.composite
    else none
  | _ => none

/-- A sink that fails loses what is published, and one that works keeps it. -/
lemma commit_eq (world : World) (publish : Option UInt8) :
    world.commit publish =
      if world.sink.failing then (publish.toList.map fun _ => lostNotice, world)
      else ([], { world with
        sink := { world.sink with published := world.sink.published ++ publish.toList } }) := by
  cases publish with
  | none => simp [commit]
  | some composite =>
    by_cases hfailing : world.sink.failing = true
    · simp [commit, Recording.notify, Recording.publish, hfailing, lostNotice]
    · simp [commit, Recording.notify, Recording.publish, hfailing]

lemma warnings_serve (portal : Portal) (world : World) (request : Request) :
    (world.serve portal request).1 = ((world.outcome portal request).response,
      (world.outcome portal request).warnings ++ world.lost portal request) := by
  rw [serve_eq, commit_eq, publish_outcome, lost]
  cases world.commits portal request <;> cases world.sink.failing <;> rfl

lemma published_after (portal : Portal) (world : World) (event : Event) :
    (world.after portal event).sink.published =
      world.sink.published ++ (Moment.published? portal ⟨world, event⟩).toList := by
  cases event with
  | request request =>
    have hsink : (world.after portal (.request request)).sink =
        (world.commit (world.outcome portal request).publish).2.sink := by
      rw [after, serve_eq]
    rw [hsink, commit_eq, publish_outcome, Moment.published?]
    dsimp only
    cases world.commits portal request <;> cases world.sink.failing <;> simp [after]
  | call | failOn | recover | standingMode | clearCalls | sinkFailing =>
    exact (List.append_nil _).symm

lemma published_afterAll (portal : Portal) (start : World) (session : List Event) :
    (start.afterAll portal session).sink.published =
      start.sink.published ++
        (start.history portal session).filterMap (Moment.published? portal) := by
  induction session generalizing start with
  | nil => simp [afterAll, history]
  | cons event events ih =>
    rw [afterAll_cons, ih, published_after, history, List.filterMap_cons]
    cases Moment.published? portal ⟨start, event⟩ <;> simp

end World

/-! ### Failing sinks -/

/-- An event that does not change whether the sink fails. -/
def Event.sparesSink : Event → Bool
  | .sinkFailing _ => false
  | _ => true

namespace World

/-- What an event does to the plant depends on the plant alone. -/
lemma plant_after_congr (h : first.plant = second.plant) (event : Event) :
    (first.after portal event).plant = (second.after portal event).plant := by
  cases event with
  | request request => rw [after, after, plant_serve, plant_serve, h]
  | call | failOn | recover | standingMode | clearCalls =>
    simp only [after, run, intervene, h]
  | sinkFailing => exact h

/-- The plant goes through a session as if the sink were never touched. -/
lemma plant_afterAll_sparing (h : first.plant = second.plant) (session : List Event) :
    (first.afterAll portal session).plant =
      (second.afterAll portal (session.filter Event.sparesSink)).plant := by
  induction session generalizing first second with
  | nil => exact h
  | cons event events ih =>
    rw [afterAll_cons]
    by_cases hspares : event.sparesSink = true
    · rw [List.filter_cons_of_pos hspares, afterAll_cons]
      exact ih (plant_after_congr h event)
    · -- An event of the sink is missing on the right, and leaves the plant on the left.
      rw [List.filter_cons_of_neg hspares]
      cases event with
      | sinkFailing failing => exact ih h
      | _ => exact absurd rfl hspares

/-- A sink fails only when it is told to. -/
lemma failing_afterAll_sparing (portal : Portal) (start : World) (session : List Event) :
    (start.afterAll portal (session.filter Event.sparesSink)).sink.failing =
      start.sink.failing := by
  refine afterAll_induction (fun world => world.sink.failing = start.sink.failing) ?_ rfl
  intro world event hmem h
  have hspares := (List.mem_filter.mp hmem).2
  cases event with
  | request request =>
    rw [after, serve_eq, commit_eq, ← h]
    dsimp only
    split <;> rfl
  | sinkFailing => cases hspares
  | call | failOn | recover | standingMode | clearCalls => exact h

end World

/-- The published system modes are those of the submissions that changed the system mode while
the sink worked, in order; each is what was submitted and what the plant has stored. How the sink
fares shows in nothing but the notices that are reported as lost: compared with the same session
on a sink that always works, the plant is the same at every point, and so is every answer. -/
theorem published_eq_commits (portal : Portal) (start : World) (session : List Event) :
    let history := start.history portal session
    (start.afterAll portal session).sink.published =
      start.sink.published ++ history.filterMap (World.Moment.published? portal) ∧
    (∀ moment ∈ history, ∀ request, moment.event = .request request →
      moment.world.commits portal request = true →
        ∃ code primary, submittedCode? (submittedTexts request.body) modeKey = some code ∧
          code.toInt = UInt8.toNat primary ∧
          (moment.world.after portal moment.event).plant.composite =
            compose primary (checkCheckbox ((submittedTexts request.body).get? suppressKey))) ∧
    ∀ before, before <+: session →
      let met := start.afterAll portal before
      let steady := (start.setSinkFailing false).afterAll portal (before.filter Event.sparesSink)
      met.plant = steady.plant ∧
        ∀ request, (met.serve portal request).1 = ((steady.serve portal request).1.1,
          (steady.serve portal request).1.2 ++ met.lost portal request) := by
  refine ⟨World.published_afterAll portal start session, ?_, ?_⟩
  · rintro ⟨world, event⟩ - request rfl hcommits
    exact World.composite_of_commits hcommits
  · rintro before -
    intro met steady
    have hstart : start.plant = (start.setSinkFailing false).plant := rfl
    have hplant : met.plant = steady.plant := World.plant_afterAll_sparing hstart before
    have hworks : steady.sink.failing = false := World.failing_afterAll_sparing portal _ before
    refine ⟨hplant, fun request => ?_⟩
    have houtcome : met.outcome portal request = steady.outcome portal request := by
      rw [World.outcome, World.outcome, hplant]
    have hnone : steady.lost portal request = [] := by simp [World.lost, hworks]
    rw [World.warnings_serve, World.warnings_serve, houtcome, hnone, List.append_nil]

/-- Of three changes of the system mode the second is lost, and the third is left half done. -/
theorem published_eq_commits_lost :
    let summer := Request.submission "/" "sysmode=5&suppress=on"
    let heating := Request.submission "/" "sysmode=1"
    let start := World.ofPlant .demo
    let before := [.request summer, .sinkFailing true]
    let session := before ++
      [.request heating, .sinkFailing false, .failOn "set_suppress_flag", .request heating]
    let met := start.afterAll .demo before
    (start.afterAll .demo session).sink.published = [133] ∧
      start.commits .demo summer = true ∧
      (∃ code primary, submittedCode? (submittedTexts summer.body) modeKey = some code ∧
        code.toInt = UInt8.toNat primary ∧
        (start.serve .demo summer).2.plant.composite =
          compose primary (checkCheckbox ((submittedTexts summer.body).get? suppressKey))) ∧
      met.commits .demo heating = true ∧
      ∃ own, (met.serve .demo heating).1.2 = own ++ [World.lostNotice] := by
  intro summer heating start before session met
  obtain ⟨hpublished, hcomposite, hsteady⟩ := published_eq_commits .demo start session
  have hsummer : start.commits .demo summer = true := by decide +kernel
  have hheating : met.commits .demo heating = true := by decide +kernel
  have hlost : met.lost .demo heating = [World.lostNotice] :=
    if_pos ⟨hheating, by decide +kernel⟩
  obtain ⟨-, hanswer⟩ := hsteady before (List.prefix_append _ _)
  refine ⟨?_, hsummer, ?_, hheating, ?_⟩
  · rw [hpublished]
    decide +kernel
  · exact hcomposite ⟨start, .request summer⟩ List.mem_cons_self summer rfl hsummer
  · exact ⟨_, (congrArg Prod.snd (hanswer heating)).trans (congrArg _ hlost)⟩

end Web

end HeatingPortal
