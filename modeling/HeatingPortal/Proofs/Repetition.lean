import HeatingPortal.Proofs.Commits
import HeatingPortal.Proofs.Interleavings
import HeatingPortal.Proofs.Replay
import Mathlib.Logic.Function.Iterate

/-!
# Submissions without memory

A submission that its form accepts writes, and reads nothing but a standing mode. So the names,
setpoints, offsets, overrides and system mode that a plant happens to have do not matter: two
plants with the same schedules and the same failing operations give the same answer, carry out
the same writes, and agree afterwards on what was written. Submitting once more changes nothing.
-/

namespace HeatingPortal

namespace Plant

/-- A call whose answer does not depend on what submissions change: a write, or the reading of a
standing mode. -/
def Operation.IgnoresSettings : Operation → Prop
  | .standingMode _ => True
  | operation => operation.isWrite = true

/-- A device is what writes change of it and what they do not. -/
lemma Device.eq_of_settings {device other : Device} (hfixed : device.fixed = other.fixed)
    (hsettings : device.settings = other.settings) : device = other := by
  cases device
  cases other
  simp_all [Device.fixed, Device.settings]

namespace Simulated

variable {plant first second before middle last : Simulated} {operation : Operation}
  {part : Part} {parts : List Part} {operations : List Operation}

/-- Two plants with the same entities, the same standing modes and the
same failing operations. -/
structure SameSchedules (first second : Simulated) : Prop where
  standing : ∀ entity, (first.device? entity).map (·.standingMode) =
    (second.device? entity).map (·.standingMode)
  fails : first.fails = second.fails

/-- Two plants have stored the same in a part. -/
def SameAt (first second : Simulated) : Part → Prop
  | .override entity =>
    (first.device? entity).map (·.overrideMode) = (second.device? entity).map (·.overrideMode)
  | .offset entity =>
    (first.device? entity).map (·.offset) = (second.device? entity).map (·.offset)
  | .primary => first.primary = second.primary
  | .suppress => first.suppress = second.suppress

/-- A plant before and after nothing but some parts of it may have changed. -/
structure SameOutside (parts : List Part) (before after : Simulated) : Prop where
  fixed : ∀ entity,
    (after.device? entity).map Device.fixed = (before.device? entity).map Device.fixed
  stored : ∀ part, part ∉ parts → SameAt after before part
  temperature : after.temperature? = before.temperature?
  fails : after.fails = before.fails

/-! ### What changes in a plant -/

namespace SameAt

lemma refl (plant : Simulated) (part : Part) : SameAt plant plant part := by
  cases part <;> rfl

lemma symm (h : SameAt first second part) : SameAt second first part := by
  cases part <;> exact Eq.symm h

lemma trans (h : SameAt first middle part) (hnext : SameAt middle second part) :
    SameAt first second part := by
  cases part <;> exact Eq.trans h hnext

end SameAt

lemma SameBut.sameAt {changed : Part} (h : SameBut changed before last) (hne : part ≠ changed) :
    SameAt last before part := by
  cases part with
  | override entity => exact h.override entity hne.symm
  | offset entity => exact h.offset entity hne.symm
  | primary => exact h.primary hne.symm
  | suppress => exact h.suppress hne.symm

namespace SameOutside

lemma refl (parts : List Part) (plant : Simulated) : SameOutside parts plant plant :=
  ⟨fun _ => rfl, fun part _ => .refl plant part, rfl, rfl⟩

lemma trans (h : SameOutside parts before middle) (hnext : SameOutside parts middle last) :
    SameOutside parts before last where
  fixed entity := (hnext.fixed entity).trans (h.fixed entity)
  stored part hpart := (hnext.stored part hpart).trans (h.stored part hpart)
  temperature := hnext.temperature.trans h.temperature
  fails := hnext.fails.trans h.fails

lemma mono {more : List Part} (h : SameOutside parts before last) (hsubset : parts ⊆ more) :
    SameOutside more before last :=
  ⟨h.fixed, fun part hother => h.stored part fun hmem => hother (hsubset hmem), h.temperature,
    h.fails⟩

/-- A write changes the part that it names. -/
lemma written (plant : Simulated) (operation : Operation) :
    SameOutside operation.part?.toList plant (plant.written operation) := by
  cases hpart : operation.part? with
  | none =>
    cases operation with
    | setOverride | clearOverride | setOffset | setSystemMode | setSuppressFlag => cases hpart
    | _ => exact ⟨fun _ => rfl, fun part _ => .refl plant part, rfl, rfl⟩
  | some part =>
    have hbut := sameBut_written hpart plant
    refine ⟨hbut.fixed, fun other hother => hbut.sameAt ?_, hbut.temperature, hbut.fails⟩
    simpa using hother

lemma foldl_written (h : ∀ operation ∈ operations, operation.part?.toList ⊆ parts)
    (plant : Simulated) :
    SameOutside parts plant (operations.foldl Simulated.written plant) := by
  induction operations generalizing plant with
  | nil => exact .refl parts plant
  | cons operation rest ih =>
    obtain ⟨hfirst, hrest⟩ := List.forall_mem_cons.mp h
    exact ((written plant operation).mono hfirst).trans (ih hrest _)

/-- Writes change the parts that they name. -/
lemma foldl_written_flatMap (operations : List Operation) (plant : Simulated) :
    SameOutside (operations.flatMap fun operation => operation.part?.toList) plant
      (operations.foldl Simulated.written plant) := by
  apply foldl_written
  intro operation hmem part hpart
  exact List.mem_flatMap.mpr ⟨operation, hmem, hpart⟩

lemma sameSchedules (h : SameOutside parts before last) : SameSchedules before last := by
  refine ⟨fun entity => ?_, h.fails.symm⟩
  have hstanding := congrArg (Option.map fun fixed => fixed.2.1) (h.fixed entity)
  simpa [Option.map_map, Function.comp_def, Device.fixed] using hstanding.symm

/-- Where no part has changed, at most the record differs. -/
lemma clearCalls_eq (h : SameOutside [] before last) : last.clearCalls = before.clearCalls := by
  have hdevice : last.device? = before.device? := by
    funext entity
    have hfixed := h.fixed entity
    have hoverride := h.stored (.override entity) List.not_mem_nil
    have hoffset := h.stored (.offset entity) List.not_mem_nil
    simp only [SameAt] at hoverride hoffset
    cases hlast : last.device? entity <;> cases hbefore : before.device? entity <;>
      simp only [hlast, hbefore, Option.map_none, Option.map_some, reduceCtorEq,
        Option.some.injEq] at hfixed hoverride hoffset ⊢
    exact Device.eq_of_settings hfixed (Prod.ext hoverride hoffset)
  have hprimary : last.primary = before.primary := h.stored .primary List.not_mem_nil
  have hsuppress : last.suppress = before.suppress := h.stored .suppress List.not_mem_nil
  simp only [clearCalls, hdevice, hprimary, hsuppress, h.temperature, h.fails]

end SameOutside

/-! ### Plants with the same schedules -/

namespace SameSchedules

variable (h : SameSchedules first second)

include h

lemma symm : SameSchedules second first :=
  ⟨fun entity => (h.standing entity).symm, h.fails.symm⟩

lemma trans (hnext : SameSchedules second last) : SameSchedules first last :=
  ⟨fun entity => (h.standing entity).trans (hnext.standing entity), h.fails.trans hnext.fails⟩

lemma guarded (operation : Operation) (answer : Answer operation) :
    first.guarded operation answer = second.guarded operation answer := by
  simp only [Simulated.guarded, h.fails]

/-- An entity is in both plants or in neither. -/
lemma write_fst (operation : Operation) (reply : operation.Reply) (entity : Entity)
    (refusal : Option String) (change : Device → Device) :
    (first.write operation reply entity refusal change).1 =
      (second.write operation reply entity refusal change).1 := by
  have hentity := h.standing entity
  unfold write
  cases hfirst : first.device? entity <;> cases hsecond : second.device? entity <;>
    simp only [hfirst, hsecond, Option.map_none, Option.map_some, reduceCtorEq] at hentity ⊢
  · simp only [commit_fst, h.guarded]
  · cases refusal <;> simp only [commit_fst, h.guarded]

lemma answer_fst (hignores : operation.IgnoresSettings) :
    (first.answer operation).1 = (second.answer operation).1 := by
  cases operation with
  | standingMode entity =>
    have hentity := h.standing entity
    simp only [answer, read, h.guarded]
    cases hfirst : first.device? entity <;> cases hsecond : second.device? entity <;>
      simp only [hfirst, hsecond, Option.map_none, Option.map_some, reduceCtorEq,
        Option.some.injEq] at hentity ⊢
    rw [hentity]
  | setOverride entity mode => exact h.write_fst (.setOverride entity mode) _ _ _ _
  | clearOverride entity => exact h.write_fst (.clearOverride entity) () _ _ _
  | setOffset entity value => exact h.write_fst (.setOffset entity value) () _ _ _
  | setSystemMode primary =>
    simp only [answer]
    split <;> simp only [commit_fst, h.guarded]
  | setSuppressFlag suppress => simp only [answer, commit_fst, h.guarded]
  | _ => cases hignores

/-- After a write to both, the plants have stored the same in the part that it names. -/
lemma sameAt_written (hpart : operation.part? = some part) :
    SameAt (first.written operation) (second.written operation) part := by
  have hmodify {α : Type} (entity : Entity) (change : Device → Device) (property : Device → α)
      (hconstant : ∀ device other, property (change device) = property (change other)) :
      ((first.modify entity change).device? entity).map property =
        ((second.modify entity change).device? entity).map property := by
    have hentity := h.standing entity
    simp only [modify_eq, if_true]
    cases hfirst : first.device? entity <;> cases hsecond : second.device? entity <;>
      simp only [hfirst, hsecond, Option.map_none, Option.map_some, reduceCtorEq] at hentity ⊢
    rw [hconstant]
  cases operation with
  | setOverride entity | clearOverride entity | setOffset entity =>
    cases hpart
    exact hmodify entity _ _ fun _ _ => rfl
  | setSystemMode | setSuppressFlag =>
    cases hpart
    rfl
  | _ => cases hpart

end SameSchedules

/-- A part that is the same in two plants is the same after a write to both. -/
lemma SameAt.written (h : SameAt first second part) (hschedules : SameSchedules first second)
    (operation : Operation) :
    SameAt (first.written operation) (second.written operation) part := by
  by_cases hpart : operation.part? = some part
  · exact hschedules.sameAt_written hpart
  · have hkept (plant : Simulated) : SameAt (plant.written operation) plant part := by
      refine (SameOutside.written plant operation).stored part ?_
      simpa using hpart
    exact ((hkept first).trans h).trans (hkept second).symm

lemma SameSchedules.written (h : SameSchedules first second) (operation : Operation) :
    SameSchedules (first.written operation) (second.written operation) := by
  have hkept (plant : Simulated) : SameSchedules plant (plant.written operation) :=
    (SameOutside.written plant operation).sameSchedules
  exact ((hkept first).symm.trans h).trans (hkept second)

/-- The same writes leave two plants with the same in every part that they name. -/
lemma SameSchedules.foldl_written (h : SameSchedules first second)
    (hmem : SameAt first second part ∨ some part ∈ operations.map Operation.part?) :
    SameAt (operations.foldl Simulated.written first) (operations.foldl Simulated.written second)
      part := by
  induction operations generalizing first second with
  | nil => simpa using hmem
  | cons operation rest ih =>
    apply ih (h.written operation)
    rw [List.map_cons, List.mem_cons] at hmem
    rcases hmem with hsame | hpart | hlater
    · exact .inl (hsame.written h operation)
    · exact .inl (h.sameAt_written hpart.symm)
    · exact .inr hlater

/-! ### Runs -/

variable {α : Type} {program : Program α} {post : α → Prop}

lemma written_performedBy (plant : Simulated) (operation : Operation) :
    (plant.answer operation).2 =
      ((plant.performedBy operation).map (·.operation)).foldl Simulated.written plant := by
  rw [map_performedBy, answer_snd]
  split <;> rfl

/-- The plant after a run is the plant before with the writes of the run carried out. -/
lemma run_eq_foldl_written (program : Program α) (plant : Simulated) :
    (run program plant).2 =
      ((performed program plant).map (·.operation)).foldl Simulated.written plant := by
  induction program generalizing plant with
  | done value => rfl
  | call operation next ih =>
    calc (run (.call operation next) plant).2
        = (run (next (plant.answer operation).1) (plant.answer operation).2).2 := rfl
      _ = _ := by
        rw [ih, performed, List.map_append, List.foldl_append, ← written_performedBy]

/-- Running a program leaves the schedules as they are. -/
lemma sameSchedules_run (program : Program α) (plant : Simulated) :
    SameSchedules plant (run program plant).2 := by
  rw [run_eq_foldl_written]
  exact (SameOutside.foldl_written_flatMap _ plant).sameSchedules

/-- A program whose calls ignore settings cannot tell plants with the same schedules apart. -/
lemma SameSchedules.run (h : SameSchedules first second)
    (hwithin : program.Within Operation.IgnoresSettings post) :
    (Simulated.run program first).1 = (Simulated.run program second).1 ∧
      (performed program first).map (·.operation) =
        (performed program second).map (·.operation) := by
  induction program generalizing first second with
  | done value => exact ⟨rfl, rfl⟩
  | call operation next ih =>
    obtain ⟨hignores, hnext⟩ := hwithin
    have hanswer := h.answer_fst hignores
    have hafter : SameSchedules (first.answer operation).2 (second.answer operation).2 := by
      rw [answer_snd, answer_snd, hanswer]
      split
      · exact h.written operation
      · exact h
    obtain ⟨hvalue, hperformed⟩ := ih _ hafter (hnext (first.answer operation).1)
    have hrun : Simulated.run (.call operation next) second =
        Simulated.run (next (first.answer operation).1) (second.answer operation).2 := by
      rw [hanswer]
      rfl
    rw [hrun]
    refine ⟨hvalue, ?_⟩
    simp only [performed, List.map_append, map_performedBy]
    rw [hperformed, hanswer]

/-- A program whose calls ignore settings changes nothing more when it is run again. -/
lemma sameOutside_run_run (hwithin : program.Within Operation.IgnoresSettings post)
    (plant : Simulated) :
    SameOutside [] (Simulated.run program plant).2
      (Simulated.run program (Simulated.run program plant).2).2 := by
  have hschedules := sameSchedules_run program plant
  obtain ⟨-, hwrites⟩ := hschedules.run hwithin
  have hagain := run_eq_foldl_written program (Simulated.run program plant).2
  rw [← hwrites] at hagain
  generalize hoperations : (performed program plant).map (·.operation) = operations at hagain
  have hkept : SameOutside (operations.flatMap fun operation => operation.part?.toList)
      (Simulated.run program plant).2
      (Simulated.run program (Simulated.run program plant).2).2 := by
    rw [hagain]
    exact .foldl_written_flatMap operations _
  refine ⟨hkept.fixed, fun part _ => ?_, hkept.temperature, hkept.fails⟩
  by_cases hmem : some part ∈ operations.map Operation.part?
  · -- The part is written again, to what the first run wrote there.
    have hfirst := run_eq_foldl_written program plant
    rw [hoperations] at hfirst
    rw [hagain]
    nth_rewrite 2 [hfirst]
    exact hschedules.symm.foldl_written (.inr hmem)
  · refine hkept.stored part fun hpart => hmem ?_
    obtain ⟨operation, hoperation, hnamed⟩ := List.mem_flatMap.mp hpart
    exact List.mem_map.mpr ⟨operation, hoperation, Option.mem_toList.mp hnamed⟩

/-- However often a program is run whose calls ignore settings, it ends alike each time, leaves
the plant that it left the first time, and has recorded the same writes once more. -/
lemma iterate_run (hwithin : program.Within Operation.IgnoresSettings post) (plant : Simulated)
    (n : ℕ) :
    let after (plant : Simulated) := (Simulated.run program plant).2
    let recorded := (performed program plant).map (·.operation)
    (Simulated.run program (after^[n] plant)).1 = (Simulated.run program plant).1 ∧
      (after^[n + 1] plant).clearCalls = (after plant).clearCalls ∧
      (after^[n + 1] plant).calls =
        plant.calls ++ (List.replicate (n + 1) recorded).flatten := by
  intro after recorded
  have hschedules (n : ℕ) : SameSchedules plant (after^[n] plant) := by
    induction n with
    | zero => exact ⟨fun _ => rfl, rfl⟩
    | succ n ih =>
      rw [Function.iterate_succ_apply']
      exact ih.trans (sameSchedules_run program _)
  have hsame (n : ℕ) : SameOutside [] (after plant) (after^[n + 1] plant) := by
    induction n with
    | zero => exact .refl [] _
    | succ n ih =>
      rw [Function.iterate_succ_apply', Function.iterate_succ_apply'] at *
      exact ih.trans (sameOutside_run_run hwithin _)
  have hcalls (n : ℕ) :
      (after^[n] plant).calls = plant.calls ++ (List.replicate n recorded).flatten := by
    induction n with
    | zero => simp
    | succ n ih =>
      obtain ⟨-, hwrites⟩ := (hschedules n).run hwithin
      rw [Function.iterate_succ_apply', calls_run, ih, ← hwrites, List.append_assoc,
        List.replicate_succ', List.flatten_append, List.flatten_singleton]
  exact ⟨((hschedules n).run hwithin).1.symm, (hsame n).clearCalls_eq, hcalls (n + 1)⟩

end Simulated

end Plant

namespace Web

open Caller Form Plant Settings

variable {portal : Portal} {request : Request} {parts : List Part} {first second : World}

/-! ### Accepted submissions -/

/-- A submission that its form accepts, with the parts of the plant that it is to write: the
system mode and the suppress flag, or the offset of an entity and, where run modes are on
offer, its override. -/
inductive Portal.Validates (portal : Portal) (request : Request) : List Part → Prop
  | system {modes : List Choice} {values : Values} (hpost : request.method = .post)
      (haccept : Portal.accept request = .ok .system)
      (hmodes : systemModes portal.settings (portal.caller request) = .ok modes)
      (hvalues : (Form.system modes).validate (submittedTexts request.body) = .ok values) :
      Validates portal request [.primary, .suppress]
  | entity {kind : Kind} {id : String} {context : EntityContext} {entity : Entity}
      {values : Values} (hpost : request.method = .post)
      (haccept : Portal.accept request = .ok (.entity kind id))
      (haddressed : addressed portal.settings (portal.caller request) kind id =
        .ok (context, entity))
      (hvalues : (Form.entity kind context.runModes).validate
        (submittedTexts request.body) = .ok values) :
      Validates portal request
        (.offset entity :: if context.runModes.isSome then [.override entity] else [])

/-- The calls of a task ignore settings. -/
def IgnoresSettings {ε α : Type} (task : Task ε α) : Prop :=
  Task.Within Operation.IgnoresSettings task (fun _ => True) fun _ => True

lemma ignoresSettings_send (operation : Operation) (h : operation.IgnoresSettings)
    (error : Failure → Error) : IgnoresSettings (operation.send.ofPlant error) :=
  Task.within_ofPlant (Operation.within_send h) fun _ => trivial

lemma ignoresSettings_applyMode (change : SystemModeChange) : IgnoresSettings change.apply := by
  refine (ignoresSettings_send (.setSystemMode change.primary) rfl _).bind fun _ _ => ?_
  refine (ignoresSettings_send (.setSuppressFlag change.suppress) rfl _).bind fun _ _ => ?_
  exact Task.within_pure trivial

lemma ignoresSettings_build (entity : Entity) (offset : Option Number.Binary64)
    (asked : Option OverrideRequest) :
    IgnoresSettings (ChangePlan.build entity offset asked) := by
  have hplan : IgnoresSettings (ChangePlan.planOverride entity asked) := by
    cases asked with
    | none => exact Task.within_pure trivial
    | some request =>
      simp only [ChangePlan.planOverride]
      split
      · exact (Operation.within_send trivial).bind fun _ _ => Task.within_pure trivial
      · exact Task.within_pure trivial
  exact hplan.bind fun _ _ => Task.within_pure trivial

lemma ignoresSettings_applyPlan (plan : ChangePlan) : IgnoresSettings plan.apply := by
  have hcall (call : OverridePlan) :
      IgnoresSettings (ChangePlan.sendOverride plan.entity call) := by
    cases call <;> exact Operation.within_send rfl
  have hoffset (value : Number.Binary64) :=
    ignoresSettings_send (.setOffset plan.entity value) rfl .plant
  obtain ⟨entity, offset, override⟩ := plan
  cases offset <;> cases override <;> dsimp only [ChangePlan.apply] at hcall hoffset ⊢
  · exact Task.within_pure trivial
  · exact Task.within_ofPlant (hcall _) fun _ => trivial
  · refine (hoffset _).bind fun _ _ => ?_
    exact Task.within_pure trivial
  · refine (hoffset _).bind fun _ _ => ?_
    exact Task.within_ofPlant (hcall _) fun _ => trivial

/-- Serving an accepted submission ignores settings. -/
lemma ignoresSettings_serve (h : portal.Validates request parts) :
    (portal.serve request).Within Operation.IgnoresSettings fun _ => True := by
  have hserve {route : Route} (hpost : request.method = .post)
      (haccept : Portal.accept request = .ok route)
      (hsubmit : IgnoresSettings (Portal.submit portal.settings (portal.caller request)
        (submittedTexts request.body) route)) :
      (portal.serve request).Within Operation.IgnoresSettings fun _ => True :=
    within_serve hpost haccept hsubmit (fun _ _ => trivial) fun _ _ => trivial
  cases h with
  | system hpost haccept hmodes hvalues =>
    apply hserve hpost haccept
    simp only [Portal.submit, submitSystemMode, hmodes]
    refine (Task.within_ofExcept fun _ _ => trivial).bind fun found hfound => ?_
    cases hfound
    rw [hvalues]
    refine (Task.within_ofExcept fun _ _ => trivial).bind fun change _ => ?_
    exact (ignoresSettings_applyMode change).bind fun composite _ => Task.within_pure trivial
  | entity hpost haccept haddressed hvalues =>
    apply hserve hpost haccept
    simp only [Portal.submit, submitEntity, haddressed]
    refine (Task.within_ofExcept fun _ _ => trivial).bind fun found hfound => ?_
    cases hfound
    dsimp only
    rw [hvalues]
    refine (Task.within_ofPlant (ignoresSettings_build _ _ _) fun _ => trivial).bind
      fun plan _ => ?_
    exact (ignoresSettings_applyPlan plan).bind fun _ _ => Task.within_pure trivial

/-! ### What is written -/

lemma isSome_overrideRequest? {kind : Kind} {runModes : Option (List Choice)}
    {submission : Texts} {values : Values}
    (h : (Form.entity kind runModes).validate submission = .ok values) :
    (overrideRequest? values).isSome = runModes.isSome := by
  cases runModes with
  | none =>
    obtain ⟨offset, -, rfl⟩ := values_of_entity_none h
    rfl
  | some modes =>
    obtain ⟨offset, mode, -, -, rfl⟩ := values_of_entity_some h
    rfl

/-- A submission that is accepted for an entity and validated is for one entity only. -/
lemma EntitySubmission.parts_eq {context : EntityContext} {entity : Entity} {values : Values}
    (submission : EntitySubmission portal request context entity values)
    (hvalid : portal.Validates request parts) :
    parts = .offset entity ::
      if (overrideRequest? values).isSome then [.override entity] else [] := by
  obtain ⟨id, hroute, haddressed⟩ := submission.route
  cases hvalid with
  | system _ haccept => cases haccept.symm.trans hroute
  | entity _ haccept hfound =>
    cases haccept.symm.trans hroute
    cases hfound.symm.trans haddressed
    rw [isSome_overrideRequest? submission.accepted]

/-- A redirected submission writes each of its parts once. -/
lemma Effect.map_part? {plant after : Simulated} {outcome : Outcome} {writes : List Performed}
    (h : Effect portal request plant outcome after writes)
    (hvalid : portal.Validates request parts) (hstatus : outcome.response.status = 303) :
    (writes.map (·.operation)).map Operation.part? = parts.map some := by
  cases h with
  | nothing hquiet => exact absurd hstatus hquiet.status
  | modeHalfSet | entityHalfSet =>
    have hstatus : 500 = 303 := hstatus
    contradiction
  | modeSet submission =>
    cases hvalid with
    | system => rfl
    | entity _ haccept => cases haccept.symm.trans submission.route
  | offsetSet submission _ hnone =>
    rw [submission.parts_eq hvalid, hnone]
    rfl
  | @entitySet _ _ _ _ call _ _ submission _ hplanned =>
    obtain ⟨asked, hasked⟩ := hplanned.exists_request
    rw [submission.parts_eq hvalid, hasked]
    cases call <;> rfl

namespace World

/-- The outcome of an accepted submission and its writes depend on
schedules and failures alone. -/
lemma outcome_congr (hvalid : portal.Validates request parts)
    (h : first.plant.SameSchedules second.plant) :
    first.outcome portal request = second.outcome portal request ∧
      (first.writes portal request).map (·.operation) =
        (second.writes portal request).map (·.operation) :=
  h.run (ignoresSettings_serve hvalid)

lemma plant_serve_eq_foldl_written (portal : Portal) (request : Request) (world : World) :
    (world.serve portal request).2.plant =
      ((world.writes portal request).map (·.operation)).foldl Simulated.written world.plant := by
  rw [plant_serve]
  exact Simulated.run_eq_foldl_written _ world.plant

lemma sameSchedules_serve (portal : Portal) (request : Request) (world : World) :
    world.plant.SameSchedules (world.serve portal request).2.plant := by
  rw [plant_serve]
  exact Simulated.sameSchedules_run _ world.plant

/-- Outside the parts that it writes a redirected submission leaves the plant as it was. -/
lemma sameOutside_serve {world : World} (hvalid : portal.Validates request parts)
    (hstatus : (world.serve portal request).1.1.status = 303) :
    Simulated.SameOutside parts world.plant (world.serve portal request).2.plant := by
  have hparts := (world.effect portal request).map_part? hvalid hstatus
  rw [plant_serve_eq_foldl_written]
  apply Simulated.SameOutside.foldl_written
  intro operation hmem part hpart
  have hnamed : some part ∈ parts.map some := by
    rw [← hparts, List.mem_map]
    exact ⟨operation, hmem, Option.mem_toList.mp hpart⟩
  simpa using hnamed

/-- In the parts that it writes a redirected submission leaves two plants with the same. -/
lemma sameAt_serve (hvalid : portal.Validates request parts)
    (h : first.plant.SameSchedules second.plant)
    (hstatus : (first.serve portal request).1.1.status = 303) {part : Part}
    (hmem : first.plant.SameAt second.plant part ∨ part ∈ parts) :
    (first.serve portal request).2.plant.SameAt (second.serve portal request).2.plant part := by
  obtain ⟨-, hwrites⟩ := outcome_congr hvalid h
  rw [plant_serve_eq_foldl_written, plant_serve_eq_foldl_written, ← hwrites]
  apply h.foldl_written
  rw [(first.effect portal request).map_part? hvalid hstatus]
  simpa using hmem

lemma response_congr (hvalid : portal.Validates request parts)
    (h : first.plant.SameSchedules second.plant) :
    (first.serve portal request).1.1 = (second.serve portal request).1.1 := by
  rw [serve_eq, serve_eq, (outcome_congr hvalid h).1]

/-- An accepted submission that is made again changes nothing more. -/
lemma clearCalls_serve_serve (hvalid : portal.Validates request parts) (start : World) :
    ((start.serve portal request).2.serve portal request).2.plant.clearCalls =
      (start.serve portal request).2.plant.clearCalls := by
  apply Simulated.SameOutside.clearCalls_eq
  simp only [plant_serve]
  exact Simulated.sameOutside_run_run (ignoresSettings_serve hvalid) start.plant

lemma serve_replicate (hvalid : portal.Validates request parts) (start : World) (n : ℕ) :
    let repeated := start.afterAll portal (.replicate n (.request request))
    (repeated.serve portal request).1.1 = (start.serve portal request).1.1 ∧
      (repeated.serve portal request).2.plant.clearCalls =
        (start.serve portal request).2.plant.clearCalls := by
  induction n generalizing start with
  | zero => exact ⟨rfl, rfl⟩
  | succ n ih =>
    have hresponse := response_congr hvalid (sameSchedules_serve portal request start)
    obtain ⟨hagain, hplant⟩ := ih (start.serve portal request).2
    exact ⟨hagain.trans hresponse.symm, hplant.trans (clearCalls_serve_serve hvalid start)⟩

end World

/-- An accepted submission has no memory. On two plants with the same schedules and the same
failing operations it is answered alike, publishes the same and records the same writes,
whatever their settings. If it is redirected, the plants agree on the parts that it wrote and
are otherwise as they were; and however often it is made again, it is answered alike and
leaves the same plant. -/
theorem submission_without_memory (portal : Portal) (request : Request) {parts : List Part}
    (hvalid : portal.Validates request parts) (first second : World)
    (hschedules : first.plant.SameSchedules second.plant) (hsink : first.sink = second.sink) :
    let one := first.serve portal request
    let other := second.serve portal request
    one.1 = other.1 ∧ one.2.sink = other.2.sink ∧
    (∃ recorded, one.2.plant.calls = first.plant.calls ++ recorded ∧
      other.2.plant.calls = second.plant.calls ++ recorded) ∧
    (one.1.1.status = 303 →
      (∀ part ∈ parts, one.2.plant.SameAt other.2.plant part) ∧
      Simulated.SameOutside parts first.plant one.2.plant ∧
      Simulated.SameOutside parts second.plant other.2.plant ∧
      ∀ n, let repeated := first.afterAll portal (.replicate n (.request request))
        (repeated.serve portal request).1.1 = one.1.1 ∧
          (repeated.serve portal request).2.plant.clearCalls = one.2.plant.clearCalls) := by
  intro one other
  obtain ⟨houtcome, hwrites⟩ := World.outcome_congr hvalid hschedules
  obtain ⟨hlost, hpublished⟩ := World.commit_congr hsink (first.outcome portal request).publish
  refine ⟨?_, ?_, ?_, fun hstatus => ⟨?_, ?_, ?_, ?_⟩⟩
  · simp only [one, other, World.serve_eq, ← houtcome, hlost]
  · simp only [one, other, World.serve_eq, ← houtcome, hpublished]
  · refine ⟨_, World.calls_serve portal request first, ?_⟩
    rw [World.calls_serve, hwrites]
  · intro part hmem
    exact World.sameAt_serve hvalid hschedules hstatus (.inr hmem)
  · exact World.sameOutside_serve hvalid hstatus
  · apply World.sameOutside_serve hvalid
    rw [← World.response_congr hvalid hschedules]
    exact hstatus
  · exact fun n => World.serve_replicate hvalid first n

/-- The ground floor is overridden on two plants that have little in common
but their schedules. -/
theorem submission_without_memory_ground_floor :
    let entity : Entity := ⟨.circuit, 0⟩
    let request := Request.submission "/circuits/0" "offset=1.5&runmode=2&override=on"
    let renamed := Simulated.demo.modify entity fun device =>
      { device with name := "Parlour", overrideMode := some 4 }
    let plant := renamed.withSystemMode 4 true
    let one := (World.ofPlant .demo).serve .demo request
    let other := (World.ofPlant plant).serve .demo request
    let repeated := (World.ofPlant .demo).afterAll .demo (.replicate 5 (.request request))
    one.1.1.status = 303 ∧ one.1 = other.1 ∧
      one.2.plant.SameAt other.2.plant (.override entity) ∧
      Simulated.SameOutside [.offset entity, .override entity] plant other.2.plant ∧
      (repeated.serve .demo request).2.plant.clearCalls = one.2.plant.clearCalls := by
  intro entity request renamed plant one other repeated
  have haccept : (Portal.accept request).toOption = some (.entity .circuit "0") := by
    decide +kernel
  have haddressed : (addressed Portal.demo.settings (Portal.demo.caller request) .circuit
      "0").toOption.map (fun found => (found.2, found.1.runModes.isSome,
        ((Form.entity .circuit found.1.runModes).validate
          (submittedTexts request.body)).toOption.isSome)) = some (entity, true, true) := by
    decide +kernel
  obtain ⟨⟨context, found⟩, haddressed, hfound⟩ := Option.map_eq_some_iff.mp haddressed
  simp only [Prod.mk.injEq] at hfound
  obtain ⟨rfl, hrunModes, hvalues⟩ := hfound
  obtain ⟨values, hvalues⟩ := Option.isSome_iff_exists.mp hvalues
  have hvalidates : Portal.demo.Validates request [.offset entity, .override entity] := by
    have hparts := Portal.Validates.entity rfl (eq_ok_of_toOption haccept)
      (eq_ok_of_toOption haddressed) (eq_ok_of_toOption hvalues)
    rwa [hrunModes] at hparts
  have hschedules : Simulated.demo.SameSchedules plant := by
    have hkept (other : Entity) : (renamed.device? other).map (·.standingMode) =
        (Simulated.demo.device? other).map (·.standingMode) := by
      refine Simulated.map_device?_modify ?_ .demo
      intro _ device
      rfl
    exact ⟨fun other => (hkept other).symm, rfl⟩
  have hstatus : one.1.1.status = 303 := by decide +kernel
  obtain ⟨hanswer, -, -, hredirected⟩ := submission_without_memory .demo request hvalidates
    (.ofPlant .demo) (.ofPlant plant) hschedules rfl
  obtain ⟨hsame, -, houtside, hrepeated⟩ := hredirected hstatus
  exact ⟨hstatus, hanswer, hsame _ (by simp), houtside, (hrepeated 5).2⟩

end Web

end HeatingPortal
