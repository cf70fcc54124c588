import HeatingPortal.Proofs.Sessions

/-!
# What an answer tells

The status of an answer says what became of the plant. A redirection means that every call of the
submission was carried out, a change left half done that exactly the first was, and any other
answer that nothing changed at all.
-/

namespace HeatingPortal.Web

open Caller Form Plant

variable {portal : Portal} {request : Request}

/-! ### Calls of a submission -/

/-- The calls that an acceptable submission to a plant asks for, in order. -/
inductive AsksFor (portal : Portal) (request : Request) (plant : Simulated) :
    List Operation → Prop
  | mode {change : SystemModeChange} (submission : ModeSubmission portal request change) :
      AsksFor portal request plant
        [.setSystemMode change.primary, .setSuppressFlag change.suppress]
  | offset {context : EntityContext} {entity : Entity} {values : Values}
      {offset : Number.Binary64}
      (submission : EntitySubmission portal request context entity values)
      (hoffset : values.decimal? offsetKey = some offset)
      (hnone : overrideRequest? values = none) :
      AsksFor portal request plant [.setOffset entity offset]
  | override {context : EntityContext} {entity : Entity} {values : Values}
      {offset : Number.Binary64} {call : OverridePlan}
      (submission : EntitySubmission portal request context entity values)
      (hoffset : values.decimal? offsetKey = some offset)
      (hplanned : Planned plant entity (overrideRequest? values) (some call)) :
      AsksFor portal request plant [.setOffset entity offset, call.operation entity]

/-- A change that was left half done. -/
def Response.IsHalfDone (response : Response) : Prop :=
  response.status = 500 ∧ response.errorCode? = some halfDoneCode

lemma isHalfDone_ofError (applied failed : String) (failure : Failure) :
    (Response.ofError (.halfDone applied failed failure)).IsHalfDone :=
  ⟨rfl, rfl⟩

/-! ### Effects by their status -/

section

variable {plant after : Simulated} {outcome : Outcome} {writes : List Performed}

/-- A redirection follows all calls that were asked for. -/
lemma Effect.redirected (h : Effect portal request plant outcome after writes)
    (hstatus : outcome.response.status = 303) :
    ∃ calls, AsksFor portal request plant calls ∧ writes.map (·.operation) = calls ∧
      after = calls.foldl Simulated.written plant := by
  cases h with
  | nothing hquiet => exact absurd hstatus hquiet.status
  | modeHalfSet | entityHalfSet =>
    have hstatus : 500 = 303 := hstatus
    contradiction
  | modeSet submission hmode hflag =>
    refine ⟨_, .mode submission, rfl, ?_⟩
    obtain rfl := Simulated.eq_written_of_accepts rfl hmode
    exact Simulated.eq_written_of_accepts rfl hflag
  | offsetSet submission hoffset hnone hset =>
    exact ⟨_, .offset submission hoffset hnone, rfl, Simulated.eq_written_of_accepts rfl hset⟩
  | @entitySet _ _ _ _ call _ _ submission hoffset hplanned hset hcall =>
    refine ⟨_, .override submission hoffset hplanned, rfl, ?_⟩
    obtain rfl := Simulated.eq_written_of_accepts rfl hset
    exact Simulated.eq_written_of_accepts (by cases call <;> rfl) hcall

/-- A change that is left half done ends after the first of two calls. -/
lemma Effect.halfDone (h : Effect portal request plant outcome after writes)
    (hhalf : outcome.response.IsHalfDone) :
    ∃ first second, AsksFor portal request plant [first, second] ∧
      writes.map (·.operation) = [first] ∧ after = plant.written first ∧
      outcome.publish = none := by
  cases h with
  | nothing hquiet => exact absurd hhalf.2 hquiet.code
  | modeSet | offsetSet | entitySet =>
    have hstatus : 303 = 500 := hhalf.1
    contradiction
  | modeHalfSet submission hmode =>
    exact ⟨_, _, .mode submission, rfl, Simulated.eq_written_of_accepts rfl hmode, rfl⟩
  | entityHalfSet submission hoffset hplanned hset =>
    exact ⟨_, _, .override submission hoffset hplanned, rfl,
      Simulated.eq_written_of_accepts rfl hset, rfl⟩

/-- No other answer comes with a change. -/
lemma Effect.unchanged (h : Effect portal request plant outcome after writes)
    (hstatus : outcome.response.status ≠ 303) (hhalf : ¬outcome.response.IsHalfDone) :
    after = plant ∧ outcome.publish = none := by
  cases h with
  | nothing hquiet => exact ⟨rfl, hquiet.publish⟩
  | modeSet | offsetSet | entitySet => exact absurd rfl hstatus
  | modeHalfSet | entityHalfSet => exact absurd (isHalfDone_ofError _ _ _) hhalf

end

/-! ### Answers -/

/-- An answer tells the truth about the world after it. -/
theorem serve_truthful (portal : Portal) (request : Request) (world : World) :
    let answer := (world.serve portal request).1.1
    let after := (world.serve portal request).2
    (answer.status = 303 →
      ∃ calls, AsksFor portal request world.plant calls ∧
        after.plant = calls.foldl Simulated.written world.plant ∧
        after.plant.calls = world.plant.calls ++ calls) ∧
    (answer.IsHalfDone →
      ∃ first second, AsksFor portal request world.plant [first, second] ∧
        after = { world with plant := world.plant.written first } ∧
        after.plant.calls = world.plant.calls ++ [first]) ∧
    (answer.status ≠ 303 → ¬answer.IsHalfDone → after = world) := by
  obtain ⟨outcome, plant, heffect, hanswer, hafter⟩ := World.exists_effect portal request world
  have hcalls := World.calls_serve portal request world
  intro answer after
  have hanswer : answer = outcome.response := hanswer
  have hafter : after = (World.commit ⟨plant, world.sink⟩ outcome.publish).2 := hafter
  rw [hanswer]
  refine ⟨fun hstatus => ?_, fun hhalf => ?_, fun hstatus hhalf => ?_⟩
  · obtain ⟨calls, hasks, hwrites, hplant⟩ := heffect.redirected hstatus
    refine ⟨calls, hasks, ?_, hwrites ▸ hcalls⟩
    rw [hafter, World.plant_commit, hplant]
  · obtain ⟨first, second, hasks, hwrites, hplant, hpublish⟩ := heffect.halfDone hhalf
    refine ⟨first, second, hasks, ?_, hwrites ▸ hcalls⟩
    rw [hafter, hpublish, hplant]
    rfl
  · obtain ⟨hplant, hpublish⟩ := heffect.unchanged hstatus hhalf
    rw [hafter, hpublish, hplant]
    rfl

/-- The same submission on a plant that works and on one whose suppress flag is stuck, and one of
a mode that is not on offer. -/
theorem serve_truthful_system :
    let summer := Request.submission "/" "sysmode=5&suppress=on"
    let party := Request.submission "/" "sysmode=6"
    let world := World.ofPlant .demo
    let stuck := world.intervene (·.failOn "set_suppress_flag")
    (∃ calls, AsksFor .demo summer world.plant calls ∧
      (world.serve .demo summer).2.plant.calls = world.plant.calls ++ calls) ∧
    (∃ first second, AsksFor .demo summer stuck.plant [first, second] ∧
      (stuck.serve .demo summer).2 = { stuck with plant := stuck.plant.written first }) ∧
    (world.serve .demo party).2 = world := by
  intro summer party world stuck
  obtain ⟨hredirected, -, -⟩ := serve_truthful .demo summer world
  obtain ⟨-, hhalf, -⟩ := serve_truthful .demo summer stuck
  obtain ⟨-, -, hunchanged⟩ := serve_truthful .demo party world
  refine ⟨?_, ?_, hunchanged (by decide +kernel) fun h => absurd h.1 (by decide +kernel)⟩
  · obtain ⟨calls, hasks, -, hcalls⟩ := hredirected (by decide +kernel)
    exact ⟨calls, hasks, hcalls⟩
  · obtain ⟨first, second, hasks, hafter, -⟩ := hhalf ⟨by decide +kernel, by decide +kernel⟩
    exact ⟨first, second, hasks, hafter⟩

end HeatingPortal.Web
