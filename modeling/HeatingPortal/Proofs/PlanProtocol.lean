import HeatingPortal.Proofs.Repetition

/-!
# The protocol of a change

A change of an entity is planned and then carried out. Whatever the plant answers, planning makes
at most one call, which reads the standing mode, and carrying out makes at most two, of which the
second only follows a first that succeeded. The transcript of a run holds every call with its
answer; the result is decided by it, and says whether something was written before a call failed.
-/

namespace HeatingPortal.Plant

open Number

variable {α β ε : Type}

/-! ### Transcripts -/

/-- A call and the answer to it. -/
abbrev Exchange : Type :=
  (operation : Operation) × Answer operation

namespace Program

/-- The calls of a run with their answers, in order. -/
def transcript {σ : Type} (answer : σ → (operation : Operation) → Answer operation × σ) :
    Program α → σ → List Exchange
  | done _, _ => []
  | call operation next, state =>
    ⟨operation, (answer state operation).1⟩ ::
      (next (answer state operation).1).transcript answer (answer state operation).2

/-- Whatever it is answered, the value of a program and its transcript meet a postcondition. -/
def Traces (post : α → List Exchange → Prop) : Program α → Prop
  | done value => post value []
  | call operation next =>
    ∀ reply, (next reply).Traces fun value later => post value (⟨operation, reply⟩ :: later)

variable {program : Program α} {f : α → Program β}

lemma Traces.mono {post weaker : α → List Exchange → Prop} (h : program.Traces post)
    (himp : ∀ value made, post value made → weaker value made) : program.Traces weaker := by
  induction program generalizing post weaker with
  | done value => exact himp value [] h
  | call operation next ih =>
    exact fun reply => ih reply (h reply) fun value later =>
      himp value (⟨operation, reply⟩ :: later)

lemma Traces.bind {middle : α → List Exchange → Prop} {post : β → List Exchange → Prop}
    (h : program.Traces middle)
    (hrest : ∀ value made, middle value made →
      (f value).Traces fun result later => post result (made ++ later)) :
    (program.bind f).Traces post := by
  induction program generalizing middle post with
  | done value => exact hrest value [] h
  | call operation next ih =>
    exact fun reply => ih reply (h reply) fun value later =>
      hrest value (⟨operation, reply⟩ :: later)

/-- A postcondition of all transcripts is met by that of a run, whoever answers the calls. -/
lemma Traces.run {post : α → List Exchange → Prop} (h : program.Traces post) {σ : Type}
    (answer : σ → (operation : Operation) → Answer operation × σ) (state : σ) :
    post (program.run answer state).1 (program.transcript answer state) := by
  induction program generalizing post state with
  | done value => exact h
  | call operation next ih => exact ih _ (h (answer state operation).1) _

end Program

namespace Task

/-- Whatever it is answered, the transcript of a task meets the postcondition of
its value or its error. -/
def Traces (task : Task ε α) (good : α → List Exchange → Prop) (bad : ε → List Exchange → Prop) :
    Prop :=
  Program.Traces (fun
    | .ok value => good value
    | .error error => bad error) task.run

variable {task : Task ε α} {f : α → Task ε β}

lemma Traces.bind {middle : α → List Exchange → Prop} {good : β → List Exchange → Prop}
    {early bad : ε → List Exchange → Prop} (h : Traces task middle early)
    (hearly : ∀ error made, early error made → bad error made)
    (hrest : ∀ value made, middle value made → Traces (f value)
      (fun result later => good result (made ++ later))
      fun error later => bad error (made ++ later)) :
    Traces (task >>= f) good bad := by
  apply Program.Traces.bind h
  rintro (error | value) made hmiddle
  · have hbad := hearly error made hmiddle
    rw [← List.append_nil made] at hbad
    exact hbad
  · apply Program.Traces.mono (hrest value made hmiddle)
    rintro (error | result) later hpost <;> exact hpost

lemma traces_pure {value : α} {good : α → List Exchange → Prop} {bad : ε → List Exchange → Prop}
    (h : good value []) : Traces (pure value : Task ε α) good bad :=
  h

lemma traces_ofPlant {cause : Task Failure α} {error : Failure → ε}
    {fine good : α → List Exchange → Prop} {failed : Failure → List Exchange → Prop}
    {bad : ε → List Exchange → Prop} (h : Traces cause fine failed)
    (hgood : ∀ value made, fine value made → good value made)
    (hbad : ∀ failure made, failed failure made → bad (error failure) made) :
    Traces (ofPlant error cause) good bad := by
  apply Program.Traces.bind h
  rintro (failure | value) made hpost
  · show bad (error failure) (made ++ [])
    rw [List.append_nil]
    exact hbad failure made hpost
  · show good value (made ++ [])
    rw [List.append_nil]
    exact hgood value made hpost

/-- The result of a run meets with its transcript what all results do,
whoever answers the calls. -/
lemma Traces.run {post : List Exchange → Except ε α → Prop}
    (h : Traces task (fun value made => post made (.ok value))
      fun error made => post made (.error error))
    {σ : Type} (answer : σ → (operation : Operation) → Answer operation × σ) (state : σ) :
    post (task.run.transcript answer state) (task.run.run answer state).1 := by
  have hrun := Program.Traces.run h answer state
  cases hresult : (task.run.run answer state).1 <;> rw [hresult] at hrun <;> exact hrun

end Task

lemma Operation.traces_send (operation : Operation) :
    Task.Traces operation.send (fun reply made => made = [⟨operation, .ok reply⟩])
      fun failure made => made = [⟨operation, .error failure⟩] := by
  rintro (failure | reply)
  · exact rfl
  · exact rfl

/-! ### Planning -/

namespace ChangePlan

/-- The ways in which planning a change can go. -/
inductive Drafted (entity : Entity) (offset : Option Binary64) :
    Option OverrideRequest → List Exchange → Except Failure ChangePlan → Prop
  | unasked : Drafted entity offset none [] (.ok ⟨entity, offset, none⟩)
  | dropped {request : OverrideRequest} (hwanted : request.wanted = false) :
      Drafted entity offset (some request) [] (.ok ⟨entity, offset, some .clear⟩)
  | reconciled {request : OverrideRequest} {standing : Int64} (hwanted : request.wanted = true) :
      Drafted entity offset (some request) [⟨.standingMode entity, .ok standing⟩]
        (.ok ⟨entity, offset, some (reconcile standing request)⟩)
  | failed {request : OverrideRequest} {failure : Failure} (hwanted : request.wanted = true) :
      Drafted entity offset (some request) [⟨.standingMode entity, .error failure⟩]
        (.error failure)

lemma traces_build (entity : Entity) (offset : Option Binary64)
    (request : Option OverrideRequest) :
    Task.Traces (build entity offset request)
      (fun plan made => Drafted entity offset request made (.ok plan))
      fun failure made => Drafted entity offset request made (.error failure) := by
  have hplan : Task.Traces (planOverride entity request)
      (fun override made => Drafted entity offset request made (.ok ⟨entity, offset, override⟩))
      fun failure made => Drafted entity offset request made (.error failure) := by
    cases request with
    | none => exact Task.traces_pure .unasked
    | some request =>
      simp only [planOverride]
      split
      · next hwanted =>
        refine (Operation.traces_send (.standingMode entity)).bind ?_ ?_
        · rintro failure made rfl
          exact .failed hwanted
        · rintro standing made rfl
          exact Task.traces_pure (.reconciled hwanted)
      · next hwanted => exact Task.traces_pure (.dropped (by simpa using hwanted))
  refine hplan.bind (fun _ _ hdrafted => hdrafted) fun override made hdrafted => ?_
  exact Task.traces_pure (by rwa [List.append_nil])

/-- What a transcript and a result of planning have to do with each other: one call at most, for
a wanted override, whose failure is the only one; and a mode to set only where it was wanted and
the standing mode, as it was read, is another. -/
structure PlansByProtocol (entity : Entity) (offset : Option Binary64)
    (request : Option OverrideRequest) (made : List Exchange)
    (result : Except Failure ChangePlan) :
    Prop where
  calls : made.map (·.1) = if request.any (·.wanted) then [.standingMode entity] else []
  failed : ∀ failure, result = .error failure ↔ made = [⟨.standingMode entity, .error failure⟩]
  planned : ∀ plan, result = .ok plan →
    plan.entity = entity ∧ plan.offset = offset ∧ plan.override.isSome = request.isSome
  set : ∀ plan, result = .ok plan → ∀ mode, plan.override = some (.set mode) ↔
    request = some ⟨mode, true⟩ ∧
      ∃ standing, made = [⟨.standingMode entity, .ok standing⟩] ∧ mode ≠ standing

variable {entity : Entity} {offset : Option Binary64} {request : Option OverrideRequest}
  {plan : ChangePlan} {made : List Exchange}

lemma Drafted.plansByProtocol {result : Except Failure ChangePlan}
    (h : Drafted entity offset request made result) :
    PlansByProtocol entity offset request made result := by
  cases h with
  | unasked => constructor <;> simp
  | dropped hwanted => constructor <;> simp [hwanted]
  | reconciled hwanted => constructor <;> simp [hwanted, reconcile_eq_set_iff]
  | failed hwanted => constructor <;> simp [hwanted]

/-! ### Carrying out -/

/-- The ways in which carrying out a plan can go. -/
inductive Applied (plan : ChangePlan) : List Exchange → Except Error Unit → Prop
  | nothing (hoffset : plan.offset = none) (hoverride : plan.override = none) :
      Applied plan [] (.ok ())
  | offsetRefused {value : Binary64} {failure : Failure} (hoffset : plan.offset = some value) :
      Applied plan [⟨.setOffset plan.entity value, .error failure⟩] (.error (.plant failure))
  | offset {value : Binary64} (hoffset : plan.offset = some value)
      (hoverride : plan.override = none) :
      Applied plan [⟨.setOffset plan.entity value, .ok ()⟩] (.ok ())
  | override {call : OverridePlan} {reply : (call.operation plan.entity).Reply}
      (hoffset : plan.offset = none) (hoverride : plan.override = some call) :
      Applied plan [⟨call.operation plan.entity, .ok reply⟩] (.ok ())
  | overrideRefused {call : OverridePlan} {failure : Failure}
      (hoffset : plan.offset = none) (hoverride : plan.override = some call) :
      Applied plan [⟨call.operation plan.entity, .error failure⟩] (.error (.plant failure))
  | both {value : Binary64} {call : OverridePlan} {reply : (call.operation plan.entity).Reply}
      (hoffset : plan.offset = some value) (hoverride : plan.override = some call) :
      Applied plan
        [⟨.setOffset plan.entity value, .ok ()⟩, ⟨call.operation plan.entity, .ok reply⟩]
        (.ok ())
  | halfDone {value : Binary64} {call : OverridePlan} {failure : Failure}
      (hoffset : plan.offset = some value) (hoverride : plan.override = some call) :
      Applied plan
        [⟨.setOffset plan.entity value, .ok ()⟩, ⟨call.operation plan.entity, .error failure⟩]
        (.error (.halfDone "set_offset" (call.operation plan.entity).label failure))

lemma traces_sendOverride (entity : Entity) (call : OverridePlan) :
    Task.Traces (sendOverride entity call)
      (fun _ made => ∃ reply, made = [⟨call.operation entity, .ok reply⟩])
      fun failure made => made = [⟨call.operation entity, .error failure⟩] := by
  cases call <;> rintro (failure | reply)
  · exact rfl
  · exact ⟨reply, rfl⟩
  · exact rfl
  · exact ⟨reply, rfl⟩

lemma traces_apply (plan : ChangePlan) :
    Task.Traces plan.apply (fun _ made => plan.Applied made (.ok ()))
      fun error made => plan.Applied made (.error error) := by
  obtain ⟨entity, offset, override⟩ := plan
  cases offset with
  | none =>
    cases override with
    | none => exact Task.traces_pure (.nothing rfl rfl)
    | some call =>
      refine Task.traces_ofPlant (traces_sendOverride entity call) ?_ ?_
      · rintro - made ⟨reply, rfl⟩
        exact .override rfl rfl
      · rintro failure made rfl
        exact .overrideRefused rfl rfl
  | some value =>
    refine (Task.traces_ofPlant (Operation.traces_send (.setOffset entity value))
      (fun _ _ h => h) fun failure made hmade => ?_).bind (fun _ _ h => h) ?_
    · subst hmade
      exact .offsetRefused rfl
    · rintro ⟨⟩ made rfl
      cases override with
      | none => exact Task.traces_pure (.offset rfl rfl)
      | some call =>
        refine Task.traces_ofPlant (traces_sendOverride entity call) ?_ ?_
        · rintro - made ⟨reply, rfl⟩
          exact .both rfl rfl
        · rintro failure made rfl
          exact .halfDone rfl rfl

/-- What a transcript and a result of carrying out a plan have to do with each other: the offset
comes first, the override only after an offset that was written, and an error is a half-done
change exactly when the offset was written and the override was not. -/
structure AppliesByProtocol (plan : ChangePlan) (made : List Exchange)
    (result : Except Error Unit) :
    Prop where
  offset : ∀ value, plan.offset = some value → ∃ reply rest,
    made = ⟨.setOffset plan.entity value, reply⟩ :: rest ∧ rest.map (·.1) =
      if reply.isOk then plan.override.toList.map (·.operation plan.entity) else []
  override : plan.offset = none →
    made.map (·.1) = plan.override.toList.map (·.operation plan.entity)
  done : result = .ok () ↔ ∀ exchange ∈ made, exchange.2.isOk = true
  halfDone : ∀ applied failed failure, result = .error (.halfDone applied failed failure) ↔
    applied = "set_offset" ∧ ∃ value call, plan.offset = some value ∧ plan.override = some call ∧
      failed = (call.operation plan.entity).label ∧
      made = [⟨.setOffset plan.entity value, .ok ()⟩,
        ⟨call.operation plan.entity, .error failure⟩]
  plant : ∀ failure,
    result = .error (.plant failure) ↔ ∃ operation, made = [⟨operation, .error failure⟩]
  ofPlant : ∀ error, result = .error error → Web.OfPlant error

lemma Applied.appliesByProtocol {result : Except Error Unit} (h : plan.Applied made result) :
    plan.AppliesByProtocol made result := by
  cases h with
  | nothing hoffset hoverride | offset hoffset hoverride | override hoffset hoverride
  | overrideRefused hoffset hoverride | both hoffset hoverride =>
    constructor <;> simp [hoffset, hoverride, Except.isOk, Except.toBool, Web.OfPlant]
  | offsetRefused hoffset =>
    constructor <;> simp [hoffset, Except.isOk, Except.toBool, Web.OfPlant]
  | halfDone hoffset hoverride =>
    constructor <;> simp [hoffset, hoverride, Except.isOk, Except.toBool, Web.OfPlant]
    intro applied failed failure
    exact and_congr eq_comm (and_congr_left' eq_comm)

/-! ### The protocol -/

/-- Changes are planned and carried out by protocol, whoever answers the calls; and on a
simulated plant a plan that is carried out again ends as before, in success or in the same
failure, leaves the plant as the first time left it, and records the same writes again. -/
theorem change_by_protocol {σ : Type}
    (answer : σ → (operation : Operation) → Answer operation × σ)
    (state later : σ) (entity : Entity) (offset : Option Binary64)
    (request : Option OverrideRequest) (plan : ChangePlan) (plant : Simulated) (n : ℕ) :
    let planning := (build entity offset request).run
    let applying := plan.apply.run
    let after (plant : Simulated) := (Simulated.run applying plant).2
    PlansByProtocol entity offset request (planning.transcript answer state)
        (planning.run answer state).1 ∧
      plan.AppliesByProtocol (applying.transcript answer later) (applying.run answer later).1 ∧
      (Simulated.run applying (after^[n] plant)).1 = (Simulated.run applying plant).1 ∧
      (after^[n + 1] plant).clearCalls = (after plant).clearCalls ∧
      (after^[n + 1] plant).calls = plant.calls ++
        (List.replicate (n + 1)
          ((Simulated.performed applying plant).map (·.operation))).flatten := by
  intro planning applying after
  have hdrafted := (traces_build entity offset request).run answer state
  have happlied := (traces_apply plan).run answer later
  exact ⟨hdrafted.plansByProtocol, happlied.appliesByProtocol,
    Simulated.iterate_run (Web.ignoresSettings_applyPlan plan) plant n⟩

end ChangePlan

end HeatingPortal.Plant
