import HeatingPortal.Proofs.Repetition

/-!
# Refused calls

A plant refuses a call that is made to fail, whose target is not there, or whose code it does
not take. No call changes any of these, so the first call of a list that will be refused is
known before any of them is made. `Task.Makes` says of a task that it makes the calls of a
list: it ends with a value if none of them is refused, and with the error of the first
refused one otherwise.
-/

namespace HeatingPortal.Plant

/-! ### Single calls -/

namespace Simulated

variable {plant before last : Simulated} {operation : Operation} {failure : Failure}

/-- What speaks against a call, failures that are made aside. -/
def objection? (plant : Simulated) : Operation → Option String
  | .name e | .standingMode e | .currentMode e | .overrideActive e | .clearOverride e | .offset e
  | .setOffset e _ | .setpoints e | .hasAmbientSensor e =>
    if (plant.device? e).isSome then none else some "no such entity"
  | .setOverride e mode =>
    if (plant.device? e).isSome then runModeRefusal mode else some "no such entity"
  | .setSystemMode primary => systemModeRefusal primary
  | .systemMode | .suppressFlag | .setSuppressFlag _ => none
  | .temperature sensor =>
    if (plant.temperature? sensor).isSome then none else some "no such sensor"

/-- The failure of a call, if the plant refuses it. -/
def refusal? (plant : Simulated) (operation : Operation) : Option Failure :=
  if plant.fails operation.label then some (operation.failure .unavailable "injected failure")
  else (plant.objection? operation).map (operation.failure .rejected)

/-- A device is read unless it is not there. -/
lemma fst_read_cases (plant : Simulated) (operation : Operation) (entity : Entity)
    (f : Device → operation.Reply)
    (h : plant.objection? operation =
      if (plant.device? entity).isSome then none else some "no such entity") :
    (∃ reason, plant.objection? operation = some reason ∧ (plant.read operation entity f).1 =
      plant.guarded operation (.error (operation.failure .rejected reason))) ∨
    ∃ reply, plant.objection? operation = none ∧
      (plant.read operation entity f).1 = plant.guarded operation (.ok reply) := by
  cases hdevice : plant.device? entity with
  | none => exact .inl ⟨"no such entity", by simp [h, hdevice], by simp only [read, hdevice]⟩
  | some device => exact .inr ⟨f device, by simp [h, hdevice], by simp only [read, hdevice]⟩

/-- A call is answered unless something speaks against it. -/
lemma fst_answer_cases (plant : Simulated) (operation : Operation) :
    (∃ reason, plant.objection? operation = some reason ∧ (plant.answer operation).1 =
      plant.guarded operation (.error (operation.failure .rejected reason))) ∨
    ∃ reply, plant.objection? operation = none ∧
      (plant.answer operation).1 = plant.guarded operation (.ok reply) := by
  cases operation with
  | name e => exact fst_read_cases plant (.name e) e (·.name) rfl
  | standingMode e => exact fst_read_cases plant (.standingMode e) e (·.standingMode) rfl
  | currentMode e => exact fst_read_cases plant (.currentMode e) e (·.currentMode) rfl
  | overrideActive e =>
    exact fst_read_cases plant (.overrideActive e) e (·.overrideMode.isSome) rfl
  | offset e => exact fst_read_cases plant (.offset e) e (·.offset) rfl
  | setpoints e => exact fst_read_cases plant (.setpoints e) e (·.setpoints) rfl
  | hasAmbientSensor e =>
    exact fst_read_cases plant (.hasAmbientSensor e) e (·.hasAmbientSensor) rfl
  | clearOverride e | setOffset e =>
    cases hdevice : plant.device? e <;> simp [objection?, answer, write, commit_fst, hdevice]
  | setOverride e mode =>
    cases hdevice : plant.device? e with
    | none => simp [objection?, answer, write, commit_fst, hdevice]
    | some device =>
      cases hmode : runModeRefusal mode <;>
        simp [objection?, answer, write, commit_fst, hdevice, hmode]
  | systemMode => exact .inr ⟨plant.primary, rfl, rfl⟩
  | suppressFlag => exact .inr ⟨plant.suppress, rfl, rfl⟩
  | setSuppressFlag => simp [objection?, answer, commit_fst]
  | setSystemMode primary =>
    cases hmode : systemModeRefusal primary <;> simp [objection?, answer, commit_fst, hmode]
  | temperature sensor =>
    cases hreading : plant.temperature? sensor with
    | none =>
      exact .inl ⟨"no such sensor",
        by simp [objection?, hreading], by simp only [answer, hreading]⟩
    | some value =>
      exact .inr ⟨value, by simp [objection?, hreading], by simp only [answer, hreading]⟩

/-- What comes of a call is known beforehand. -/
lemma refusal?_cases (plant : Simulated) (operation : Operation) :
    (∃ failure, plant.refusal? operation = some failure ∧ plant.Refuses operation failure) ∨
      ∃ reply, plant.refusal? operation = none ∧ (plant.answer operation).1 = .ok reply := by
  cases hfails : plant.fails operation.label with
  | true =>
    refine .inl ⟨operation.failure .unavailable "injected failure", ?_, ?_⟩
    · rw [refusal?, if_pos hfails]
    · rcases fst_answer_cases plant operation with ⟨_, -, hanswer⟩ | ⟨_, -, hanswer⟩ <;>
        rw [Refuses, hanswer, guarded, if_pos hfails]
  | false =>
    have hworks : ¬plant.fails operation.label = true := by simp [hfails]
    rw [refusal?, if_neg hworks]
    rcases fst_answer_cases plant operation with ⟨reason, hreason, hanswer⟩ |
      ⟨reply, hnone, hanswer⟩
    · rw [guarded, if_neg hworks] at hanswer
      exact .inl ⟨operation.failure .rejected reason, by rw [hreason]; rfl, hanswer⟩
    · rw [guarded, if_neg hworks] at hanswer
      exact .inr ⟨reply, by rw [hnone]; rfl, hanswer⟩

lemma refuses_iff :
    plant.Refuses operation failure ↔ plant.refusal? operation = some failure := by
  rcases refusal?_cases plant operation with ⟨found, hfound, hrefuses⟩ | ⟨reply, hnone, hanswer⟩
  · rw [hfound, Refuses, hrefuses, Except.error.injEq, Option.some.injEq]
  · simp [Refuses, hnone, hanswer]

/-- A failure names the call that failed. -/
lemma Refuses.named (h : plant.Refuses operation failure) :
    failure.operation = operation.label ∧ failure.target = operation.target := by
  rw [refuses_iff, refusal?] at h
  split at h
  · cases h
    exact ⟨rfl, rfl⟩
  · obtain ⟨reason, -, rfl⟩ := Option.map_eq_some_iff.mp h
    exact ⟨rfl, rfl⟩

lemma isOk_answer_iff :
    (plant.answer operation).1.isOk = true ↔ plant.refusal? operation = none := by
  rcases refusal?_cases plant operation with ⟨found, hfound, hrefuses⟩ | ⟨reply, hnone, hanswer⟩
  · rw [Refuses] at hrefuses
    simp [hfound, hrefuses, Except.isOk, Except.toBool]
  · simp [hnone, hanswer, Except.isOk, Except.toBool]

/-- What can change in a run makes no difference to a refusal. -/
lemma SameOutside.refusal?_eq {parts : List Part} (h : SameOutside parts before last) :
    last.refusal? = before.refusal? := by
  have hdevice (entity : Entity) :
      (last.device? entity).isSome = (before.device? entity).isSome := by
    simpa using congrArg Option.isSome (h.fixed entity)
  funext operation
  unfold refusal?
  rw [h.fails]
  congr 2
  cases operation <;> simp only [objection?, hdevice, h.temperature]

/-- A plant refuses after a run what it refuses before. -/
lemma refusal?_run {α : Type} (program : Program α) (plant : Simulated) :
    (run program plant).2.refusal? = plant.refusal? := by
  rw [run_eq_foldl_written]
  exact (SameOutside.foldl_written_flatMap _ plant).refusal?_eq

end Simulated

/-! ### Lists of calls -/

/-- The first refused call of a list: the calls before it, the call itself, and its failure. -/
structure Refusal where
  before : List Operation
  call : Operation
  failure : Failure

/-- A refusal that further calls came before. -/
def Refusal.behind (calls : List Operation) (refusal : Refusal) : Refusal :=
  { refusal with before := calls ++ refusal.before }

namespace Refusal

@[simp]
lemma behind_comp_behind (calls later : List Operation) :
    behind calls ∘ behind later = behind (calls ++ later) := by
  funext refusal
  simp [behind]

end Refusal

namespace Simulated

variable {plant other : Simulated} {calls : List Operation} {refusal : Refusal}

/-- The first call of a list that a plant refuses. -/
def firstRefusal? (plant : Simulated) : List Operation → Option Refusal
  | [] => none
  | call :: rest =>
    match plant.refusal? call with
    | some failure => some ⟨[], call, failure⟩
    | none => (plant.firstRefusal? rest).map (.behind [call])

lemma firstRefusal?_cons_of_some {call : Operation} {failure : Failure}
    (h : plant.refusal? call = some failure) (rest : List Operation) :
    plant.firstRefusal? (call :: rest) = some ⟨[], call, failure⟩ := by
  rw [firstRefusal?, h]

lemma firstRefusal?_cons_of_none {call : Operation} (h : plant.refusal? call = none)
    (rest : List Operation) :
    plant.firstRefusal? (call :: rest) = (plant.firstRefusal? rest).map (.behind [call]) := by
  rw [firstRefusal?, h]

lemma firstRefusal?_append (plant : Simulated) (calls later : List Operation) :
    plant.firstRefusal? (calls ++ later) =
      (plant.firstRefusal? calls).or ((plant.firstRefusal? later).map (.behind calls)) := by
  induction calls with
  | nil =>
    -- No call comes before, so the refusal stays as it is.
    exact Option.map_id_apply.symm
  | cons call rest ih =>
    cases hcall : plant.refusal? call with
    | some failure => simp [firstRefusal?_cons_of_some hcall]
    | none =>
      simp only [List.cons_append, firstRefusal?_cons_of_none hcall, ih]
      cases plant.firstRefusal? rest <;> simp

/-- What is refused first depends on the refusals alone. -/
lemma firstRefusal?_congr (h : other.refusal? = plant.refusal?) :
    other.firstRefusal? = plant.firstRefusal? := by
  funext calls
  induction calls with
  | nil => rfl
  | cons call rest ih => simp only [firstRefusal?, h, ih]

lemma firstRefusal?_eq_none_iff :
    plant.firstRefusal? calls = none ↔ ∀ call ∈ calls, plant.refusal? call = none := by
  induction calls with
  | nil => simp [firstRefusal?]
  | cons call rest ih =>
    cases hcall : plant.refusal? call with
    | some failure => simp [firstRefusal?_cons_of_some hcall, hcall]
    | none => simp [firstRefusal?_cons_of_none hcall, hcall, ih]

/-- The first refused call splits the list: what stands before it is not refused. -/
lemma firstRefusal?_eq_some_iff :
    plant.firstRefusal? calls = some refusal ↔
      (∃ after, calls = refusal.before ++ refusal.call :: after) ∧
        (∀ earlier ∈ refusal.before, plant.refusal? earlier = none) ∧
        plant.refusal? refusal.call = some refusal.failure := by
  constructor
  · intro h
    induction calls generalizing refusal with
    | nil => cases h
    | cons call rest ih =>
      cases hcall : plant.refusal? call with
      | some failure =>
        rw [firstRefusal?_cons_of_some hcall] at h
        cases h
        exact ⟨⟨rest, rfl⟩, by simp, hcall⟩
      | none =>
        rw [firstRefusal?_cons_of_none hcall] at h
        obtain ⟨found, hfound, rfl⟩ := Option.map_eq_some_iff.mp h
        obtain ⟨⟨after, rfl⟩, hbefore, hrefused⟩ := ih hfound
        exact ⟨⟨after, rfl⟩, List.forall_mem_cons.mpr ⟨hcall, hbefore⟩, hrefused⟩
  · rintro ⟨⟨after, rfl⟩, hbefore, hrefused⟩
    rw [firstRefusal?_append, firstRefusal?_eq_none_iff.mpr hbefore,
      firstRefusal?_cons_of_some hrefused]
    simp [Refusal.behind]

end Simulated

/-! ### Tasks that make the calls of a list -/

namespace Task

variable {α β δ ε : Type} {plant : Simulated} {calls later : List Operation} {good : α → Prop}
  {error : Refusal → ε}

/-- A task that makes the calls of a list and stops at the first refused one. -/
def Makes (task : Task ε α) (plant : Simulated) (calls : List Operation) (good : α → Prop)
    (error : Refusal → ε) : Prop :=
  match plant.firstRefusal? calls with
  | none => ∃ value, good value ∧ (Simulated.run task.run plant).1 = .ok value
  | some refusal => (Simulated.run task.run plant).1 = .error (error refusal)

namespace Makes

variable {task : Task ε α} {f : α → Task ε β}

lemma exists_ok (h : Makes task plant calls good error)
    (hnone : plant.firstRefusal? calls = none) :
    ∃ value, good value ∧ (Simulated.run task.run plant).1 = .ok value := by
  rwa [Makes, hnone] at h

lemma eq_error (h : Makes task plant calls good error) {refusal : Refusal}
    (hsome : plant.firstRefusal? calls = some refusal) :
    (Simulated.run task.run plant).1 = .error (error refusal) := by
  rwa [Makes, hsome] at h

lemma mono {better : α → Prop} {other : Refusal → ε} (h : Makes task plant calls good error)
    (hgood : ∀ value, good value → better value)
    (herror : ∀ refusal after, calls = refusal.before ++ refusal.call :: after →
      error refusal = other refusal) : Makes task plant calls better other := by
  unfold Makes
  cases hfirst : plant.firstRefusal? calls with
  | none =>
    obtain ⟨value, hvalue, hrun⟩ := h.exists_ok hfirst
    exact ⟨value, hgood value hvalue, hrun⟩
  | some refusal =>
    obtain ⟨⟨after, hcalls⟩, -⟩ := Simulated.firstRefusal?_eq_some_iff.mp hfirst
    dsimp only
    rw [h.eq_error hfirst, herror refusal after hcalls]

/-- The calls of two parts come one after the other; the second part meets a plant
that refuses the same. -/
lemma bind {good : β → Prop} {middle : α → Prop} (h : Makes task plant calls middle error)
    (hrest : ∀ value after, middle value → after.refusal? = plant.refusal? →
      Makes (f value) after later good fun refusal => error (refusal.behind calls)) :
    Makes (task >>= f) plant (calls ++ later) good error := by
  have hrun : Simulated.run (task >>= f).run plant = _ := Simulated.run_bind task.run _ plant
  rw [Makes, Simulated.firstRefusal?_append]
  cases hfirst : plant.firstRefusal? calls with
  | some refusal =>
    rw [hrun, h.eq_error hfirst]
    rfl
  | none =>
    obtain ⟨value, hvalue, hok⟩ := h.exists_ok hfirst
    have hsame := Simulated.refusal?_run task.run plant
    have hnext := hrest value _ hvalue hsame
    rw [Makes, Simulated.firstRefusal?_congr hsame] at hnext
    rw [hrun, hok, Option.none_or]
    cases hlater : plant.firstRefusal? later with
    | none =>
      rw [hlater] at hnext
      exact hnext
    | some refusal =>
      rw [hlater] at hnext
      exact hnext

end Makes

lemma makes_pure {value : α} (h : good value) (plant : Simulated) :
    Makes (pure value : Task ε α) plant [] good error :=
  ⟨value, h, rfl⟩

lemma Makes.map {task : Task ε α} {g : α → β} {better : β → Prop}
    (h : Makes task plant calls good error) (hgood : ∀ value, good value → better (g value)) :
    Makes (task >>= fun value => pure (g value)) plant calls better error := by
  have hbind : Makes (task >>= fun value => pure (g value)) plant (calls ++ []) better error :=
    h.bind fun value after hvalue _ => makes_pure (hgood value hvalue) after
  rwa [List.append_nil] at hbind

lemma makes_ofExcept_bind {known : Except ε α} {value : α} {f : α → Task ε β} {good : β → Prop}
    (h : known = .ok value) (hrest : Makes (f value) plant calls good error) :
    Makes (ofExcept known >>= f) plant calls good error := by
  rw [h]
  exact hrest

lemma fst_run_lift (program : Program α) (plant : Simulated) :
    (Simulated.run (ExceptT.lift program : Task ε α).run plant).1 =
      .ok (Simulated.run program plant).1 :=
  congrArg Prod.fst (Simulated.run_bind program _ plant)

/-- A program that ends whatever it is answered makes no call that matters. -/
lemma makes_lift {program : Program α} (h : good (Simulated.run program plant).1) :
    Makes (ExceptT.lift program : Task ε α) plant [] good error :=
  ⟨_, h, fst_run_lift program plant⟩

lemma makes_ofPlant {cause : Task Failure α} {early : Refusal → Failure} {wrap : Failure → ε}
    (h : Makes cause plant calls good early) :
    Makes (ofPlant wrap cause) plant calls good fun refusal => wrap (early refusal) := by
  have hrun : Simulated.run (ofPlant wrap cause).run plant = _ :=
    Simulated.run_bind cause.run _ plant
  rw [Makes, hrun]
  cases hfirst : plant.firstRefusal? calls with
  | none =>
    obtain ⟨value, hvalue, hok⟩ := h.exists_ok hfirst
    rw [hok]
    exact ⟨value, hvalue, rfl⟩
  | some refusal =>
    rw [h.eq_error hfirst]
    rfl

/-- A task for every item of a list that makes one call for each. -/
lemma makes_mapM {f : δ → Task Failure α} {call : δ → Operation}
    (h : ∀ item plant, Makes (f item) plant [call item] (fun _ => True) (·.failure))
    (items : List δ) (plant : Simulated) :
    Makes (items.mapM f) plant (items.map call) (fun _ => True) (·.failure) := by
  induction items generalizing plant with
  | nil => exact makes_pure trivial plant
  | cons item rest ih =>
    rw [List.mapM_cons, List.map_cons]
    refine (h item plant).bind fun value after _ _ => ?_
    exact (ih after).map fun _ _ => trivial

end Task

lemma Operation.makes_send (operation : Operation) (plant : Simulated) :
    Task.Makes operation.send plant [operation]
      (fun reply => (plant.answer operation).1 = .ok reply) (·.failure) := by
  rcases plant.refusal?_cases operation with ⟨failure, hfailure, hrefuses⟩ |
    ⟨reply, hnone, hanswer⟩
  · rw [Task.Makes, Simulated.firstRefusal?_cons_of_some hfailure]
    exact hrefuses
  · rw [Task.Makes, Simulated.firstRefusal?_cons_of_none hnone]
    exact ⟨reply, hanswer, hanswer⟩

/-- A single call with the error that its refusal alone decides. -/
lemma Operation.makes_ofPlant_send {ε : Type} {wrap : Failure → ε} {error : Refusal → ε}
    (operation : Operation) (h : ∀ failure, wrap failure = error ⟨[], operation, failure⟩)
    (plant : Simulated) :
    Task.Makes (operation.send.ofPlant wrap) plant [operation]
      (fun reply => (plant.answer operation).1 = .ok reply) error := by
  apply (Task.makes_ofPlant (operation.makes_send plant)).mono (fun _ hgood => hgood)
  rintro ⟨before, call, failure⟩ after hcalls
  obtain ⟨rfl, hcall⟩ | ⟨-, hnil⟩ := List.append_eq_singleton_iff.mp hcalls.symm
  · cases hcall
    exact h failure
  · cases hnil

end HeatingPortal.Plant
