import HeatingPortal.Plant.Simulated
import Mathlib.Tactic.Common

/-!
# Runs on the simulated plant

A run ends with a value and a plant. On its way it carries out writes, and each of them is kept
with the plant that it met, so that a statement can speak of the state at that moment.

Programs are judged by triples. `Program.Ends` speaks of the run from one plant, with a
postcondition on the value, the plant and the writes; `Program.Reads` says of a program that it
writes nothing whatever it is answered.
-/

namespace HeatingPortal.Plant

variable {α β ε δ : Type}

/-! ### The writes of a run -/

/-- A write that a plant carried out, with the plant as it was just before. -/
structure Performed where
  plant : Simulated
  operation : Operation

namespace Simulated

/-- The plant answers a call and ends up in another state. -/
def Accepts (plant : Simulated) (operation : Operation) (after : Simulated) : Prop :=
  ∃ reply, plant.answer operation = (.ok reply, after)

/-- The plant fails to answer a call. -/
def Refuses (plant : Simulated) (operation : Operation) (failure : Failure) : Prop :=
  (plant.answer operation).1 = .error failure

/-- The writes that a call carries out: at most the one that it asks for. -/
def performedBy (plant : Simulated) (operation : Operation) : List Performed :=
  if operation.isWrite && (plant.answer operation).1.isOk then [⟨plant, operation⟩] else []

/-- The writes that a run carries out, in order. -/
def performed : Program α → Simulated → List Performed
  | .done _, _ => []
  | .call operation next, plant =>
    plant.performedBy operation ++
      performed (next (plant.answer operation).1) (plant.answer operation).2

lemma performed_bind (program : Program α) (f : α → Program β) (plant : Simulated) :
    performed (program.bind f) plant =
      performed program plant ++ performed (f (run program plant).1) (run program plant).2 := by
  induction program generalizing plant with
  | done value => rfl
  | call operation next ih =>
    simp only [Program.bind, performed, ih, List.append_assoc]
    rfl

lemma performedBy_of_read (plant : Simulated) {operation : Operation}
    (h : operation.isWrite = false) : plant.performedBy operation = [] := by
  simp [performedBy, h]

lemma performedBy_of_refuses {plant : Simulated} {operation : Operation} {failure : Failure}
    (h : plant.Refuses operation failure) : plant.performedBy operation = [] := by
  rw [Refuses] at h
  simp [performedBy, h, Except.isOk, Except.toBool]

lemma performedBy_of_accepts {plant after : Simulated} {operation : Operation}
    (hwrite : operation.isWrite = true) (h : plant.Accepts operation after) :
    plant.performedBy operation = [⟨plant, operation⟩] := by
  obtain ⟨reply, h⟩ := h
  simp [performedBy, hwrite, h, Except.isOk, Except.toBool]

/-! ### Single calls -/

lemma commit_cases (plant changed : Simulated) (operation : Operation)
    (answer : Answer operation) :
    (∃ reply, plant.commit operation answer changed = (.ok reply, changed.record operation)) ∨
      ∃ failure, plant.commit operation answer changed = (.error failure, plant) := by
  unfold commit
  cases plant.guarded operation answer with
  | ok reply => exact .inl ⟨reply, rfl⟩
  | error failure => exact .inr ⟨failure, rfl⟩

lemma write_eq_commit (plant : Simulated) (operation : Operation) (reply : operation.Reply)
    (entity : Entity) (refusal : Option String) (change : Device → Device) :
    ∃ answer changed, changed.calls = plant.calls ∧
      plant.write operation reply entity refusal change =
        plant.commit operation answer changed := by
  unfold write
  cases plant.device? entity with
  | none => exact ⟨_, plant, rfl, rfl⟩
  | some device =>
    cases refusal with
    | none => exact ⟨_, plant.setDevice entity (change device), rfl, rfl⟩
    | some reason => exact ⟨_, plant, rfl, rfl⟩

/-- A write is committed: it changes the plant and is recorded, or it does neither. -/
lemma answer_eq_commit (plant : Simulated) {operation : Operation}
    (hwrite : operation.isWrite = true) :
    ∃ answer changed, changed.calls = plant.calls ∧
      plant.answer operation = plant.commit operation answer changed := by
  cases operation with
  | setOverride entity mode => exact write_eq_commit plant _ _ entity _ _
  | clearOverride entity => exact write_eq_commit plant (.clearOverride entity) () entity none _
  | setOffset entity value =>
    exact write_eq_commit plant (.setOffset entity value) () entity none _
  | setSystemMode primary =>
    simp only [answer]
    split
    · exact ⟨_, plant, rfl, rfl⟩
    · exact ⟨_, { plant with primary }, rfl, rfl⟩
  | setSuppressFlag suppress => exact ⟨_, { plant with suppress }, rfl, rfl⟩
  | _ => cases hwrite

lemma answer_write_cases (plant : Simulated) {operation : Operation}
    (hwrite : operation.isWrite = true) :
    (∃ reply, ∃ changed : Simulated, changed.calls = plant.calls ∧
      plant.answer operation = (.ok reply, changed.record operation)) ∨
      ∃ failure, plant.answer operation = (.error failure, plant) := by
  obtain ⟨answer, changed, hcalls, heq⟩ := answer_eq_commit plant hwrite
  rw [heq]
  rcases commit_cases plant changed operation answer with ⟨reply, h⟩ | h
  · exact .inl ⟨reply, changed, hcalls, h⟩
  · exact .inr h

/-- A call that fails leaves the plant as it is. -/
lemma answer_snd_of_refuses {plant : Simulated} {operation : Operation} {failure : Failure}
    (h : plant.Refuses operation failure) : (plant.answer operation).2 = plant := by
  cases hwrite : operation.isWrite with
  | false => exact answer_snd_of_read plant hwrite
  | true =>
    rcases answer_write_cases plant hwrite with ⟨reply, changed, -, heq⟩ | ⟨_, heq⟩
    · rw [Refuses, heq] at h
      cases h
    · rw [heq]

/-- A write is recorded exactly when it is carried out, and nothing else is recorded. -/
lemma calls_answer (plant : Simulated) (operation : Operation) :
    (plant.answer operation).2.calls =
      plant.calls ++ (plant.performedBy operation).map (·.operation) := by
  cases hwrite : operation.isWrite with
  | false => rw [answer_snd_of_read plant hwrite, performedBy_of_read plant hwrite]; simp
  | true =>
    rcases answer_write_cases plant hwrite with ⟨reply, changed, hcalls, heq⟩ | ⟨failure, heq⟩
    · rw [performedBy_of_accepts hwrite ⟨reply, heq⟩, heq]
      simp [record, hcalls]
    · rw [performedBy_of_refuses (congrArg Prod.fst heq), heq]
      simp

/-- The calls recorded in a run are the writes that it carries out. -/
theorem calls_run (program : Program α) (plant : Simulated) :
    (run program plant).2.calls =
      plant.calls ++ (performed program plant).map (·.operation) := by
  induction program generalizing plant with
  | done value => simp [run, performed]
  | call operation next ih =>
    calc (run (.call operation next) plant).2.calls
        = (run (next (plant.answer operation).1) (plant.answer operation).2).2.calls := rfl
      _ = _ := by
        rw [ih, calls_answer]; simp only [performed, List.map_append, List.append_assoc]

/-- What is kept by every write that is carried out is kept by the run. -/
theorem run_induction {invariant : Simulated → Prop} {allowed : Simulated → Operation → Prop}
    (hkept : ∀ {plant operation after}, allowed plant operation → plant.Accepts operation after →
      invariant plant → invariant after)
    {program : Program α} {plant : Simulated}
    (hallowed : ∀ write ∈ performed program plant, allowed write.plant write.operation)
    (h : invariant plant) : invariant (run program plant).2 := by
  induction program generalizing plant with
  | done value => exact h
  | call operation next ih =>
    simp only [performed, List.mem_append] at hallowed
    refine ih _ (fun write hmem => hallowed write (.inr hmem)) ?_
    -- Only a write that is accepted changes the plant, and it heads the list of writes.
    cases hwrite : operation.isWrite with
    | false => rwa [answer_snd_of_read plant hwrite]
    | true =>
      rcases answer_write_cases plant hwrite with ⟨reply, changed, -, heq⟩ | ⟨failure, heq⟩
      · have haccepts : plant.Accepts operation (plant.answer operation).2 :=
          ⟨reply, by rw [heq]⟩
        refine hkept (hallowed ⟨plant, operation⟩ (.inl ?_)) haccepts h
        simp [performedBy_of_accepts hwrite haccepts]
      · rwa [heq]

/-- A program of one call carries out at most that call. -/
lemma mem_performed_send {plant : Simulated} {direct operation : Operation}
    (h : operation ∈ (performed direct.send.run plant).map (·.operation)) :
    operation = direct := by
  have hperformed : performed direct.send.run plant = plant.performedBy direct ++ [] := rfl
  rw [hperformed, List.append_nil, performedBy] at h
  split at h
  · simpa using h
  · cases h

end Simulated

/-! ### Triples -/

/-- What a run of a program from a plant leaves meets a postcondition. -/
def Program.Ends (program : Program α) (plant : Simulated)
    (post : α → Simulated → List Performed → Prop) : Prop :=
  post (Simulated.run program plant).1 (Simulated.run program plant).2
    (Simulated.performed program plant)

/-- Whatever it is answered, a program only reads and ends with a value that meets a
postcondition. -/
def Program.Reads (post : α → Prop) : Program α → Prop
  | done value => post value
  | call operation next => operation.isWrite = false ∧ ∀ answer, (next answer).Reads post

namespace Program

variable {program : Program α} {f : α → Program β} {plant : Simulated}

lemma Ends.mono {post weaker : α → Simulated → List Performed → Prop}
    (h : program.Ends plant post)
    (himp : ∀ value after writes, post value after writes → weaker value after writes) :
    program.Ends plant weaker :=
  himp _ _ _ h

lemma Ends.bind {middle : α → Simulated → List Performed → Prop}
    {post : β → Simulated → List Performed → Prop} (h : program.Ends plant middle)
    (hrest : ∀ value after writes, middle value after writes →
      (f value).Ends after fun result last later => post result last (writes ++ later)) :
    (program.bind f).Ends plant post := by
  have hnext := hrest _ _ _ h
  rw [Ends, Simulated.run_bind, Simulated.performed_bind]
  exact hnext

lemma Ends.map {g : α → β} {post : β → Simulated → List Performed → Prop}
    (h : program.Ends plant fun value => post (g value)) :
    (program.bind fun value => .done (g value)).Ends plant post := by
  apply h.bind
  intro value after writes hpost
  show post (g value) after (writes ++ [])
  rwa [List.append_nil]

lemma Reads.mono {post weaker : α → Prop} (h : program.Reads post)
    (himp : ∀ value, post value → weaker value) : program.Reads weaker := by
  induction program with
  | done value => exact himp value h
  | call operation next ih => exact ⟨h.1, fun answer => ih answer (h.2 answer)⟩

lemma Reads.bind {middle : α → Prop} {post : β → Prop} (h : program.Reads middle)
    (hrest : ∀ value, middle value → (f value).Reads post) : (program.bind f).Reads post := by
  induction program with
  | done value => exact hrest value h
  | call operation next ih => exact ⟨h.1, fun answer => ih answer (h.2 answer)⟩

/-- A program that only reads leaves the plant as it is. -/
lemma Reads.ends {post : α → Prop} (h : program.Reads post) (plant : Simulated) :
    program.Ends plant fun value after writes => post value ∧ after = plant ∧ writes = [] := by
  induction program generalizing plant with
  | done value => exact ⟨h, rfl, rfl⟩
  | call operation next ih =>
    have hsame := Simulated.answer_snd_of_read plant h.1
    have hnext := ih (plant.answer operation).1 (h.2 _) (plant.answer operation).2
    rw [hsame] at hnext
    obtain ⟨hpost, hplant, hwrites⟩ := hnext
    refine ⟨?_, ?_, ?_⟩
    · simpa only [Simulated.run, Program.run, hsame] using hpost
    · simpa only [Simulated.run, Program.run, hsame] using hplant
    · simpa only [Simulated.performed, Simulated.performedBy_of_read plant h.1, hsame,
        List.nil_append] using hwrites

end Program

/-! ### Tasks -/

namespace Task

/-- What a run of a task from a plant leaves meets the postcondition of
its value or its error. -/
def Ends (task : Task ε α) (plant : Simulated) (good : α → Simulated → List Performed → Prop)
    (bad : ε → Simulated → List Performed → Prop) : Prop :=
  Program.Ends task.run plant fun
    | .ok value => good value
    | .error error => bad error

/-- Whatever it is answered, a task only reads, and its value or its error meets a
postcondition. -/
def Reads (task : Task ε α) (good : α → Prop) (bad : ε → Prop) : Prop :=
  Program.Reads (fun
    | .ok value => good value
    | .error error => bad error) task.run

variable {task : Task ε α} {f : α → Task ε β} {plant : Simulated}

lemma Ends.mono {good better : α → Simulated → List Performed → Prop}
    {bad worse : ε → Simulated → List Performed → Prop} (h : Ends task plant good bad)
    (hgood : ∀ value after writes, good value after writes → better value after writes)
    (hbad : ∀ error after writes, bad error after writes → worse error after writes) :
    Ends task plant better worse := by
  apply Program.Ends.mono h
  rintro (error | value) after writes hpost
  · exact hbad error after writes hpost
  · exact hgood value after writes hpost

lemma Ends.bind {middle : α → Simulated → List Performed → Prop}
    {good : β → Simulated → List Performed → Prop}
    {early bad : ε → Simulated → List Performed → Prop} (h : Ends task plant middle early)
    (hearly : ∀ error after writes, early error after writes → bad error after writes)
    (hrest : ∀ value after writes, middle value after writes →
      Ends (f value) after (fun result last later => good result last (writes ++ later))
        fun error last later => bad error last (writes ++ later)) :
    Ends (task >>= f) plant good bad := by
  apply Program.Ends.bind h
  rintro (error | value) after writes hmiddle
  · have hbad := hearly error after writes hmiddle
    rw [← List.append_nil writes] at hbad
    exact hbad
  · apply Program.Ends.mono (hrest value after writes hmiddle)
    rintro (error | result) last later hpost <;> exact hpost

lemma Reads.mono {good better : α → Prop} {bad worse : ε → Prop} (h : Reads task good bad)
    (hgood : ∀ value, good value → better value) (hbad : ∀ error, bad error → worse error) :
    Reads task better worse := by
  apply Program.Reads.mono h
  rintro (error | value) hpost
  · exact hbad error hpost
  · exact hgood value hpost

lemma Reads.bind {middle : α → Prop} {good : β → Prop} {early bad : ε → Prop}
    (h : Reads task middle early) (hearly : ∀ error, early error → bad error)
    (hrest : ∀ value, middle value → Reads (f value) good bad) :
    Reads (task >>= f) good bad := by
  apply Program.Reads.bind h
  rintro (error | value) hmiddle
  · exact hearly error hmiddle
  · exact hrest value hmiddle

lemma Reads.ends {good : α → Prop} {bad : ε → Prop} (h : Reads task good bad)
    (plant : Simulated) :
    Ends task plant (fun value after writes => good value ∧ after = plant ∧ writes = [])
      fun error after writes => bad error ∧ after = plant ∧ writes = [] := by
  apply (Program.Reads.ends h plant).mono
  rintro (error | value) after writes hpost <;> exact hpost

lemma reads_pure {good : α → Prop} {bad : ε → Prop} {value : α} (h : good value) :
    Reads (pure value : Task ε α) good bad :=
  h

lemma ends_pure {good : α → Simulated → List Performed → Prop}
    {bad : ε → Simulated → List Performed → Prop} {value : α} (h : good value plant []) :
    Ends (pure value : Task ε α) plant good bad :=
  h

lemma reads_ofExcept (result : Except ε α) :
    Reads (ofExcept result) (fun value => result = .ok value) fun error =>
      result = .error error := by
  cases result with
  | ok value => exact rfl
  | error error => exact rfl

lemma reads_lift {program : Program α} {good : α → Prop} {bad : ε → Prop}
    (h : program.Reads good) : Reads (ExceptT.lift program) good bad := by
  apply Program.Reads.bind h
  intro value hgood
  exact hgood

lemma reads_ofPlant {cause : Task Failure α} {error : Failure → ε} {good : α → Prop}
    {early : Failure → Prop} {bad : ε → Prop} (h : Reads cause good early)
    (hearly : ∀ failure, early failure → bad (error failure)) :
    Reads (ofPlant error cause) good bad := by
  apply Program.Reads.bind h
  rintro (failure | value) hpost
  · exact hearly failure hpost
  · exact hpost

lemma ends_ofPlant {cause : Task Failure α} {error : Failure → ε}
    {good : α → Simulated → List Performed → Prop}
    {early : Failure → Simulated → List Performed → Prop} (h : Ends cause plant good early) :
    Ends (ofPlant error cause) plant good fun result after writes =>
      ∃ failure, result = error failure ∧ early failure after writes := by
  apply Program.Ends.bind h
  rintro (failure | value) after writes hpost <;> rw [← List.append_nil writes] at hpost
  · exact ⟨failure, rfl, hpost⟩
  · exact hpost

lemma reads_mapM {f : δ → Task ε α} {good : α → Prop} {bad : ε → Prop}
    (h : ∀ item, Reads (f item) good bad) (items : List δ) :
    Reads (items.mapM f) (fun values => ∀ value ∈ values, good value) bad := by
  induction items with
  | nil => exact reads_pure (by simp)
  | cons item rest ih =>
    rw [List.mapM_cons]
    refine (h item).bind (fun _ hbad => hbad) fun value hvalue => ?_
    refine ih.bind (fun _ hbad => hbad) fun values hvalues => ?_
    exact reads_pure (by simpa using ⟨hvalue, hvalues⟩)

end Task

/-! ### The task of a single call -/

namespace Operation

lemma reads_send (operation : Operation) (hread : operation.isWrite = false) :
    Task.Reads operation.send (fun _ => True) fun _ => True :=
  ⟨hread, fun answer => by cases answer <;> trivial⟩

/-- A call that reads ends with the answer of the plant. -/
lemma ends_send_read (operation : Operation) (hread : operation.isWrite = false)
    (plant : Simulated) :
    Task.Ends operation.send plant
      (fun reply after writes =>
        (plant.answer operation).1 = .ok reply ∧ after = plant ∧ writes = [])
      fun failure after writes => plant.Refuses operation failure ∧ after = plant ∧
        writes = [] := by
  have hsame := Simulated.answer_snd_of_read plant hread
  have hnone := Simulated.performedBy_of_read plant hread
  show Program.Ends (.call operation .done) plant _
  simp only [Program.Ends, Simulated.run, Program.run, Simulated.performed, hsame, hnone]
  cases hanswer : (plant.answer operation).1 with
  | ok reply => exact ⟨rfl, rfl, rfl⟩
  | error failure => exact ⟨hanswer, rfl, rfl⟩

/-- A call that writes is carried out, or it fails and leaves the plant as it is. -/
lemma ends_send_write (operation : Operation) (hwrite : operation.isWrite = true)
    (plant : Simulated) :
    Task.Ends operation.send plant
      (fun _ after writes => plant.Accepts operation after ∧ writes = [⟨plant, operation⟩])
      fun failure after writes => plant.Refuses operation failure ∧ after = plant ∧
        writes = [] := by
  show Program.Ends (.call operation .done) plant _
  simp only [Program.Ends, Simulated.run, Program.run, Simulated.performed, List.append_nil]
  cases hanswer : (plant.answer operation).1 with
  | ok reply =>
    have haccepts : plant.Accepts operation (plant.answer operation).2 :=
      ⟨reply, Prod.ext hanswer rfl⟩
    exact ⟨haccepts, Simulated.performedBy_of_accepts hwrite haccepts⟩
  | error failure =>
    exact ⟨hanswer, Simulated.answer_snd_of_refuses hanswer,
      Simulated.performedBy_of_refuses hanswer⟩

end Operation

end HeatingPortal.Plant
