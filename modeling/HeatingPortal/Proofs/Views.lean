import HeatingPortal.Proofs.Calls
import HeatingPortal.Proofs.Writes

/-!
# Views of the targets of a plant

Every target of a plant has a state of its own: an entity its device, a sensor its reading, and
the plant as a whole its system mode and suppress flag. A call depends on the state of its
target and on the failing operations, and changes nothing but the state of its target. So a
program that keeps to some targets runs alike on all plants that agree there, and leaves the
other targets alone.
-/

namespace HeatingPortal.Plant

open Number

/-- The state of a target. -/
inductive View where
  | device (device? : Option Device)
  | runtime (primary : UInt8) (suppress : Bool)
  | reading (value? : Option Binary64)
deriving DecidableEq

namespace Simulated

variable {visible : Target → Prop} {first second plant : Simulated} {operation : Operation}
  {entity : Entity} {target : Target}

/-- The state of a target in a plant. -/
def view (plant : Simulated) : Target → View
  | .entity entity => .device (plant.device? entity)
  | .runtime => .runtime plant.primary plant.suppress
  | .sensor sensor => .reading (plant.temperature? sensor)

/-- Two plants with the same failing operations and the same state of every visible target. -/
structure AlikeOn (visible : Target → Prop) (first second : Simulated) : Prop where
  fails : first.fails = second.fails
  view : ∀ target, visible target → first.view target = second.view target

/-! ### Targets apart -/

lemma view_modify_of_ne (plant : Simulated) (change : Device → Device)
    (h : target ≠ .entity entity) :
    (plant.modify entity change).view target = plant.view target := by
  rw [modify_eq]
  cases target with
  | entity other =>
    have hne : other ≠ entity := fun heq => h (congrArg Target.entity heq)
    simp only [Simulated.view, if_neg hne]
  | runtime | sensor => rfl

/-- A write changes no state but that of its target. -/
lemma view_written_of_ne (plant : Simulated) (h : target ≠ operation.target) :
    (plant.written operation).view target = plant.view target := by
  have hrecord (after : Simulated) : (after.record operation).view target =
      after.view target := by
    cases target <;> rfl
  cases operation with
  | setOffset entity | setOverride entity | clearOverride entity =>
    rw [written, hrecord]
    exact view_modify_of_ne plant _ h
  | setSystemMode | setSuppressFlag =>
    cases target with
    | runtime => exact absurd rfl h
    | entity | sensor => rfl
  | _ => exact hrecord plant

lemma view_answer_of_ne (plant : Simulated) (h : target ≠ operation.target) :
    (plant.answer operation).2.view target = plant.view target := by
  rw [answer_snd]
  split
  · exact view_written_of_ne plant h
  · rfl

lemma fails_written (plant : Simulated) (operation : Operation) :
    (plant.written operation).fails = plant.fails := by
  cases operation <;> simp only [written, record, modify_eq]

lemma fails_answer (plant : Simulated) (operation : Operation) :
    (plant.answer operation).2.fails = plant.fails := by
  rw [answer_snd]
  split
  · exact fails_written plant operation
  · rfl

/-! ### Single calls -/

namespace AlikeOn

variable (h : AlikeOn visible first second)

include h

lemma device (hentity : visible (.entity entity)) :
    first.device? entity = second.device? entity :=
  View.device.inj (h.view (.entity entity) hentity)

lemma runtime (hruntime : visible .runtime) :
    first.primary = second.primary ∧ first.suppress = second.suppress :=
  View.runtime.inj (h.view .runtime hruntime)

lemma guarded (operation : Operation) (answer : Answer operation) :
    first.guarded operation answer = second.guarded operation answer := by
  simp only [Simulated.guarded, h.fails]

lemma write_fst (hentity : visible (.entity entity)) (operation : Operation)
    (reply : operation.Reply) (refusal : Option String) (change : Device → Device) :
    (first.write operation reply entity refusal change).1 =
      (second.write operation reply entity refusal change).1 := by
  unfold write
  rw [h.device hentity]
  cases second.device? entity with
  | none => simp only [commit_fst, h.guarded]
  | some device => cases refusal <;> simp only [commit_fst, h.guarded]

/-- A call to a visible target is answered alike. -/
lemma answer_fst (htarget : visible operation.target) :
    (first.answer operation).1 = (second.answer operation).1 := by
  cases operation with
  | name entity | standingMode entity | currentMode entity | overrideActive entity
  | offset entity | setpoints entity | hasAmbientSensor entity =>
    simp only [answer, read, h.guarded, h.device htarget]
  | setOverride entity mode => exact h.write_fst htarget (.setOverride entity mode) _ _ _
  | clearOverride entity => exact h.write_fst htarget (.clearOverride entity) () _ _
  | setOffset entity value => exact h.write_fst htarget (.setOffset entity value) () _ _
  | systemMode | suppressFlag =>
    obtain ⟨hprimary, hsuppress⟩ := h.runtime htarget
    simp only [answer, h.guarded, hprimary, hsuppress]
  | setSystemMode primary =>
    simp only [answer]
    split <;> simp only [commit_fst, h.guarded]
  | setSuppressFlag suppress => simp only [answer, commit_fst, h.guarded]
  | temperature sensor =>
    have hreading : first.temperature? sensor = second.temperature? sensor :=
      View.reading.inj (h.view (.sensor sensor) htarget)
    simp only [answer, h.guarded, hreading]

lemma view_modify (hentity : visible (.entity entity)) (change : Device → Device) :
    (first.modify entity change).view (.entity entity) =
      (second.modify entity change).view (.entity entity) := by
  simp only [modify_eq, Simulated.view, h.device hentity]

/-- A write to a visible target leaves it in the same state. -/
lemma view_written (htarget : visible operation.target) :
    (first.written operation).view operation.target =
      (second.written operation).view operation.target := by
  cases operation with
  | setOffset entity | setOverride entity | clearOverride entity => exact h.view_modify htarget _
  | setSystemMode | setSuppressFlag =>
    obtain ⟨hprimary, hsuppress⟩ := h.runtime htarget
    simp only [written, record, Operation.target, Simulated.view, hprimary, hsuppress]
  | _ => exact h.view _ htarget

/-- After a call to a visible target the plants still agree. -/
lemma answer (htarget : visible operation.target) :
    AlikeOn visible (first.answer operation).2 (second.answer operation).2 := by
  constructor
  · rw [fails_answer, fails_answer, h.fails]
  intro target hvisible
  by_cases heq : target = operation.target
  · subst heq
    -- The answers are equal and decide alike whether the write is carried out on both sides.
    rw [answer_snd, answer_snd, h.answer_fst htarget]
    split
    · exact h.view_written htarget
    · exact h.view _ htarget
  · rw [view_answer_of_ne first heq, view_answer_of_ne second heq, h.view target hvisible]

end AlikeOn

/-! ### Runs -/

lemma map_performedBy (plant : Simulated) (operation : Operation) :
    (plant.performedBy operation).map (·.operation) =
      if operation.isWrite && (plant.answer operation).1.isOk then [operation] else [] := by
  unfold performedBy
  split <;> rfl

variable {α : Type} {program : Program α} {post : α → Prop}

/-- A program of visible calls cannot tell plants apart that agree on what is visible. -/
lemma AlikeOn.run (h : AlikeOn visible first second)
    (hwithin : program.Within (fun operation => visible operation.target) post) :
    (run program first).1 = (run program second).1 ∧
      AlikeOn visible (Simulated.run program first).2 (Simulated.run program second).2 ∧
      (performed program first).map (·.operation) =
        (performed program second).map (·.operation) := by
  induction program generalizing first second with
  | done value => exact ⟨rfl, h, rfl⟩
  | call operation next ih =>
    obtain ⟨htarget, hnext⟩ := hwithin
    have hanswer := h.answer_fst htarget
    obtain ⟨hvalue, hplant, hperformed⟩ :=
      ih _ (h.answer htarget) (hnext (first.answer operation).1)
    have hrun : Simulated.run (.call operation next) second =
        Simulated.run (next (first.answer operation).1) (second.answer operation).2 := by
      rw [hanswer]
      rfl
    rw [hrun]
    refine ⟨hvalue, hplant, ?_⟩
    simp only [performed, List.map_append, map_performedBy]
    rw [hperformed, hanswer]

/-- A program leaves a target that none of its calls may be aimed at as it is. -/
lemma view_run_of_hidden {allowed : Operation → Prop} (hwithin : program.Within allowed post)
    (hhidden : ∀ operation, allowed operation → operation.target ≠ target) (plant : Simulated) :
    (run program plant).2.view target = plant.view target := by
  induction program generalizing plant with
  | done value => rfl
  | call operation next ih =>
    obtain ⟨hallowed, hnext⟩ := hwithin
    calc (run (.call operation next) plant).2.view target
        = (run (next (plant.answer operation).1) (plant.answer operation).2).2.view target := rfl
      _ = (plant.answer operation).2.view target := ih _ (hnext _) _
      _ = plant.view target :=
        view_answer_of_ne plant (hhidden operation hallowed).symm

lemma fails_run (program : Program α) (plant : Simulated) :
    (run program plant).2.fails = plant.fails := by
  induction program generalizing plant with
  | done value => rfl
  | call operation next ih =>
    calc (run (.call operation next) plant).2.fails
        = (run (next (plant.answer operation).1) (plant.answer operation).2).2.fails := rfl
      _ = (plant.answer operation).2.fails := ih _ _
      _ = plant.fails := fails_answer plant operation

end Simulated

end HeatingPortal.Plant
