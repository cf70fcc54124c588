import HeatingPortal.Plant.Program
import Mathlib.Tactic.Common

/-!
# The calls that a program may make

`Program.Within allowed post` bounds a program from both sides: whatever it is answered, it
makes allowed calls only, and it ends with a value that meets `post`. Nothing is said of a
plant, so what follows from it holds of every plant. A task has one postcondition for its value
and one for its error.
-/

namespace HeatingPortal.Plant

variable {α β ε δ : Type} {allowed : Operation → Prop}

/-! ### Programs -/

/-- Whatever it is answered, a program makes allowed calls only and ends with a value that meets
a postcondition. -/
def Program.Within (allowed : Operation → Prop) (post : α → Prop) : Program α → Prop
  | done value => post value
  | call operation next => allowed operation ∧ ∀ answer, (next answer).Within allowed post

namespace Program

variable {program : Program α} {f : α → Program β}

lemma Within.mono {post weaker : α → Prop} (h : program.Within allowed post)
    (himp : ∀ value, post value → weaker value) : program.Within allowed weaker := by
  induction program with
  | done value => exact himp value h
  | call operation next ih =>
    obtain ⟨hallowed, hnext⟩ := h
    exact ⟨hallowed, fun answer => ih answer (hnext answer)⟩

lemma Within.bind {middle : α → Prop} {post : β → Prop} (h : program.Within allowed middle)
    (hrest : ∀ value, middle value → (f value).Within allowed post) :
    (program.bind f).Within allowed post := by
  induction program with
  | done value => exact hrest value h
  | call operation next ih =>
    obtain ⟨hallowed, hnext⟩ := h
    exact ⟨hallowed, fun answer => ih answer (hnext answer)⟩

/-- A run ends with a value that meets the postcondition, whoever answers the calls. -/
lemma Within.run {σ : Type} {post : α → Prop} (h : program.Within allowed post)
    (answer : σ → (operation : Operation) → Answer operation × σ) (state : σ) :
    post (program.run answer state).1 := by
  induction program generalizing state with
  | done value => exact h
  | call operation next ih =>
    obtain ⟨-, hnext⟩ := h
    exact ih _ (hnext _) _

end Program

/-! ### Tasks -/

namespace Task

/-- Whatever it is answered, a task makes allowed calls only, and its value or its error meets a
postcondition. -/
def Within (allowed : Operation → Prop) (task : Task ε α) (good : α → Prop) (bad : ε → Prop) :
    Prop :=
  Program.Within allowed (fun
    | .ok value => good value
    | .error error => bad error) task.run

variable {task : Task ε α} {f : α → Task ε β} {good : α → Prop} {bad : ε → Prop}

lemma Within.bind {middle : α → Prop} {good : β → Prop} (h : Within allowed task middle bad)
    (hrest : ∀ value, middle value → Within allowed (f value) good bad) :
    Within allowed (task >>= f) good bad := by
  apply Program.Within.bind h
  intro result hresult
  cases result with
  | error error => exact hresult
  | ok value => exact hrest value hresult

lemma Within.mono {better : α → Prop} {worse : ε → Prop} (h : Within allowed task good bad)
    (hgood : ∀ value, good value → better value) (hbad : ∀ error, bad error → worse error) :
    Within allowed task better worse := by
  apply Program.Within.mono h
  intro result hresult
  cases result with
  | error error => exact hbad error hresult
  | ok value => exact hgood value hresult

lemma Within.weaken {worse : ε → Prop} (h : Within allowed task good bad)
    (himp : ∀ error, bad error → worse error) : Within allowed task good worse :=
  h.mono (fun _ hgood => hgood) himp

lemma within_pure {value : α} (h : good value) :
    Within allowed (pure value : Task ε α) good bad :=
  h

/-- What is known without any call is its own postcondition. -/
lemma within_ofExcept {result : Except ε α} (hbad : ∀ error, result = .error error → bad error) :
    Within allowed (ofExcept result) (fun value => result = .ok value) bad := by
  cases result with
  | error error => exact hbad error rfl
  | ok value => exact rfl

lemma within_lift {program : Program α} (h : program.Within allowed good) :
    Within allowed (ExceptT.lift program : Task ε α) good bad := by
  apply Program.Within.bind h
  intro value hgood
  exact hgood

lemma within_ofPlant {cause : Task Failure α} {error : Failure → ε}
    (h : Within allowed cause good fun _ => True) (hbad : ∀ failure, bad (error failure)) :
    Within allowed (ofPlant error cause) good bad := by
  apply Program.Within.bind h
  intro result hresult
  cases result with
  | error failure => exact hbad failure
  | ok value => exact hresult

lemma within_mapM {f : δ → Task ε α} {items : List δ}
    (h : ∀ item ∈ items, Within allowed (f item) (fun _ => True) bad) :
    Within allowed (items.mapM f) (fun _ => True) bad := by
  induction items with
  | nil => exact within_pure trivial
  | cons item rest ih =>
    rw [List.mapM_cons]
    obtain ⟨hitem, hrest⟩ := List.forall_mem_cons.mp h
    refine hitem.bind fun value _ => ?_
    refine (ih hrest).bind fun values _ => ?_
    exact within_pure trivial

end Task

lemma Operation.within_send {operation : Operation} (h : allowed operation) :
    Task.Within allowed operation.send (fun _ => True) fun _ => True := by
  refine ⟨h, fun answer => ?_⟩
  cases answer <;> trivial

end HeatingPortal.Plant
