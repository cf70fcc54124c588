import HeatingPortal.Plant.Operation

/-!
# Programs on the plant

A program makes calls one after another, each depending on the replies to those before it, and
ends with a value. It is run against anything that answers calls: the simulated plant, a bridge,
or a recorded list of replies. `run_bind` says that a run can be cut after any part of a program.
-/

namespace HeatingPortal.Plant

/-- The reply to a call, or why it failed. -/
abbrev Answer (operation : Operation) : Type :=
  Except Failure operation.Reply

/-- Calls to the plant that end with a value. -/
inductive Program (α : Type) where
  | done (value : α)
  | call (operation : Operation) (next : Answer operation → Program α)

namespace Program

/-- Goes on with another program after the first has ended. -/
def bind {α β : Type} : Program α → (α → Program β) → Program β
  | done value, f => f value
  | call operation next, f => call operation fun answer => (next answer).bind f

instance : Monad Program where
  pure := done
  bind := bind

/-- Runs a program against a state that answers calls. -/
def run {σ α : Type} (answer : σ → (operation : Operation) → Answer operation × σ) :
    Program α → σ → α × σ
  | done value, state => (value, state)
  | call operation next, state =>
    run answer (next (answer state operation).1) (answer state operation).2

@[simp]
theorem pure_eq {α : Type} (value : α) : (pure value : Program α) = done value := rfl

@[simp]
theorem bind_eq {α β : Type} (program : Program α) (f : α → Program β) :
    program >>= f = program.bind f := rfl

@[simp]
theorem run_done {σ α : Type} (answer : σ → (operation : Operation) → Answer operation × σ)
    (value : α) (state : σ) : (done value).run answer state = (value, state) := rfl

theorem run_bind {σ α β : Type} (answer : σ → (operation : Operation) → Answer operation × σ)
    (program : Program α) (f : α → Program β) (state : σ) :
    (program.bind f).run answer state =
      (f (program.run answer state).1).run answer (program.run answer state).2 := by
  induction program generalizing state with
  | done value => rfl
  | call operation next ih => exact ih _ _

theorem bind_done {α : Type} (program : Program α) : program.bind done = program := by
  induction program with
  | done value => rfl
  | call operation next ih => exact congrArg (call operation) (funext ih)

theorem bind_assoc {α β γ : Type} (program : Program α) (f : α → Program β)
    (g : β → Program γ) :
    (program.bind f).bind g = program.bind fun value => (f value).bind g := by
  induction program with
  | done value => rfl
  | call operation next ih => exact congrArg (call operation) (funext ih)

instance : LawfulMonad Program :=
  LawfulMonad.mk' Program (fun program => bind_done program) (fun _ _ => rfl) bind_assoc

end Program

/-- A program that may stop early with an error. -/
abbrev Task (ε α : Type) : Type :=
  ExceptT ε Program α

/-- The program of a single call. -/
def Operation.send (operation : Operation) : Task Failure operation.Reply :=
  ExceptT.mk (.call operation .done)

/-- What is known without any call. -/
def Task.ofExcept {ε α : Type} (result : Except ε α) : Task ε α :=
  ExceptT.mk (.done result)

/-- A task whose failures are errors of the portal. -/
def Task.ofPlant {ε α : Type} (error : Failure → ε) (task : Task Failure α) : Task ε α :=
  ExceptT.adapt error task

end HeatingPortal.Plant
