import HeatingPortal.Proofs.Reach
import HeatingPortal.Proofs.Sessions
import HeatingPortal.Proofs.Views
import Mathlib.Data.Fin.VecNotation
import Mathlib.Data.List.FinRange
import Mathlib.Logic.Function.Basic

/-!
# Submissions at the same time

Programs that share a plant take turns call by call, in an order that nobody controls. If each
keeps to a target of its own, what is left of a program to run yields the same as the whole
program would have yielded alone: its own calls bring it nearer to its end, and those of the
others do not concern it (`Running.Faithful`). A submission keeps to the entity that it
addresses, or to the plant as a whole, so submissions to different targets are served as if one
came after another.
-/

namespace HeatingPortal

open Plant Caller Web

namespace Plant

variable {ι α : Type}

/-! ### Taking turns -/

/-- The value of a program that has ended. -/
def Program.value? : Program α → Option α
  | done value => some value
  | call .. => none

lemma Program.eq_done_of_value? {program : Program α} {value : α}
    (h : program.value? = some value) : program = .done value := by
  cases program with
  | done found => exact congrArg done (Option.some.inj h)
  | call => cases h

/-- Programs under way on one plant. -/
structure Running (ι α : Type) where
  programs : ι → Program α
  plant : Simulated

/-- One of the programs makes its next call, unless it has ended. -/
def Running.advance [DecidableEq ι] (running : Running ι α) (i : ι) : Running ι α :=
  match running.programs i with
  | .done _ => running
  | .call operation next =>
    ⟨Function.update running.programs i (next (running.plant.answer operation).1),
      (running.plant.answer operation).2⟩

/-- The programs take turns in an order. -/
def Running.advanceAll [DecidableEq ι] (running : Running ι α) (schedule : List ι) :
    Running ι α :=
  schedule.foldl advance running

/-! ### Programs with targets of their own -/

/-- Whatever it is answered, a program calls one target only. -/
def Program.KeepsTo (program : Program α) (target : Target) : Prop :=
  program.Within (fun operation => operation.target = target) fun _ => True

namespace Program.KeepsTo

variable {program : Program α} {target other : Target} {first second : Simulated}

/-- A program runs alike on plants whose state of its target is the same. -/
lemma run_congr (h : program.KeepsTo target) (hfails : first.fails = second.fails)
    (hview : first.view target = second.view target) :
    (Simulated.run program first).1 = (Simulated.run program second).1 ∧
      (Simulated.run program first).2.view target =
        (Simulated.run program second).2.view target := by
  have halike : Simulated.AlikeOn (fun visible => visible = target) first second := by
    refine ⟨hfails, ?_⟩
    rintro visible rfl
    exact hview
  obtain ⟨hvalue, hafter, -⟩ := halike.run h
  exact ⟨hvalue, hafter.view target rfl⟩

lemma view_run_of_ne (h : program.KeepsTo target) (hne : other ≠ target) (plant : Simulated) :
    (Simulated.run program plant).2.view other = plant.view other := by
  refine Simulated.view_run_of_hidden h ?_ plant
  rintro operation rfl
  exact hne.symm

/-- A call to another target does not concern a program. -/
lemma run_answer (h : program.KeepsTo target) {operation : Operation}
    (hne : target ≠ operation.target) (plant : Simulated) :
    (Simulated.run program (plant.answer operation).2).1 = (Simulated.run program plant).1 ∧
      (Simulated.run program (plant.answer operation).2).2.view target =
        (Simulated.run program plant).2.view target :=
  h.run_congr (Simulated.fails_answer plant operation) (Simulated.view_answer_of_ne plant hne)

end Program.KeepsTo

/-- Programs that each keep to a target, as they were started and as they are under way: what is
left of each yields on the plant of now what all of it yields on the plant of then. -/
structure Running.Faithful (targets : ι → Target) (start running : Running ι α) : Prop where
  keeps : ∀ i, (running.programs i).KeepsTo (targets i)
  value : ∀ i, (Simulated.run (running.programs i) running.plant).1 =
    (Simulated.run (start.programs i) start.plant).1
  own : ∀ i, (Simulated.run (running.programs i) running.plant).2.view (targets i) =
    (Simulated.run (start.programs i) start.plant).2.view (targets i)
  others : ∀ target, (∀ i, targets i ≠ target) →
    running.plant.view target = start.plant.view target

namespace Running.Faithful

variable {targets : ι → Target} {start running : Running ι α}

lemma refl (hkeeps : ∀ i, (start.programs i).KeepsTo (targets i)) :
    Faithful targets start start :=
  ⟨hkeeps, fun _ => rfl, fun _ => rfl, fun _ _ => rfl⟩

/-- A turn of one program brings it nearer to its end and does not concern the others. -/
lemma advance [DecidableEq ι] (h : Faithful targets start running)
    (hdistinct : Function.Injective targets) (i : ι) :
    Faithful targets start (running.advance i) := by
  unfold Running.advance
  cases hprogram : running.programs i with
  | done value => exact h
  | call operation next =>
    have hkeeps := h.keeps i
    rw [hprogram] at hkeeps
    obtain ⟨htarget, hnext⟩ := hkeeps
    have hsame : Simulated.run (next (running.plant.answer operation).1)
        (running.plant.answer operation).2 =
          Simulated.run (running.programs i) running.plant := by
      rw [hprogram]
      rfl
    have hother {j : ι} (hne : j ≠ i) := (h.keeps j).run_answer
      (fun heq => hne (hdistinct (heq.trans htarget))) running.plant
    constructor
    · intro j
      by_cases heq : j = i
      · subst heq
        dsimp only
        rw [Function.update_self]
        exact hnext _
      · simpa [heq] using h.keeps j
    · intro j
      rw [← h.value j]
      by_cases heq : j = i
      · subst heq
        simp [hsame]
      · simpa [heq] using (hother heq).1
    · intro j
      rw [← h.own j]
      by_cases heq : j = i
      · subst heq
        simp [hsame]
      · simpa [heq] using (hother heq).2
    · intro target hunused
      rw [← h.others target hunused]
      refine Simulated.view_answer_of_ne running.plant ?_
      rintro rfl
      exact hunused i htarget.symm

lemma advanceAll [DecidableEq ι] (h : Faithful targets start running)
    (hdistinct : Function.Injective targets) (schedule : List ι) :
    Faithful targets start (running.advanceAll schedule) := by
  induction schedule generalizing running with
  | nil => exact h
  | cons i rest ih => exact ih (h.advance hdistinct i)

/-- Programs that have come to an end have the values and the targets that
each would have alone. -/
lemma of_done (h : Faithful targets start running) {values : ι → α}
    (hdone : ∀ i, (running.programs i).value? = some (values i)) (i : ι) :
    values i = (Simulated.run (start.programs i) start.plant).1 ∧
      running.plant.view (targets i) =
        (Simulated.run (start.programs i) start.plant).2.view (targets i) := by
  rw [← h.value i, ← h.own i, Program.eq_done_of_value? (hdone i)]
  exact ⟨rfl, rfl⟩

end Running.Faithful

end Plant

namespace Web

variable {portal : Portal} {request : Request} {start : World} {target : Target}

/-! ### Submissions -/

/-- A submission, acceptable or not, to the plant as a whole or to the
entity that it addresses. -/
inductive Portal.Submits (portal : Portal) (request : Request) : Target → Prop
  | system (hpost : request.method = .post) (haccept : Portal.accept request = .ok .system) :
      Submits portal request .runtime
  | entity {kind : Kind} {id : String} {context : EntityContext} {entity : Entity}
      (hpost : request.method = .post) (haccept : Portal.accept request = .ok (.entity kind id))
      (haddressed : addressed portal.settings (portal.caller request) kind id =
        .ok (context, entity)) :
      Submits portal request (.entity entity)

/-- Serving a submission calls nothing but its target. -/
lemma keepsTo_serve (h : portal.Submits request target) :
    (portal.serve request).KeepsTo target := by
  have hserve {route : Route} {good : Outcome → Prop} {bad : Error → Prop}
      (hpost : request.method = .post) (haccept : Portal.accept request = .ok route)
      (hsubmit : Task.Within (fun operation => operation.target = target)
        (Portal.submit portal.settings (portal.caller request)
          (submittedTexts request.body) route)
        good bad) : (portal.serve request).KeepsTo target :=
    within_serve hpost haccept hsubmit (fun _ _ => trivial) fun _ _ => trivial
  cases h with
  | system hpost haccept =>
    refine hserve hpost haccept (within_submitSystemMode portal.settings _ _ ?_)
    exact fun operation htarget => htarget
  | entity hpost haccept haddressed =>
    refine hserve hpost haccept (within_submitEntity portal.settings _ _ ?_)
    intro found other hfound operation htarget
    cases haddressed.symm.trans hfound
    exact htarget

/-! ### One after another -/

/-- Requests that are served one after another leave each target as its own request would alone,
and the rest as it was. -/
lemma World.view_afterAll {ι : Type} {targets : ι → Target} {requests : ι → Request}
    (hsubmits : ∀ i, portal.Submits (requests i) (targets i))
    (hdistinct : Function.Injective targets) (start : World) {order : List ι}
    (hnodup : order.Nodup) :
    let last := (start.afterAll portal (order.map fun i => .request (requests i))).plant
    (∀ i ∈ order, last.view (targets i) =
      (Simulated.run (portal.serve (requests i)) start.plant).2.view (targets i)) ∧
      ∀ target, (∀ i ∈ order, targets i ≠ target) →
        last.view target = start.plant.view target := by
  induction order generalizing start with
  | nil => exact ⟨fun i hmem => absurd hmem List.not_mem_nil, fun _ _ => rfl⟩
  | cons first rest ih =>
    intro last
    obtain ⟨hfirst, hrest⟩ := List.nodup_cons.mp hnodup
    obtain ⟨hown, hothers⟩ := ih (start.after portal (.request (requests first))) hrest
    rw [World.after, World.plant_serve] at hown hothers
    have hkeeps (i : ι) : (portal.serve (requests i)).KeepsTo (targets i) :=
      keepsTo_serve (hsubmits i)
    have hdiffers {i : ι} (hmem : i ∈ rest) : targets i ≠ targets first := by
      intro heq
      exact hfirst (hdistinct heq ▸ hmem)
    constructor
    · intro i hmem
      rcases List.mem_cons.mp hmem with rfl | hmem
      · exact hothers (targets i) fun j hj => hdiffers hj
      · have hfails := Simulated.fails_run (portal.serve (requests first)) start.plant
        have hview := (hkeeps first).view_run_of_ne (hdiffers hmem) start.plant
        obtain ⟨-, hsame⟩ := (hkeeps i).run_congr hfails hview
        exact (hown i hmem).trans hsame
    · intro target hunused
      obtain ⟨hne, hunused⟩ := List.forall_mem_cons.mp hunused
      exact (hothers target hunused).trans ((hkeeps first).view_run_of_ne hne.symm start.plant)

/-- Submissions to different targets that share a plant call by call, in any order of turns in
which they all come to an end, are each answered as if they were served alone. They leave the
entities, the system mode and the suppress flag as they would if they were served one after
another in any order. -/
theorem concurrent_submissions_serializable {n : ℕ} (portal : Portal) (start : World)
    (requests : Fin n → Request) (targets : Fin n → Target)
    (hsubmits : ∀ i, portal.Submits (requests i) (targets i))
    (hdistinct : Function.Injective targets) (schedule : List (Fin n))
    (outcomes : Fin n → Outcome)
    (hdone : ∀ i, ((Running.advanceAll ⟨fun i => portal.serve (requests i), start.plant⟩
      schedule).programs i).value? = some (outcomes i)) :
    let last :=
      (Running.advanceAll ⟨fun i => portal.serve (requests i), start.plant⟩ schedule).plant
    (∀ i, outcomes i = start.outcome portal (requests i)) ∧
      ∀ order : List (Fin n), order.Perm (List.finRange n) →
        let serial := (start.afterAll portal (order.map fun i => .request (requests i))).plant
        last.device? = serial.device? ∧ last.primary = serial.primary ∧
          last.suppress = serial.suppress := by
  intro last
  let running : Running (Fin n) Outcome := ⟨fun i => portal.serve (requests i), start.plant⟩
  have hstart : Running.Faithful targets running running :=
    .refl fun i => keepsTo_serve (hsubmits i)
  have hlast := hstart.advanceAll hdistinct schedule
  refine ⟨fun i => (hlast.of_done hdone i).1, fun order horder => ?_⟩
  intro serial
  have hnodup : order.Nodup := horder.nodup_iff.mpr (List.nodup_finRange n)
  obtain ⟨hserial, hrest⟩ := World.view_afterAll hsubmits hdistinct start hnodup
  have hview (target : Target) : last.view target = serial.view target := by
    by_cases hused : ∃ i, targets i = target
    · obtain ⟨i, rfl⟩ := hused
      have hmem : i ∈ order := horder.mem_iff.mpr (List.mem_finRange i)
      exact (hlast.of_done hdone i).2.trans (hserial i hmem).symm
    · have hunused (i : Fin n) : targets i ≠ target := fun heq => hused ⟨i, heq⟩
      exact (hlast.others target hunused).trans (hrest target fun i _ => hunused i).symm
  refine ⟨?_, View.runtime.inj (hview .runtime)⟩
  funext entity
  exact View.device.inj (hview (.entity entity))

/-- The ground floor and the system mode are submitted at once, and the suppress flag
cannot be set: the offset is written between the two calls for the system mode, and the
override after both. -/
theorem concurrent_submissions_serializable_demo :
    let start := World.ofPlant (Simulated.demo.failOn "set_suppress_flag")
    let requests : Fin 2 → Request :=
      ![.submission "/circuits/0" "offset=1.5&runmode=2&override=on",
        .submission "/" "sysmode=5&suppress=on"]
    let last := Running.advanceAll ⟨fun i => Portal.demo.serve (requests i), start.plant⟩
      [0, 1, 0, 1, 0]
    let serial := (start.afterAll .demo [.request (requests 1), .request (requests 0)]).plant
    (∀ i, (last.programs i).value? = some (start.outcome .demo (requests i))) ∧
      last.plant.calls.length = 3 ∧ last.plant.device? = serial.device? ∧
      last.plant.primary = serial.primary ∧ last.plant.suppress = serial.suppress := by
  intro start requests last serial
  let targets : Fin 2 → Target := ![.entity ⟨.circuit, 0⟩, .runtime]
  have hended : ∀ i, (last.programs i).value?.isSome := by decide +kernel
  have hdone (i : Fin 2) :
      (last.programs i).value? = some ((last.programs i).value?.get (hended i)) :=
    (Option.some_get (hended i)).symm
  have hcircuit : (Portal.accept (requests 0)).toOption = some (.entity .circuit "0") := by
    decide +kernel
  have hsystem : (Portal.accept (requests 1)).toOption = some .system := by decide +kernel
  have haddressed : (addressed Portal.demo.settings (Portal.demo.caller (requests 0)) .circuit
      "0").toOption.map (·.2) = some ⟨.circuit, 0⟩ := by decide +kernel
  have hsubmits (i : Fin 2) : Portal.demo.Submits (requests i) (targets i) := by
    obtain ⟨⟨context, entity⟩, haddressed, rfl⟩ := Option.map_eq_some_iff.mp haddressed
    match i with
    | 0 => exact .entity rfl (eq_ok_of_toOption hcircuit) (eq_ok_of_toOption haddressed)
    | 1 => exact .system rfl (eq_ok_of_toOption hsystem)
  have hdistinct : ∀ i j, targets i = targets j → i = j := by decide
  obtain ⟨houtcomes, hserial⟩ := concurrent_submissions_serializable .demo start requests targets
    hsubmits hdistinct [0, 1, 0, 1, 0] _ hdone
  refine ⟨fun i => ?_, by decide +kernel, hserial [1, 0] (by decide)⟩
  rw [← houtcomes i]
  exact hdone i

end Web

end HeatingPortal
