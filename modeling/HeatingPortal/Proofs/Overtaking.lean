import HeatingPortal.Proofs.Interleavings
import HeatingPortal.Proofs.Publication
import Mathlib.Data.List.Induction

/-!
# Requests that overtake each other

Nothing keeps requests apart that are served at the same time: each makes its calls to the plant
one by one, then publishes, and the others may take their turns in between. A change of the
system mode takes three turns, so two of them may mix (`submissions_mix`). What can be relied on
is that each of the three is decided by whoever took that turn last (`last_turns_decide`).
-/

namespace HeatingPortal.Web

open Caller Form Plant Settings

variable {ι : Type}

/-! ### Taking turns -/

/-- A request on its way: at work on the plant, or answered and published. -/
inductive Stage where
  | working (program : Program Outcome)
  | answered (outcome : Outcome)

namespace Stage

/-- The next turn of a request: a call to the plant, or else the publication that ends it. -/
def turn (world : World) : Stage → Stage × World
  | working (.call operation next) =>
    (working (next (world.plant.answer operation).1),
      { world with plant := (world.plant.answer operation).2 })
  | working (.done outcome) => (answered outcome, (world.commit outcome.publish).2)
  | answered outcome => (answered outcome, world)

/-- The status of the answer, once there is one. -/
def status? : Stage → Option Nat
  | working _ => none
  | answered outcome => some outcome.response.status

end Stage

/-- Requests on their way in one world. -/
structure Serving (ι : Type) where
  stages : ι → Stage
  world : World

namespace Serving

/-- The requests before their first turn. -/
def start (portal : Portal) (requests : ι → Request) (world : World) : Serving ι :=
  ⟨fun i => .working (portal.serve (requests i)), world⟩

variable [DecidableEq ι]

/-- One of the requests takes its next turn. -/
def advance (serving : Serving ι) (i : ι) : Serving ι :=
  ⟨Function.update serving.stages i ((serving.stages i).turn serving.world).1,
    ((serving.stages i).turn serving.world).2⟩

/-- The requests take turns in an order. -/
def advanceAll (serving : Serving ι) (schedule : List ι) : Serving ι :=
  schedule.foldl advance serving

lemma advanceAll_append_singleton (serving : Serving ι) (schedule : List ι) (i : ι) :
    serving.advanceAll (schedule ++ [i]) = (serving.advanceAll schedule).advance i :=
  List.foldl_append

end Serving

/-! ### Who came last -/

section

variable [DecidableEq ι] {schedule : List ι} {number : ℕ} {i k : ι}

/-- The turn of a number, counted from zero, was taken by all the others before
it was taken by one. -/
def LastAt (schedule : List ι) (number : ℕ) (i : ι) : Prop :=
  ∃ before later, schedule = before ++ i :: later ∧ before.count i = number ∧
    ∀ j, j ≠ i → number < before.count j

/-- Another turn is the last of its number, or leaves the last as it was. -/
lemma LastAt.of_append_singleton (h : LastAt (schedule ++ [k]) number i) :
    LastAt schedule number i ∨ i = k ∧ schedule.count k = number := by
  obtain ⟨before, later, hschedule, hcount, hothers⟩ := h
  rcases List.eq_nil_or_concat later with rfl | ⟨rest, last, rfl⟩
  · obtain ⟨rfl, hlast⟩ := List.append_inj' hschedule rfl
    cases hlast
    exact .inr ⟨rfl, hcount⟩
  · rw [List.concat_eq_append, ← List.cons_append, ← List.append_assoc] at hschedule
    obtain ⟨rfl, -⟩ := List.append_inj' hschedule rfl
    exact .inl ⟨before, rest, rfl, hcount, hothers⟩

lemma LastAt.append_singleton (h : LastAt schedule number i) (k : ι) :
    LastAt (schedule ++ [k]) number i := by
  obtain ⟨before, later, rfl, hcount, hothers⟩ := h
  exact ⟨before, later ++ [k], by simp, hcount, hothers⟩

/-- When the last has taken its turn, everyone has. -/
lemma LastAt.lt_count (h : LastAt schedule number i) (j : ι) : number < schedule.count j := by
  obtain ⟨before, later, rfl, rfl, hothers⟩ := h
  rw [List.count_append]
  by_cases hj : j = i
  · rw [hj, List.count_cons_self]
    omega
  · have hbefore := hothers j hj
    omega

/-- Where everyone has taken a turn, someone took it last. -/
lemma exists_lastAt [Nonempty ι] (h : ∀ j, number < schedule.count j) :
    ∃ i, LastAt schedule number i := by
  induction schedule using List.reverseRecOn with
  | nil =>
    obtain ⟨i⟩ := ‹Nonempty ι›
    exact absurd (h i) (by simp)
  | append_singleton before k ih =>
    by_cases hbefore : ∀ j, number < before.count j
    · obtain ⟨i, hlast⟩ := ih hbefore
      exact ⟨i, hlast.append_singleton k⟩
    · -- Only the last turn can have made up for what was missing.
      have hother (j : ι) (hne : j ≠ k) : number < before.count j := by
        have hj := h j
        rwa [List.count_append, List.count_singleton, if_neg (by simpa using hne.symm)] at hj
      have hk := h k
      rw [List.count_append, List.count_singleton_self] at hk
      refine ⟨k, before, [], rfl, ?_, hother⟩
      obtain ⟨j, hj⟩ := not_forall.mp hbefore
      by_cases hne : j = k
      · rw [hne] at hj
        omega
      · exact absurd (hother j hne) hj

lemma exists_split_of_lt_count (h : number < schedule.count i) :
    ∃ before later, schedule = before ++ i :: later ∧ before.count i = number := by
  induction schedule using List.reverseRecOn with
  | nil => cases h
  | append_singleton before k ih =>
    by_cases hbefore : number < before.count i
    · obtain ⟨first, later, rfl, hcount⟩ := ih hbefore
      exact ⟨first, later ++ [k], by simp, hcount⟩
    · rw [List.count_append, List.count_singleton] at h
      by_cases hk : k = i
      · refine ⟨before, [], by rw [hk], ?_⟩
        rw [if_pos (by simpa using hk)] at h
        omega
      · rw [if_neg (by simpa using hk)] at h
        exact absurd h hbefore

end

/-! ### Submissions on their way -/

variable {portal : Portal} {request : Request} {change : SystemModeChange} {world : World}
  {stage : Stage} {number : ℕ}

/-- Whatever it is answered, a program ends without a redirection. -/
def Denied (program : Program Outcome) : Prop :=
  program.Within (fun _ => True) fun outcome => outcome.response.status ≠ 303

/-- A program that makes calls in order and ends with an outcome, unless one of them fails. -/
def Makes (outcome : Outcome) : List Operation → Program Outcome → Prop
  | [], program => program = .done outcome
  | _ :: _, .done _ => False
  | expected :: rest, .call operation next => operation = expected ∧
      (∀ reply, Makes outcome rest (next (.ok reply))) ∧
      ∀ failure, Denied (next (.error failure))

/-- The calls of a change of the system mode. -/
def calls (change : SystemModeChange) : List Operation :=
  [.setSystemMode change.primary, .setSuppressFlag change.suppress]

/-- The outcome of a change of the system mode that succeeds. -/
def redirection (change : SystemModeChange) : Outcome :=
  ⟨.redirect "/", [], some change.composite⟩

lemma within_of_reads {α : Type} {program : Program α} {post : α → Prop}
    (h : program.Reads post) :
    program.Within (fun _ => True) post := by
  induction program with
  | done value => exact h
  | call operation next ih => exact ⟨trivial, fun answer => ih answer (h.2 answer)⟩

/-- A submission of the system mode that asks for no change is denied whatever happens. -/
lemma denied_of_forall_not (hpost : request.method = .post)
    (haccept : Portal.accept request = .ok .system)
    (hnone : ∀ change, ¬ModeSubmission portal request change) :
    Denied (portal.serve request) := by
  have hsubmit : Task.Within (fun _ => True) (submitSystemMode portal.settings
      (portal.caller request) (submittedTexts request.body))
        (fun outcome => outcome.response.status ≠ 303) fun _ => True := by
    refine (Task.within_ofExcept fun _ _ => trivial).bind fun modes hmodes => ?_
    dsimp only
    cases hvalues : (Form.system modes).validate (submittedTexts request.body) with
    | error rejections =>
      refine Task.within_lift ((within_of_reads (reads_showRejectedMode _ _ _ _ _)).mono ?_)
      exact fun outcome hquiet => hquiet.status
    | ok values =>
      refine (Task.within_ofExcept fun _ _ => trivial).bind fun change hchange => ?_
      exact absurd ⟨hpost, haccept, modes, values, hmodes, hvalues, hchange⟩ (hnone change)
  exact within_serve hpost haccept hsubmit (fun _ hstatus => hstatus) fun error _ =>
    status_ne_redirect error

lemma ofExcept_ok_bind {ε α β : Type} (value : α) (f : α → Task ε β) :
    Task.ofExcept (.ok value) >>= f = f value := rfl

/-- A submission that asks for a change makes its two calls. -/
lemma makes_of_modeSubmission (h : ModeSubmission portal request change) :
    Makes (redirection change) (calls change) (portal.serve request) := by
  obtain ⟨modes, values, hmodes, hvalues, hchange⟩ := h.accepted
  have hhandle : portal.handle request .system = submitSystemMode portal.settings
      (portal.caller request) (submittedTexts request.body) := handle_of_post h.post _
  have hsubmit : submitSystemMode portal.settings (portal.caller request)
      (submittedTexts request.body) = (do
        let composite ← change.apply
        return ⟨.redirect "/", [], some composite⟩) := by
    unfold submitSystemMode
    rw [hmodes, ofExcept_ok_bind]
    dsimp only
    rw [hvalues]
    dsimp only
    rw [hchange, ofExcept_ok_bind]
  have hcut : Portal.cut request.method (redirection change) = redirection change :=
    cut_of_post h.post rfl
  unfold Portal.serve
  rw [h.route]
  simp only [hhandle, hsubmit]
  refine ⟨rfl, fun ⟨⟩ => ⟨rfl, fun ⟨⟩ => congrArg Program.done hcut, ?_⟩, ?_⟩
  · intro failure
    exact (by decide : 500 ≠ 303)
  · intro failure
    exact status_ne_redirect (.plant failure)

/-! ### A single turn -/

/-- A request that is denied, or on its way to that. -/
def Stage.Denied : Stage → Prop
  | working program => Web.Denied program
  | answered outcome => outcome.response.status ≠ 303

/-- A change of the system mode after a number of turns: some of its calls are left to be made,
or it is answered. -/
def Stage.Reached (change : SystemModeChange) (number : ℕ) (stage : Stage) : Prop :=
  if number ≤ 2 then
    ∃ program, stage = .working program ∧
      Makes (redirection change) ((calls change).drop number) program
  else stage = .answered (redirection change)

/-- What the turn of a number of a change leaves in the world. -/
def Shows (change : SystemModeChange) (world : World) : ℕ → Prop
  | 0 => world.plant.primary = change.primary
  | 1 => world.plant.suppress = change.suppress
  | 2 => world.sink.failing = false → world.sink.published.getLast? = some change.composite
  | _ => True

lemma Stage.Denied.turn (h : stage.Denied) (world : World) : (stage.turn world).1.Denied := by
  cases stage with
  | working program =>
    cases program with
    | done outcome => exact h
    | call operation next => exact h.2 _
  | answered outcome => exact h

/-- A call of a change is accepted, or the change is denied. -/
lemma turn_call {program : Program Outcome} {outcome : Outcome} {operation : Operation}
    {rest : List Operation} (h : Makes outcome (operation :: rest) program)
    (hlive : ¬((Stage.working program).turn world).1.Denied) :
    ∃ next after, (Stage.working program).turn world =
      (.working next, { world with plant := after }) ∧
      Makes outcome rest next ∧ world.plant.Accepts operation after := by
  cases program with
  | done value => cases h
  | call operation next =>
    obtain ⟨rfl, hnext, hfails⟩ := h
    cases hanswer : (world.plant.answer operation).1 with
    | error failure =>
      have hdenied : ((Stage.working (.call operation next)).turn world).1.Denied := by
        simp only [Stage.turn, hanswer]
        exact hfails failure
      exact absurd hdenied hlive
    | ok reply =>
      refine ⟨next (.ok reply), (world.plant.answer operation).2, ?_, hnext reply, reply, ?_⟩
      · simp only [Stage.turn, hanswer]
      · exact Prod.ext hanswer rfl

/-- A turn of a change that is not denied brings it one turn further, and shows in the world;
whatever the other turns left there stays. -/
lemma Stage.Reached.turn (h : stage.Reached change number)
    (hlive : ¬(stage.turn world).1.Denied) :
    (stage.turn world).1.Reached change (number + 1) ∧ Shows change (stage.turn world).2 number ∧
      (∀ other turn, turn ≠ number → Shows other world turn →
        Shows other (stage.turn world).2 turn) ∧
      (stage.turn world).2.sink.failing = world.sink.failing := by
  match number with
  | 0 =>
    obtain ⟨program, rfl, hmakes⟩ := h
    obtain ⟨next, after, hturn, hnext, haccepts⟩ := turn_call hmakes hlive
    obtain ⟨-, -, rfl⟩ := Simulated.accepts_setSystemMode_iff.mp haccepts
    rw [hturn]
    refine ⟨⟨next, rfl, hnext⟩, rfl, fun other turn hne hshows => ?_, rfl⟩
    match turn with
    | 0 => exact absurd rfl hne
    | 1 | 2 | _ + 3 => exact hshows
  | 1 =>
    obtain ⟨program, rfl, hmakes⟩ := h
    obtain ⟨next, after, hturn, hnext, haccepts⟩ := turn_call hmakes hlive
    obtain ⟨-, rfl⟩ := Simulated.accepts_setSuppressFlag_iff.mp haccepts
    rw [hturn]
    refine ⟨⟨next, rfl, hnext⟩, rfl, fun other turn hne hshows => ?_, rfl⟩
    match turn with
    | 1 => exact absurd rfl hne
    | 0 | 2 | _ + 3 => exact hshows
  | 2 =>
    obtain ⟨program, rfl, rfl⟩ := h
    have hcommit : ((Stage.working (.done (redirection change))).turn world) =
        (.answered (redirection change), (world.commit (some change.composite)).2) := rfl
    rw [hcommit, World.commit_eq]
    cases hfailing : world.sink.failing with
    | true => exact ⟨rfl, by simp [Shows, hfailing], fun _ _ _ hshows => hshows, hfailing⟩
    | false =>
      refine ⟨rfl, by simp [Shows], fun other turn hne hshows => ?_, hfailing⟩
      match turn with
      | 2 => exact absurd rfl hne
      | 0 | 1 | _ + 3 => exact hshows
  | number + 3 =>
    have hanswered : stage = .answered (redirection change) := h
    rw [hanswered]
    exact ⟨rfl, trivial, fun _ _ _ hshows => hshows, rfl⟩

/-! ### All turns -/

variable [DecidableEq ι] {requests : ι → Request} {changes : ι → SystemModeChange}
  {serving : Serving ι} {schedule : List ι} {i k : ι}

namespace Serving

lemma stages_advance (serving : Serving ι) (i : ι) :
    (serving.advance i).stages i = ((serving.stages i).turn serving.world).1 :=
  Function.update_self ..

lemma stages_advance_of_ne (serving : Serving ι) (hne : k ≠ i) :
    (serving.advance i).stages k = serving.stages k :=
  Function.update_of_ne hne ..

lemma denied_advance (h : (serving.stages i).Denied) (k : ι) :
    ((serving.advance k).stages i).Denied := by
  by_cases hne : i = k
  · rw [← hne, stages_advance]
    exact h.turn serving.world
  · rw [stages_advance_of_ne serving hne]
    exact h

lemma denied_advanceAll (h : (serving.stages i).Denied) (schedule : List ι) :
    ((serving.advanceAll schedule).stages i).Denied := by
  induction schedule generalizing serving with
  | nil => exact h
  | cons k rest ih => exact ih (denied_advance h k)

/-- Changes on their way after a schedule of turns: each has come as far as it had turns, and the
world shows whoever took a turn last. -/
structure Keeps (changes : ι → SystemModeChange) (failing : Bool) (schedule : List ι)
    (serving : Serving ι) : Prop where
  reached : ∀ i, (serving.stages i).Reached (changes i) (schedule.count i)
  shows : ∀ number i, LastAt schedule number i → Shows (changes i) serving.world number
  sink : serving.world.sink.failing = failing

lemma Keeps.advance {failing : Bool} (h : Keeps changes failing schedule serving)
    (hlive : ¬((serving.advance k).stages k).Denied) :
    Keeps changes failing (schedule ++ [k]) (serving.advance k) := by
  rw [stages_advance] at hlive
  obtain ⟨hreached, hshows, hkept, hsink⟩ := (h.reached k).turn hlive
  refine ⟨fun i => ?_, fun number i hlast => ?_, hsink.trans h.sink⟩
  · by_cases hne : i = k
    · rw [hne, stages_advance, List.count_append, List.count_singleton_self]
      exact hreached
    · rw [stages_advance_of_ne serving hne, List.count_append, List.count_singleton,
        if_neg (by simpa using Ne.symm hne)]
      exact h.reached i
  · rcases hlast.of_append_singleton with hbefore | ⟨rfl, rfl⟩
    · -- The turn taken now has a number that not everyone has reached before.
      have hlt := hbefore.lt_count k
      exact hkept (changes i) number (by omega) (h.shows number i hbefore)
    · exact hshows

/-- Where nobody is denied in the end, the turns are kept to all along. -/
lemma Keeps.advanceAll {failing : Bool} (h : Keeps changes failing [] serving)
    (hlive : ∀ i, ¬((serving.advanceAll schedule).stages i).Denied) :
    Keeps changes failing schedule (serving.advanceAll schedule) := by
  induction schedule using List.reverseRecOn with
  | nil => exact h
  | append_singleton before k ih =>
    rw [advanceAll_append_singleton] at hlive ⊢
    exact (ih fun i hdenied => hlive i (denied_advance hdenied k)).advance (hlive k)

/-- A change that is answered has had its three turns. -/
lemma Keeps.lt_count {failing : Bool} (h : Keeps changes failing schedule serving) {status : Nat}
    (hstatus : (serving.stages i).status? = some status) : 2 < schedule.count i := by
  by_contra hfew
  have hreached := h.reached i
  rw [Stage.Reached, if_pos (by omega)] at hreached
  obtain ⟨program, hstage, -⟩ := hreached
  rw [hstage] at hstatus
  cases hstatus

lemma advanceAll_append (serving : Serving ι) (before later : List ι) :
    serving.advanceAll (before ++ later) = (serving.advanceAll before).advanceAll later :=
  List.foldl_append

/-- Submissions that are all redirected in the end each ask for a change, and keep to
their turns all along. -/
lemma exists_keeps (hsubmits : ∀ i, portal.Submits (requests i) .runtime)
    (hredirected : ∀ i,
      (((start portal requests world).advanceAll schedule).stages i).status? = some 303) :
    ∃ changes, (∀ i, ModeSubmission portal (requests i) (changes i)) ∧
      ∀ before, before <+: schedule → Keeps changes world.sink.failing before
        ((start portal requests world).advanceAll before) := by
  have hlive (before : List ι) (hearlier : before <+: schedule) (i : ι) :
      ¬(((start portal requests world).advanceAll before).stages i).Denied := by
    intro hdenied
    obtain ⟨later, rfl⟩ := hearlier
    have hlast := denied_advanceAll hdenied later
    have hstatus := hredirected i
    rw [advanceAll_append] at hstatus
    cases hstage :
        (((start portal requests world).advanceAll before).advanceAll later).stages i with
    | working program =>
      rw [hstage] at hstatus
      cases hstatus
    | answered outcome =>
      rw [hstage] at hstatus hlast
      exact hlast (Option.some.inj hstatus)
  have hchange (i : ι) : ∃ change, ModeSubmission portal (requests i) change := by
    by_contra hnone
    obtain ⟨hpost, haccept⟩ := hsubmits i
    exact hlive [] List.nil_prefix i (denied_of_forall_not hpost haccept (not_exists.mp hnone))
  choose changes hchanges using hchange
  refine ⟨changes, hchanges, fun before hearlier => ?_⟩
  refine Keeps.advanceAll ⟨fun i => ?_, fun number i hlast => ?_, rfl⟩ (hlive before hearlier)
  · exact ⟨_, rfl, makes_of_modeSubmission (hchanges i)⟩
  · exact absurd (hlast.lt_count i) (by simp)

lemma world_advance (serving : Serving ι) {stage : Stage} (h : serving.stages i = stage) :
    (serving.advance i).world = (stage.turn serving.world).2 := by
  rw [← h]
  rfl

/-- A program that is left alone runs to its end and publishes. -/
lemma exists_advanceAll_eq_run {program : Program Outcome}
    (h : serving.stages i = .working program) :
    ∃ turns, let last := serving.advanceAll (.replicate turns i)
      let ended := serving.world.run program
      last.stages i = .answered ended.1 ∧ last.world = (ended.2.commit ended.1.publish).2 := by
  have hstage := stages_advance serving i
  have hworld := world_advance serving h
  rw [h] at hstage
  induction program generalizing serving with
  | done outcome => exact ⟨1, hstage, hworld⟩
  | call operation next ih =>
    have hnext := stages_advance (serving.advance i) i
    rw [hstage] at hnext
    obtain ⟨turns, hlast⟩ := ih _ hstage hnext (world_advance _ hstage)
    rw [hworld] at hlast
    exact ⟨turns + 1, hlast⟩

/-- A request that is left alone is served. -/
lemma exists_advanceAll_eq_serve (portal : Portal) (requests : ι → Request)
    (world : World) (i : ι) :
    ∃ turns, let last := (start portal requests world).advanceAll (.replicate turns i)
      last.stages i = .answered (world.outcome portal (requests i)) ∧
        last.world = (world.serve portal (requests i)).2 :=
  exists_advanceAll_eq_run rfl

end Serving

/-- One request takes all its turns after the others have taken theirs. -/
lemma lastAt_of_append {before later : List ι} (hnone : i ∉ before)
    (hothers : ∀ j, j ≠ i → number < before.count j) (hcount : number < later.count i) :
    LastAt (before ++ later) number i := by
  obtain ⟨first, rest, rfl, hfirst⟩ := exists_split_of_lt_count hcount
  refine ⟨before ++ first, rest, by simp, ?_, fun j hne => ?_⟩
  · rw [List.count_append, List.count_eq_zero_of_not_mem hnone, hfirst, Nat.zero_add]
  · have hj := hothers j hne
    rw [List.count_append]
    omega

/-! ### Mixing -/

/-- The change that is submitted is spelled by the submission alone. -/
lemma ModeSubmission.eq_of_submitted (h : ModeSubmission portal request change) {code : Int64}
    (hcode : submittedCode? (submittedTexts request.body) modeKey = some code) :
    change = ⟨UInt8.ofNat code.toInt.toNat,
      checkCheckbox ((submittedTexts request.body).get? suppressKey)⟩ := by
  obtain ⟨modes, values, -, hvalues, hchange⟩ := h.accepted
  obtain ⟨choice, -, hsubmitted, hprimary, -, hsuppress⟩ :=
    submitted_of_modeChange hvalues hchange
  cases hcode.symm.trans hsubmitted
  rw [hprimary, ← hsuppress, Int.toNat_natCast, UInt8.ofNat_toNat]

/-- Two changes for the small plant: to heating without hot water, and to summer. -/
def demoChanges : Fin 2 → Request :=
  ![.submission "/" "sysmode=1&suppress=on", .submission "/" "sysmode=5"]

lemma submits_demoChanges (i : Fin 2) : Portal.demo.Submits (demoChanges i) .runtime := by
  have haccept : ∀ i, (Portal.accept (demoChanges i)).toOption = some .system := by
    decide +kernel
  have hpost : ∀ i, (demoChanges i).method = .post := by decide +kernel
  exact .system (hpost i) (eq_ok_of_toOption (haccept i))

/-- Changes of the system mode that are served at the same time, in any order of their calls and
publications, leave the primary mode of whoever set it last, the suppress flag of whoever set it
last, and the notice of whoever published last. So if one of them comes last in all three, as it
does when it starts after the others were answered, then its system mode is in force and was
published last. -/
theorem last_turns_decide [Nonempty ι] (portal : Portal) (world : World) (requests : ι → Request)
    (hsubmits : ∀ i, portal.Submits (requests i) .runtime) (schedule : List ι)
    (hredirected : ∀ i,
      (((Serving.start portal requests world).advanceAll schedule).stages i).status? =
        some 303) :
    let served := (Serving.start portal requests world).advanceAll
    let last := (served schedule).world
    ∃ changes : ι → SystemModeChange,
      (∀ i, ModeSubmission portal (requests i) (changes i)) ∧
      (∀ number < 3, ∃ i, LastAt schedule number i) ∧
      (∀ i, LastAt schedule 0 i → last.plant.primary = (changes i).primary) ∧
      (∀ i, LastAt schedule 1 i → last.plant.suppress = (changes i).suppress) ∧
      (world.sink.failing = false → ∀ i, LastAt schedule 2 i →
        last.sink.published.getLast? = some (changes i).composite) ∧
      ∀ i, (∀ number < 3, LastAt schedule number i) ∨
        (∃ before later, schedule = before ++ later ∧
          i ∉ before ∧ ∀ j, j ≠ i → ((served before).stages j).status? = some 303) →
        last.plant.composite = (changes i).composite ∧
          (world.sink.failing = false →
            last.sink.published.getLast? = some last.plant.composite) := by
  intro served last
  obtain ⟨changes, hchanges, hkeeps⟩ := Serving.exists_keeps hsubmits hredirected
  have hlast := hkeeps schedule List.prefix_rfl
  have hturns (i : ι) : 2 < schedule.count i := hlast.lt_count (hredirected i)
  have hmode (i : ι) (h : LastAt schedule 0 i) : last.plant.primary = (changes i).primary :=
    hlast.shows 0 i h
  have hflag (i : ι) (h : LastAt schedule 1 i) : last.plant.suppress = (changes i).suppress :=
    hlast.shows 1 i h
  have hnotice (hworks : world.sink.failing = false) (i : ι) (h : LastAt schedule 2 i) :
      last.sink.published.getLast? = some (changes i).composite :=
    hlast.shows 2 i h (hlast.sink.trans hworks)
  refine ⟨changes, hchanges, fun number hnumber => ?_, hmode, hflag, hnotice, fun i hi => ?_⟩
  · apply exists_lastAt
    intro i
    have hi := hturns i
    omega
  have hall (number : ℕ) (hnumber : number < 3) : LastAt schedule number i := by
    rcases hi with hi | ⟨before, later, rfl, hnone, hothers⟩
    · exact hi number hnumber
    · have hcount := hturns i
      rw [List.count_append, List.count_eq_zero_of_not_mem hnone] at hcount
      refine lastAt_of_append hnone (fun j hne => ?_) (by omega)
      have hj := (hkeeps before (List.prefix_append before later)).lt_count (hothers j hne)
      omega
  have hcomposite : last.plant.composite = (changes i).composite := by
    rw [Simulated.composite, hmode i (hall 0 (by omega)), hflag i (hall 1 (by omega))]
    rfl
  refine ⟨hcomposite, fun hworks => ?_⟩
  rw [hcomposite]
  exact hnotice hworks i (hall 2 (by omega))

/-- The last turns of summer mode all come after those of heating. -/
theorem last_turns_decide_summer :
    let schedule : List (Fin 2) := [0, 1, 0, 1, 0, 1]
    let served := (Serving.start .demo demoChanges (.ofPlant .demo)).advanceAll schedule
    (∀ i, (served.stages i).status? = some 303) ∧ (∀ number < 3, LastAt schedule number 1) ∧
      ∃ change, ModeSubmission .demo (demoChanges 1) change ∧
        served.world.plant.composite = change.composite ∧
        served.world.sink.published.getLast? = some served.world.plant.composite := by
  intro schedule served
  have hstatus : ∀ i, (served.stages i).status? = some 303 := by decide +kernel
  have hlast : ∀ number < 3, LastAt schedule number 1 := by
    intro number hnumber
    match number with
    | 0 => exact ⟨[0], [0, 1, 0, 1], rfl, rfl, by decide⟩
    | 1 => exact ⟨[0, 1, 0], [0, 1], rfl, rfl, by decide⟩
    | 2 => exact ⟨[0, 1, 0, 1, 0], [], rfl, rfl, by decide⟩
  obtain ⟨changes, hchanges, -, -, -, -, hdecide⟩ :=
    last_turns_decide .demo (.ofPlant .demo) demoChanges submits_demoChanges schedule hstatus
  obtain ⟨hcomposite, hpublished⟩ := hdecide 1 (.inl hlast)
  exact ⟨hstatus, hlast, changes 1, hchanges 1, hcomposite, hpublished rfl⟩

/-- Summer mode takes its first turns between the calls of heating, and is the last to publish.
Then the flag of the one is in force with the mode of the other, which neither has submitted, and
what was published last is not in force. -/
theorem submissions_mix :
    let served :=
      (Serving.start .demo demoChanges (.ofPlant .demo)).advanceAll [0, 1, 1, 0, 0, 1]
    (∀ i, Portal.demo.Submits (demoChanges i) .runtime) ∧
      (∀ i, (served.stages i).status? = some 303) ∧
      ModeSubmission .demo (demoChanges 0) ⟨1, true⟩ ∧
      ModeSubmission .demo (demoChanges 1) ⟨5, false⟩ ∧
      served.world.plant.composite = compose 5 true ∧
      (¬∃ i change, ModeSubmission .demo (demoChanges i) change ∧
        served.world.plant.composite = change.composite) ∧
      served.world.sink.published.getLast? ≠ some served.world.plant.composite := by
  intro served
  have hstatus : ∀ i, (served.stages i).status? = some 303 := by decide +kernel
  have hcomposite : served.world.plant.composite = compose 5 true := by decide +kernel
  have hheating {change : SystemModeChange} (h : ModeSubmission .demo (demoChanges 0) change) :
      change = ⟨1, true⟩ := by
    have hcode : submittedCode? (submittedTexts (demoChanges 0).body) modeKey = some 1 := by
      decide +kernel
    have hflag : checkCheckbox ((submittedTexts (demoChanges 0).body).get? suppressKey) =
        true := by
      decide +kernel
    rw [h.eq_of_submitted hcode, hflag]
    rfl
  have hsummer {change : SystemModeChange} (h : ModeSubmission .demo (demoChanges 1) change) :
      change = ⟨5, false⟩ := by
    have hcode : submittedCode? (submittedTexts (demoChanges 1).body) modeKey = some 5 := by
      decide +kernel
    have hflag : checkCheckbox ((submittedTexts (demoChanges 1).body).get? suppressKey) =
        false := by
      decide +kernel
    rw [h.eq_of_submitted hcode, hflag]
    rfl
  obtain ⟨changes, hchanges, -⟩ := Serving.exists_keeps submits_demoChanges hstatus
  refine ⟨submits_demoChanges, hstatus, ?_, ?_, hcomposite, ?_, by decide +kernel⟩
  · rw [← hheating (hchanges 0)]
    exact hchanges 0
  · rw [← hsummer (hchanges 1)]
    exact hchanges 1
  · rintro ⟨i, change, h, heq⟩
    rw [hcomposite] at heq
    match i with
    | 0 =>
      rw [hheating h] at heq
      exact absurd heq (by decide)
    | 1 =>
      rw [hsummer h] at heq
      exact absurd heq (by decide)

end HeatingPortal.Web
