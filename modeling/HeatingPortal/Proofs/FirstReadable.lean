import HeatingPortal.Notice.Announcement
import HeatingPortal.Proofs.Contexts
import HeatingPortal.Proofs.Refusals
import Mathlib.Data.List.Forall2

/-!
# The first readable system mode

The announcement at startup ends at the first attempt that reads the system mode, and publishes
what was read there. An attempt reads the primary mode and then the suppress flag, so it fails
with the first of the two that fails. On a simulated plant with outages both can be read when the
later of the two has recovered.
-/

namespace HeatingPortal.Notice

open Plant

/-! ### Attempts -/

/-- The first attempt that reads the system mode, and what it reads. -/
structure FirstReadable (read : Nat → Except Failure UInt8) (n : Nat) (composite : UInt8) :
    Prop where
  pos : 1 ≤ n
  unread : ∀ attempt, 1 ≤ attempt → attempt < n → ∃ failure, read attempt = .error failure
  readable : read n = .ok composite

section

variable {read : Nat → Except Failure UInt8} {composite : UInt8}

/-- Attempts that fail are counted and their failures kept, until one succeeds. -/
lemma exists_attempts_eq {failing : Nat} (start limit : Nat)
    (hunread : ∀ attempt, start ≤ attempt → attempt < start + failing →
      ∃ failure, read attempt = .error failure)
    (hreadable : read (start + failing) = .ok composite) (hlimit : failing < limit) :
    ∃ failures,
      List.Forall₂ (fun attempt failure => read attempt = .error failure)
        (List.range' start failing) failures ∧
      attempts read start limit =
        ⟨(List.range' start (failing + 1)).map attemptNumber, failures, some composite⟩ := by
  obtain ⟨rest, rfl⟩ : ∃ rest, limit = rest + 1 :=
    Nat.exists_eq_add_one.mpr (Nat.zero_lt_of_lt hlimit)
  induction failing generalizing start rest with
  | zero =>
    refine ⟨[], .nil, ?_⟩
    rw [Nat.add_zero] at hreadable
    rw [attempts, hreadable]
    rfl
  | succ failing ih =>
    obtain ⟨failure, hfailure⟩ := hunread start (Nat.le_refl start) (by omega)
    obtain ⟨rest, rfl⟩ : ∃ later, rest = later + 1 := Nat.exists_eq_add_one.mpr (by omega)
    have hnext : start + (failing + 1) = start + 1 + failing := by omega
    rw [hnext] at hunread hreadable
    obtain ⟨failures, hfailures, hlater⟩ := ih (start + 1)
      (fun attempt hstart => hunread attempt (Nat.le_of_succ_le hstart))
      hreadable rest (by omega)
    refine ⟨failure :: failures, .cons hfailure hfailures, ?_⟩
    rw [attempts, hfailure]
    simp only [hlater]
    rfl

/-- Attempts that are not too many have numbers of their own. -/
lemma map_attemptNumber_range' {n : Nat} (h : n ≤ lastNumber) :
    (List.range' 1 n).map attemptNumber = List.range' 1 n := by
  have hsame : ∀ attempt ∈ List.range' 1 n, attemptNumber attempt = attempt := by
    intro attempt hmem
    rw [List.mem_range'_1] at hmem
    exact Nat.min_eq_left (by omega)
  rw [List.map_congr_left hsame, List.map_id']

/-- The announcement publishes what the first attempt that succeeds has read. -/
lemma exists_announce_eq {n limit : Nat} (h : FirstReadable read n composite)
    (hcounted : n ≤ lastNumber) (hlimit : n ≤ limit) (sink : Recording) :
    ∃ failures,
      List.Forall₂ (fun attempt failure => (1 ≤ attempt ∧ attempt < n) ∧
        read attempt = .error failure) (List.range' 1 (n - 1)) failures ∧
      announce read sink limit = ⟨⟨List.range' 1 n, failures, some composite⟩,
        failures.map .plantNotReachable ++ (sink.notify composite).1,
        (sink.notify composite).2⟩ := by
  obtain ⟨hpos, hunread, hreadable⟩ := h
  obtain ⟨failing, rfl⟩ : ∃ failing, n = failing + 1 := Nat.exists_eq_add_one.mpr hpos
  rw [Nat.add_comm] at hreadable
  obtain ⟨failures, hfailures, hattempts⟩ := exists_attempts_eq 1 limit
    (fun attempt hstart hend => hunread attempt hstart (by omega)) hreadable hlimit
  rw [map_attemptNumber_range' hcounted] at hattempts
  refine ⟨failures, ?_, by simp only [announce, hattempts]⟩
  rw [Nat.add_sub_cancel, List.forall₂_and_left]
  refine ⟨fun attempt hmem => ?_, hfailures⟩
  rw [List.mem_range'_1] at hmem
  omega

end

/-! ### Gateways -/

/-- What a gateway answers to each call. -/
def Answers : Type :=
  (operation : Operation) → Answer operation

/-- Reads the system mode at an attempt, when a gateway may answer each
attempt in its own way. -/
def readFrom (answers : Nat → Answers) (attempt : Nat) : Except Failure UInt8 :=
  (Program.run (fun (_ : Unit) operation => (answers attempt operation, ()))
    readSystemMode.run ()).1

/-- The failure of a read of the system mode, with the call that failed. -/
inductive Unread (answers : Answers) : Operation → Failure → Prop
  | mode {failure : Failure} (h : answers .systemMode = .error failure) :
      Unread answers .systemMode failure
  | flag {primary : UInt8} {failure : Failure} (hmode : answers .systemMode = .ok primary)
      (h : answers .suppressFlag = .error failure) : Unread answers .suppressFlag failure

/-- The announcement of a mode that was first read at an attempt, with a
sink as it was before. -/
structure Announced (answers : Nat → Answers) (n : Nat) (composite : UInt8) (sink : Recording)
    (done : Announcement) : Prop where
  mode : done.attempts.composite = some composite
  numbers : done.attempts.numbers = List.range' 1 n
  failures : List.Forall₂
    (fun attempt failure => ∃ call, Unread (answers attempt) call failure ∧
      failure.operation = call.label ∧ failure.target = call.target)
    (List.range' 1 (n - 1)) done.attempts.failures
  warnings : done.warnings = done.attempts.failures.map .plantNotReachable ++
    if sink.failing then [.noticeLost (.unreachable "recording sink set to fail")] else []
  published : done.sink =
    if sink.failing then sink else { sink with published := sink.published ++ [composite] }

/-- Reading the system mode ends with the first of its two answers that is a
failure, or with both. -/
lemma fst_run_readSystemMode {σ : Type}
    (answer : σ → (operation : Operation) → Answer operation × σ) (state : σ) :
    (Program.run answer readSystemMode.run state).1 = (do
      let primary ← (answer state .systemMode).1
      let suppress ← (answer (answer state .systemMode).2 .suppressFlag).1
      return compose primary suppress) := by
  refine (congrArg Prod.fst
    (Program.run_bind answer Operation.systemMode.send.run _ state)).trans ?_
  have hmode : Program.run answer Operation.systemMode.send.run state =
    answer state .systemMode := rfl
  rw [hmode]
  obtain ⟨failure | primary, after⟩ := answer state .systemMode
  · rfl
  refine (congrArg Prod.fst
    (Program.run_bind answer Operation.suppressFlag.send.run _ after)).trans ?_
  have hflag : Program.run answer Operation.suppressFlag.send.run after =
    answer after .suppressFlag := rfl
  rw [hflag]
  dsimp only
  obtain ⟨failure | suppress, last⟩ := answer after .suppressFlag <;> rfl

section

variable {answers : Nat → Answers}

lemma readFrom_eq (answers : Nat → Answers) (attempt : Nat) :
    readFrom answers attempt = (do
      let primary ← answers attempt .systemMode
      let suppress ← answers attempt .suppressFlag
      return compose primary suppress) :=
  fst_run_readSystemMode _ ()

lemma exists_unread {attempt : Nat} {failure : Failure}
    (h : readFrom answers attempt = .error failure) :
    ∃ call, Unread (answers attempt) call failure := by
  rw [readFrom_eq] at h
  rcases bind_eq_error h with hmode | ⟨primary, hmode, h⟩
  · exact ⟨.systemMode, .mode hmode⟩
  rcases bind_eq_error h with hflag | ⟨suppress, -, h⟩
  · exact ⟨.suppressFlag, .flag hmode hflag⟩
  · cases h

/-- A gateway whose failures name the calls that failed. -/
def NamesFailures (answers : Nat → Answers) : Prop :=
  ∀ attempt operation failure, answers attempt operation = .error failure →
    failure.operation = operation.label ∧ failure.target = operation.target

lemma NamesFailures.of_unread (h : NamesFailures answers) {attempt : Nat} {call : Operation}
    {failure : Failure} (hunread : Unread (answers attempt) call failure) :
    failure.operation = call.label ∧ failure.target = call.target := by
  cases hunread with
  | mode hfailure => exact h attempt .systemMode failure hfailure
  | flag _ hfailure => exact h attempt .suppressFlag failure hfailure

lemma announced_of_firstReadable {n limit : Nat} {composite : UInt8}
    (h : FirstReadable (readFrom answers) n composite) (hnames : NamesFailures answers)
    (hcounted : n ≤ lastNumber) (hlimit : n ≤ limit) (sink : Recording) :
    Announced answers n composite sink (announce (readFrom answers) sink limit) := by
  obtain ⟨failures, hfailures, hdone⟩ := exists_announce_eq h hcounted hlimit sink
  rw [hdone]
  refine ⟨rfl, rfl, hfailures.imp ?_, ?_, ?_⟩
  · rintro attempt failure ⟨-, hfailure⟩
    obtain ⟨call, hcall⟩ := exists_unread hfailure
    exact ⟨call, hcall, hnames.of_unread hcall⟩
  · cases hfailing : sink.failing <;> simp [Recording.notify, Recording.publish, hfailing]
  · cases hfailing : sink.failing <;> simp [Recording.notify, Recording.publish, hfailing]

end

/-! ### Outages -/

/-- The attempt from which an operation works: the first at which one of its outages is over, and
the first of all if it has none. -/
def firstRecovery (outages : List Outage) (label : String) : Nat :=
  ((outages.filter (·.operation = label)).map (·.recoversAt)).min?.getD 1

/-- An operation that fails at most until given attempts. -/
structure Recovers (plant : Simulated) (outages : List Outage) (label : String) : Prop where
  outage : plant.fails label = true → ∃ outage ∈ outages, outage.operation = label
  counted : ∀ outage ∈ outages, outage.operation = label →
    1 ≤ outage.recoversAt ∧ outage.recoversAt ≤ lastNumber

/-- What a plant with outages answers at an attempt. -/
def answersAt (plant : Simulated) (outages : List Outage) (attempt : Nat) : Answers :=
  fun operation => ((plantAt plant outages (attemptNumber attempt)).answer operation).1

section

variable {plant : Simulated} {outages : List Outage} {label : String}

lemma foldl_failOn (outages : List Outage) (plant : Simulated) :
    outages.foldl (fun plant outage => plant.failOn outage.operation) plant =
      { plant with fails := fun label =>
          outages.any (·.operation = label) || plant.fails label } := by
  induction outages generalizing plant with
  | nil => simp
  | cons outage rest ih =>
    rw [List.foldl_cons, ih]
    simp only [Simulated.failOn, List.any_cons]
    congr 1
    funext label
    rw [Bool.or_assoc, Bool.or_left_comm, decide_eq_decide.mpr eq_comm]

lemma foldl_recover (outages : List Outage) (plant : Simulated) :
    outages.foldl (fun plant outage => plant.recover outage.operation) plant =
      { plant with fails := fun label =>
          !outages.any (·.operation = label) && plant.fails label } := by
  induction outages generalizing plant with
  | nil => simp
  | cons outage rest ih =>
    rw [List.foldl_cons, ih]
    simp only [Simulated.recover, List.any_cons, Bool.not_or]
    congr 1
    funext label
    rw [Bool.and_assoc, Bool.and_left_comm, decide_not, decide_eq_decide.mpr eq_comm]

lemma firstRecovery_of_none (h : ∀ outage ∈ outages, outage.operation ≠ label) :
    firstRecovery outages label = 1 := by
  have hnone : outages.filter (·.operation = label) = [] := by simpa using h
  rw [firstRecovery, hnone]
  rfl

/-- The first of the outages to be over ends the failures. -/
lemma firstRecovery_of_exists (h : ∃ outage ∈ outages, outage.operation = label) :
    (∃ outage ∈ outages, outage.operation = label ∧
      outage.recoversAt = firstRecovery outages label) ∧
    ∀ outage ∈ outages, outage.operation = label →
      firstRecovery outages label ≤ outage.recoversAt := by
  cases hmin : ((outages.filter (·.operation = label)).map (·.recoversAt)).min? with
  | none =>
    obtain ⟨outage, hmem, hlabel⟩ := h
    rw [List.min?_eq_none_iff, List.map_eq_nil_iff, List.filter_eq_nil_iff] at hmin
    exact absurd (decide_eq_true hlabel) (hmin outage hmem)
  | some least =>
    have hleast : firstRecovery outages label = least := by
      rw [firstRecovery, hmin, Option.getD_some]
    obtain ⟨hmem, hle⟩ := List.min?_eq_some_iff.mp hmin
    rw [hleast]
    refine ⟨by simpa [and_assoc] using hmem, fun outage houtage hlabel => hle _ ?_⟩
    exact List.mem_map_of_mem (List.mem_filter.mpr ⟨houtage, decide_eq_true hlabel⟩)

namespace Recovers

variable (h : Recovers plant outages label)

include h

lemma firstRecovery_bounds :
    1 ≤ firstRecovery outages label ∧ firstRecovery outages label ≤ lastNumber := by
  by_cases hexists : ∃ outage ∈ outages, outage.operation = label
  · obtain ⟨⟨outage, hmem, hlabel, hfirst⟩, -⟩ := firstRecovery_of_exists hexists
    rw [← hfirst]
    exact h.counted outage hmem hlabel
  · push Not at hexists
    rw [firstRecovery_of_none hexists]
    decide

/-- An operation fails before its first recovery, and not from then on. -/
lemma fails_plantAt_iff {attempt : Nat} (hpos : 1 ≤ attempt) :
    (plantAt plant outages attempt).fails label = true ↔
      attempt < firstRecovery outages label := by
  have hfails : (plantAt plant outages attempt).fails label = true ↔
      (∀ outage ∈ outages, outage.operation = label → 1 ≤ outage.recoversAt →
        attempt < outage.recoversAt) ∧
      ((∃ outage ∈ outages, outage.operation = label) ∨ plant.fails label = true) := by
    simp only [plantAt, foldl_recover, foldl_failOn]
    simp only [Bool.decide_and, List.any_filter, Bool.and_eq_true, Bool.not_eq_eq_eq_not,
      Bool.not_true, List.any_eq_false, decide_eq_true_eq, not_and, and_imp, Bool.or_eq_true,
      List.any_eq_true, and_congr_left_iff]
    intro _
    refine forall₂_congr fun outage _ =>
      ⟨fun hover hlabel hone => ?_, fun hlater hone hover hlabel => ?_⟩
    · by_contra hle
      exact hover hone (by omega) hlabel
    · exact absurd (hlater hlabel hone) (by omega)
  rw [hfails]
  by_cases hexists : ∃ outage ∈ outages, outage.operation = label
  · obtain ⟨⟨outage, hmem, hlabel, hfirst⟩, hle⟩ := firstRecovery_of_exists hexists
    constructor
    · rintro ⟨hlater, -⟩
      rw [← hfirst]
      exact hlater outage hmem hlabel (h.counted outage hmem hlabel).1
    · intro hlt
      exact ⟨fun other hother hsame _ => Nat.lt_of_lt_of_le hlt (hle other hother hsame),
        .inl hexists⟩
  · have hworks : ¬plant.fails label = true := fun hfailing => hexists (h.outage hfailing)
    push Not at hexists
    rw [firstRecovery_of_none hexists]
    refine iff_of_false ?_ (by omega)
    rintro ⟨-, ⟨outage, hmem, hlabel⟩ | hfailing⟩
    · exact hexists outage hmem hlabel
    · exact hworks hfailing

end Recovers

lemma namesFailures_answersAt (plant : Simulated) (outages : List Outage) :
    NamesFailures (answersAt plant outages) :=
  fun _ _ _ h => Simulated.Refuses.named h

lemma readAt_eq_readFrom (plant : Simulated) (outages : List Outage) :
    readAt plant outages = readFrom (answersAt plant outages) := by
  funext attempt
  rw [readFrom_eq]
  exact fst_run_readSystemMode Simulated.answer (plantAt plant outages (attemptNumber attempt))

/-- The attempt from which both reads work. -/
def readableFrom (outages : List Outage) : Nat :=
  max (firstRecovery outages "system_mode") (firstRecovery outages "suppress_flag")

/-- The failure of an attempt before that: the primary mode is read first. -/
def outageFailure (outages : List Outage) (attempt : Nat) : Failure :=
  let call : Operation :=
    if attempt < firstRecovery outages "system_mode" then .systemMode else .suppressFlag
  call.failure .unavailable "injected failure"

section

variable (hmode : Recovers plant outages "system_mode")
  (hflag : Recovers plant outages "suppress_flag")

include hmode hflag

lemma readableFrom_bounds : 1 ≤ readableFrom outages ∧ readableFrom outages ≤ lastNumber := by
  obtain ⟨hmodePos, hmodeCounted⟩ := hmode.firstRecovery_bounds
  obtain ⟨-, hflagCounted⟩ := hflag.firstRecovery_bounds
  unfold readableFrom
  omega

/-- An attempt fails before both reads have recovered, and reads the mode of
the plant from then on. -/
lemma readAt_eq {attempt : Nat} (hpos : 1 ≤ attempt) (hcounted : attempt ≤ lastNumber) :
    readAt plant outages attempt =
      if attempt < readableFrom outages then .error (outageFailure outages attempt)
      else .ok (compose plant.primary plant.suppress) := by
  have hplant : (plantAt plant outages attempt).primary = plant.primary ∧
      (plantAt plant outages attempt).suppress = plant.suppress := by
    simp only [plantAt, foldl_recover, foldl_failOn, and_self]
  have hanswer (operation : Operation) : answersAt plant outages attempt operation =
      ((plantAt plant outages attempt).answer operation).1 := by
    rw [answersAt, attemptNumber, Nat.min_eq_left hcounted]
  have hprimary : answersAt plant outages attempt .systemMode =
      if attempt < firstRecovery outages "system_mode" then
        .error (Operation.systemMode.failure .unavailable "injected failure")
      else .ok plant.primary := by
    simp only [hanswer, ← hmode.fails_plantAt_iff hpos, ← hplant.1]
    rfl
  have hsuppress : answersAt plant outages attempt .suppressFlag =
      if attempt < firstRecovery outages "suppress_flag" then
        .error (Operation.suppressFlag.failure .unavailable "injected failure")
      else .ok plant.suppress := by
    simp only [hanswer, ← hflag.fails_plantAt_iff hpos, ← hplant.2]
    rfl
  have hlater : attempt < readableFrom outages ↔
      attempt < firstRecovery outages "system_mode" ∨
        attempt < firstRecovery outages "suppress_flag" := by
    unfold readableFrom
    omega
  rw [readAt_eq_readFrom, readFrom_eq, hprimary, hsuppress, outageFailure]
  by_cases hfirst : attempt < firstRecovery outages "system_mode"
  · simp only [if_pos hfirst, if_pos (hlater.mpr (.inl hfirst))]
    rfl
  by_cases hsecond : attempt < firstRecovery outages "suppress_flag"
  · simp only [if_neg hfirst, if_pos hsecond, if_pos (hlater.mpr (.inr hsecond))]
    rfl
  · simp only [if_neg hfirst, if_neg hsecond,
      if_neg (fun h => (hlater.mp h).elim hfirst hsecond)]
    rfl

/-- Both reads work from the later of their recoveries on. -/
lemma firstReadable_readAt :
    FirstReadable (readAt plant outages) (readableFrom outages)
      (compose plant.primary plant.suppress) := by
  obtain ⟨hpos, hcounted⟩ := readableFrom_bounds hmode hflag
  refine ⟨hpos, fun attempt hattempt hlt => ?_, ?_⟩
  · rw [readAt_eq hmode hflag hattempt (Nat.le_trans (Nat.le_of_lt hlt) hcounted), if_pos hlt]
    exact ⟨_, rfl⟩
  · rw [readAt_eq hmode hflag hpos hcounted, if_neg (Nat.lt_irrefl _)]

/-- Every failure is that of a read that has not recovered. -/
lemma failures_announce_readAt {limit : Nat} (hlimit : readableFrom outages ≤ limit)
    (sink : Recording) :
    (announce (readAt plant outages) sink limit).attempts.failures =
      (List.range' 1 (readableFrom outages - 1)).map (outageFailure outages) := by
  obtain ⟨-, hcounted⟩ := readableFrom_bounds hmode hflag
  obtain ⟨failures, hfailures, hdone⟩ :=
    exists_announce_eq (firstReadable_readAt hmode hflag) hcounted hlimit sink
  rw [hdone, eq_comm, ← List.forall₂_eq_eq_eq, List.forall₂_map_left_iff]
  refine hfailures.imp ?_
  rintro attempt failure ⟨⟨hpos, hlt⟩, hfailure⟩
  rw [readAt_eq hmode hflag hpos (Nat.le_trans (Nat.le_of_lt hlt) hcounted),
    if_pos hlt] at hfailure
  exact Except.error.inj hfailure

end

lemma le_foldl_max (values : List Nat) (start : Nat) :
    start ≤ values.foldl max start ∧ ∀ value ∈ values, value ≤ values.foldl max start := by
  induction values generalizing start with
  | nil => simp
  | cons value rest ih =>
    obtain ⟨hstart, hrest⟩ := ih (max start value)
    rw [List.foldl_cons, List.forall_mem_cons]
    exact ⟨by omega, by omega, hrest⟩

/-- The attempts that a plant with outages is given are enough. -/
lemma readableFrom_le_enoughAttempts (outages : List Outage) :
    readableFrom outages ≤ enoughAttempts outages := by
  have hrecovery (label : String) : firstRecovery outages label ≤ enoughAttempts outages := by
    unfold enoughAttempts
    by_cases hexists : ∃ outage ∈ outages, outage.operation = label
    · obtain ⟨⟨outage, hmem, -, hfirst⟩, -⟩ := firstRecovery_of_exists hexists
      have hle := (le_foldl_max (outages.map (·.recoversAt)) 0).2 _ (List.mem_map_of_mem hmem)
      omega
    · push Not at hexists
      rw [firstRecovery_of_none hexists]
      omega
  exact Nat.max_le.mpr ⟨hrecovery "system_mode", hrecovery "suppress_flag"⟩

end

/-- The announcement publishes the first readable mode, once. Whatever a gateway answers attempt
by attempt, the first that reads the system mode ends the attempts: those up to it are counted
from one, each failure before it is reported with the call that failed, and the mode is
published, or reported as lost if the sink fails. On a plant with outages it is the attempt at
which the later of the two reads recovers, and outages of other operations do not matter. -/
theorem announces_first_readable (sink : Recording) :
    (∀ (answers : Nat → Answers) (n limit : Nat) (composite : UInt8),
      NamesFailures answers → FirstReadable (readFrom answers) n composite →
      n ≤ lastNumber → n ≤ limit →
        Announced answers n composite sink (announce (readFrom answers) sink limit)) ∧
    ∀ (plant : Simulated) (outages : List Outage) (limit : Nat),
      Recovers plant outages "system_mode" → Recovers plant outages "suppress_flag" →
      readableFrom outages ≤ limit →
        let composite := compose plant.primary plant.suppress
        let done := announce (readAt plant outages) sink limit
        FirstReadable (readAt plant outages) (readableFrom outages) composite ∧
        Announced (answersAt plant outages) (readableFrom outages) composite sink done ∧
        done.attempts.failures =
          (List.range' 1 (readableFrom outages - 1)).map (outageFailure outages) := by
  refine ⟨fun answers n limit composite hnames hfirst hcounted hlimit => ?_,
    fun plant outages limit hmode hflag hlimit => ⟨?_, ?_, ?_⟩⟩
  · exact announced_of_firstReadable hfirst hnames hcounted hlimit sink
  · exact firstReadable_readAt hmode hflag
  · have hfirst := firstReadable_readAt hmode hflag
    rw [readAt_eq_readFrom] at hfirst ⊢
    exact announced_of_firstReadable hfirst (namesFailures_answersAt plant outages)
      (readableFrom_bounds hmode hflag).2 hlimit sink
  · exact failures_announce_readAt hmode hflag hlimit sink

/-- One gateway fails with one read and then with the other; a plant has two outages of the
flag, of which the first to be over counts, and one of names, which does not matter. The
sinks fail and work. -/
theorem announces_first_readable_third :
    let plantFor (attempt : Nat) : Simulated :=
      if attempt = 1 then Simulated.demo.failOn "system_mode"
      else if attempt = 2 then Simulated.demo.failOn "suppress_flag"
      else Simulated.demo
    let answers : Nat → Answers :=
      fun attempt operation => ((plantFor attempt).answer operation).1
    let failing : Recording := ⟨[], true⟩
    let outages : List Outage :=
      [⟨"system_mode", 3⟩, ⟨"suppress_flag", 5⟩, ⟨"suppress_flag", 2⟩, ⟨"name", 9⟩]
    let done := announce (readAt .demo outages) .empty (enoughAttempts outages)
    NamesFailures answers ∧ FirstReadable (readFrom answers) 3 1 ∧
      (announce (readFrom answers) failing 4).attempts.numbers = [1, 2, 3] ∧
      (announce (readFrom answers) failing 4).attempts.composite = some 1 ∧
      (announce (readFrom answers) failing 4).sink.published = [] ∧
      Recovers .demo outages "system_mode" ∧ Recovers .demo outages "suppress_flag" ∧
      readableFrom outages = 3 ∧ done.attempts.numbers = [1, 2, 3] ∧
      done.attempts.failures.map (·.operation) = ["system_mode", "system_mode"] ∧
      done.sink.published = [1] := by
  intro plantFor answers failing outages done
  have hnames : NamesFailures answers := fun _ _ _ h => Simulated.Refuses.named h
  have hfirst : FirstReadable (readFrom answers) 3 1 := by
    refine ⟨by decide, fun attempt hpos hlt => ?_, rfl⟩
    obtain rfl | rfl : attempt = 1 ∨ attempt = 2 := by omega
    · exact ⟨Operation.systemMode.failure .unavailable "injected failure", rfl⟩
    · exact ⟨Operation.suppressFlag.failure .unavailable "injected failure", rfl⟩
  have hrecovers (label : String) (hcounted : ∀ outage ∈ outages, outage.operation = label →
      1 ≤ outage.recoversAt ∧ outage.recoversAt ≤ lastNumber) : Recovers .demo outages label :=
    ⟨fun h => (by cases h), hcounted⟩
  have hmode : Recovers .demo outages "system_mode" := hrecovers _ (by decide +kernel)
  have hflag : Recovers .demo outages "suppress_flag" := hrecovers _ (by decide +kernel)
  have hthird : readableFrom outages = 3 := by decide +kernel
  have hlost :=
    (announces_first_readable failing).1 answers 3 4 1 hnames hfirst (by decide) (by decide)
  obtain ⟨-, hdone, hfailures⟩ := (announces_first_readable .empty).2 .demo outages
    (enoughAttempts outages) hmode hflag (readableFrom_le_enoughAttempts outages)
  rw [hthird] at hdone hfailures
  refine ⟨hnames, hfirst, hlost.numbers, hlost.mode, ?_, hmode, hflag, hthird,
    hdone.numbers, ?_, ?_⟩
  · rw [hlost.published]
    rfl
  · rw [hfailures]
    decide +kernel
  · rw [hdone.published]
    rfl

end HeatingPortal.Notice
