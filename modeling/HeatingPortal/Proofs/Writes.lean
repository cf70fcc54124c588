import HeatingPortal.Plant.Override
import HeatingPortal.Plant.SystemMode
import HeatingPortal.Proofs.Runs

/-!
# What writes do to the simulated plant

A write that the plant accepts has one effect, and `accepts_setOffset_iff` and its siblings say
which and when. From them come the triples of the two tasks that write: the change of the system
mode and the plan for an entity. Both write twice at most, and an error that follows the first
write is told apart from one that precedes it.
-/

namespace HeatingPortal.Plant

open Number

namespace Simulated

variable {plant after : Simulated} {entity : Entity} {operation : Operation}

/-! ### Accepted calls -/

lemma guarded_eq_ok_iff {operation : Operation} {answer : Answer operation}
    {reply : operation.Reply} :
    plant.guarded operation answer = .ok reply ↔
      plant.fails operation.label = false ∧ answer = .ok reply := by
  unfold guarded
  split <;> simp_all

lemma commit_eq_ok_iff {changed : Simulated} {operation : Operation} {answer : Answer operation}
    {reply : operation.Reply} :
    plant.commit operation answer changed = (.ok reply, after) ↔
      plant.fails operation.label = false ∧ answer = .ok reply ∧
        after = changed.record operation := by
  rw [← and_assoc, ← guarded_eq_ok_iff]
  unfold commit
  cases plant.guarded operation answer with
  | ok value =>
    simp only [Prod.mk.injEq, Except.ok.injEq, and_congr_right_iff]
    exact fun _ => eq_comm
  | error failure => simp

lemma commit_fst (plant changed : Simulated) (operation : Operation)
    (answer : Answer operation) :
    (plant.commit operation answer changed).1 = plant.guarded operation answer := by
  unfold commit
  cases plant.guarded operation answer <;> rfl

/-- A device is changed when the operation does not fail, nothing speaks against it, and the
device is there. -/
lemma exists_write_eq_ok_iff (plant after : Simulated) (operation : Operation)
    (reply : operation.Reply) (entity : Entity) (refusal : Option String)
    (change : Device → Device) :
    (∃ given, plant.write operation reply entity refusal change = (.ok given, after)) ↔
      plant.fails operation.label = false ∧ refusal = none ∧
        ∃ device, plant.device? entity = some device ∧
          after = (plant.setDevice entity (change device)).record operation := by
  unfold write
  cases plant.device? entity with
  | none => simp [commit_eq_ok_iff]
  | some device => cases refusal <;> simp [commit_eq_ok_iff]

lemma runModeRefusal_eq_none_iff {mode : Int64} :
    runModeRefusal mode = none ↔ 0 ≤ mode.toInt ∧ mode.toInt ≤ greatestRunMode := by
  unfold runModeRefusal
  split <;> simp_all

lemma systemModeRefusal_eq_none_iff {primary : UInt8} :
    systemModeRefusal primary = none ↔ primary ≤ greatestSystemMode := by
  unfold systemModeRefusal
  split <;> simp_all

lemma accepts_setOffset_iff {value : Binary64} :
    plant.Accepts (.setOffset entity value) after ↔
      plant.fails "set_offset" = false ∧ ∃ device, plant.device? entity = some device ∧
        after = (plant.setDevice entity { device with offset := value }).record
          (.setOffset entity value) := by
  refine (exists_write_eq_ok_iff plant after (.setOffset entity value) () entity none
    fun device => { device with offset := value }).trans ?_
  exact and_congr_right' (and_iff_right rfl)

lemma accepts_setOverride_iff {mode : Int64} :
    plant.Accepts (.setOverride entity mode) after ↔
      plant.fails "set_override" = false ∧ (0 ≤ mode.toInt ∧ mode.toInt ≤ greatestRunMode) ∧
        ∃ device, plant.device? entity = some device ∧
          after = (plant.setDevice entity { device with overrideMode := some mode }).record
            (.setOverride entity mode) := by
  rw [← runModeRefusal_eq_none_iff]
  exact exists_write_eq_ok_iff plant after (.setOverride entity mode) () entity _
    fun device => { device with overrideMode := some mode }

lemma accepts_clearOverride_iff :
    plant.Accepts (.clearOverride entity) after ↔
      plant.fails "clear_override" = false ∧ ∃ device, plant.device? entity = some device ∧
        after = (plant.setDevice entity { device with overrideMode := none }).record
          (.clearOverride entity) := by
  refine (exists_write_eq_ok_iff plant after (.clearOverride entity) () entity none
    fun device => { device with overrideMode := none }).trans ?_
  exact and_congr_right' (and_iff_right rfl)

lemma accepts_setSystemMode_iff {primary : UInt8} :
    plant.Accepts (.setSystemMode primary) after ↔
      plant.fails "set_system_mode" = false ∧ primary ≤ greatestSystemMode ∧
        after = { plant with primary }.record (.setSystemMode primary) := by
  rw [← systemModeRefusal_eq_none_iff, Accepts, answer]
  cases systemModeRefusal primary with
  | some reason =>
    constructor
    · rintro ⟨reply, h⟩
      cases (commit_eq_ok_iff.mp h).2.1
    · rintro ⟨-, h, -⟩
      cases h
  | none =>
    constructor
    · rintro ⟨reply, h⟩
      obtain ⟨hfails, -, hafter⟩ := commit_eq_ok_iff.mp h
      exact ⟨hfails, rfl, hafter⟩
    · rintro ⟨hfails, -, hafter⟩
      exact ⟨(), commit_eq_ok_iff.mpr ⟨hfails, rfl, hafter⟩⟩

lemma accepts_setSuppressFlag_iff {suppress : Bool} :
    plant.Accepts (.setSuppressFlag suppress) after ↔
      plant.fails "set_suppress_flag" = false ∧
        after = { plant with suppress }.record (.setSuppressFlag suppress) := by
  constructor
  · rintro ⟨reply, h⟩
    obtain ⟨hfails, -, hafter⟩ := commit_eq_ok_iff.mp h
    exact ⟨hfails, hafter⟩
  · rintro ⟨hfails, hafter⟩
    exact ⟨(), commit_eq_ok_iff.mpr ⟨hfails, rfl, hafter⟩⟩

/-- What is read from an entity is what its device has. -/
lemma exists_device_of_read {f : Device → operation.Reply} {reply : operation.Reply}
    (h : (plant.read operation entity f).1 = .ok reply) :
    ∃ device, plant.device? entity = some device ∧ f device = reply := by
  obtain ⟨-, h⟩ := guarded_eq_ok_iff.mp h
  cases hdevice : plant.device? entity with
  | none => simp [hdevice] at h
  | some device =>
    rw [hdevice] at h
    exact ⟨device, rfl, Except.ok.inj h⟩

lemma reply_of_read {device : Device} {f : Device → operation.Reply} {reply : operation.Reply}
    (hdevice : plant.device? entity = some device)
    (h : (plant.read operation entity f).1 = .ok reply) : f device = reply := by
  obtain ⟨found, hfound, hreply⟩ := exists_device_of_read h
  rw [hdevice] at hfound
  cases hfound
  exact hreply

/-! ### Plants after a write -/

/-- The plant after a write that it carried out. -/
def written (plant : Simulated) (operation : Operation) : Simulated :=
  (match operation with
    | .setOffset entity offset => plant.modify entity ({ · with offset })
    | .setOverride entity mode => plant.modify entity ({ · with overrideMode := some mode })
    | .clearOverride entity => plant.modify entity ({ · with overrideMode := none })
    | .setSystemMode primary => { plant with primary }
    | .setSuppressFlag suppress => { plant with suppress }
    | _ => plant).record operation

lemma modify_of_device {entity : Entity} {device : Device}
    (h : plant.device? entity = some device) (change : Device → Device) :
    plant.modify entity change = plant.setDevice entity (change device) := by
  simp only [modify, h]

lemma modify_eq (plant : Simulated) (entity : Entity) (change : Device → Device) :
    plant.modify entity change = { plant with device? := fun other =>
      if other = entity then (plant.device? entity).map change else plant.device? other } := by
  unfold modify
  cases hdevice : plant.device? entity with
  | some device => rfl
  | none =>
    have hsame (other : Entity) :
        plant.device? other = if other = entity then none else plant.device? other := by
      split
      · next heq => rw [heq, hdevice]
      · rfl
    simp only [Option.map_none, ← hsame]

/-- An accepted write has been carried out. -/
lemma eq_written_of_accepts (hwrite : operation.isWrite = true)
    (h : plant.Accepts operation after) : after = plant.written operation := by
  cases operation with
  | setOffset =>
    obtain ⟨-, device, hdevice, rfl⟩ := accepts_setOffset_iff.mp h
    rw [written, modify_of_device hdevice]
  | setOverride =>
    obtain ⟨-, -, device, hdevice, rfl⟩ := accepts_setOverride_iff.mp h
    rw [written, modify_of_device hdevice]
  | clearOverride =>
    obtain ⟨-, device, hdevice, rfl⟩ := accepts_clearOverride_iff.mp h
    rw [written, modify_of_device hdevice]
  | setSystemMode =>
    obtain ⟨-, -, rfl⟩ := accepts_setSystemMode_iff.mp h
    rfl
  | setSuppressFlag =>
    obtain ⟨-, rfl⟩ := accepts_setSuppressFlag_iff.mp h
    rfl
  | _ => cases hwrite

/-- After any call a plant is as it was, or the write that was asked for is carried out. -/
lemma answer_snd (plant : Simulated) (operation : Operation) :
    (plant.answer operation).2 =
      if operation.isWrite && (plant.answer operation).1.isOk then plant.written operation
      else plant := by
  cases hwrite : operation.isWrite with
  | false => exact answer_snd_of_read plant hwrite
  | true =>
    cases hanswer : (plant.answer operation).1 with
    | error failure => exact answer_snd_of_refuses hanswer
    | ok reply => exact eq_written_of_accepts hwrite ⟨reply, Prod.ext hanswer rfl⟩

end Simulated

/-! ### The change of the system mode -/

namespace SystemModeChange

lemma ends_apply (change : SystemModeChange) (plant : Simulated) :
    Task.Ends change.apply plant
      (fun composite after writes => composite = change.composite ∧
        ∃ middle, plant.Accepts (.setSystemMode change.primary) middle ∧
          middle.Accepts (.setSuppressFlag change.suppress) after ∧
          writes = [⟨plant, .setSystemMode change.primary⟩,
            ⟨middle, .setSuppressFlag change.suppress⟩])
      fun error after writes =>
        (after = plant ∧ writes = [] ∧ ∃ failure, error = .plant failure) ∨
          ∃ failure, plant.Accepts (.setSystemMode change.primary) after ∧
            after.Refuses (.setSuppressFlag change.suppress) failure ∧
            error = .halfDone "set_system_mode" "set_suppress_flag" failure ∧
            writes = [⟨plant, .setSystemMode change.primary⟩] := by
  refine (Task.ends_ofPlant (Operation.ends_send_write (.setSystemMode change.primary) rfl
    plant)).bind ?_ ?_
  · rintro error after writes ⟨failure, rfl, -, rfl, rfl⟩
    exact .inl ⟨rfl, rfl, failure, rfl⟩
  rintro ⟨⟩ middle writes ⟨hmode, rfl⟩
  refine (Task.ends_ofPlant (Operation.ends_send_write (.setSuppressFlag change.suppress) rfl
    middle)).bind ?_ ?_
  · rintro error after writes ⟨failure, rfl, hrefuses, rfl, rfl⟩
    exact .inr ⟨failure, hmode, hrefuses, rfl, rfl⟩
  · rintro ⟨⟩ after writes ⟨hflag, rfl⟩
    exact Task.ends_pure ⟨rfl, middle, hmode, hflag, rfl⟩

end SystemModeChange

/-! ### The plan for an entity -/

/-- What is planned for the override of an entity; only a wanted override
needs the standing mode. -/
inductive Planned (plant : Simulated) (entity : Entity) :
    Option OverrideRequest → Option OverridePlan → Prop
  | nothing : Planned plant entity none none
  | dropped {request : OverrideRequest} (hwanted : request.wanted = false) :
      Planned plant entity (some request) (some .clear)
  | reconciled {request : OverrideRequest} {device : Device} (hwanted : request.wanted = true)
      (hdevice : plant.device? entity = some device) :
      Planned plant entity (some request) (some (reconcile device.standingMode request))

lemma Planned.exists_request {plant : Simulated} {entity : Entity}
    {request : Option OverrideRequest} {call : OverridePlan}
    (h : Planned plant entity request (some call)) : ∃ asked, request = some asked := by
  cases h <;> exact ⟨_, rfl⟩

/-- A mode is set when it is wanted and is not the standing one. -/
lemma reconcile_eq_set_iff {standing mode : Int64} {request : OverrideRequest} :
    reconcile standing request = .set mode ↔ request = ⟨mode, true⟩ ∧ mode ≠ standing := by
  obtain ⟨asked, wanted⟩ := request
  rw [reconcile]
  split_ifs with h
  · obtain ⟨rfl, hne⟩ := h
    simp only [OverridePlan.set.injEq, OverrideRequest.mk.injEq, and_true]
    refine (and_iff_left_of_imp ?_).symm
    rintro rfl
    exact hne
  · simp only [OverrideRequest.mk.injEq, false_iff]
    rintro ⟨⟨rfl, rfl⟩, hne⟩
    exact h ⟨rfl, hne⟩

/-- An override is planned only where the standing mode is another one. -/
lemma Planned.of_set {plant : Simulated} {entity : Entity} {request : Option OverrideRequest}
    {mode : Int64} (h : Planned plant entity request (some (.set mode))) :
    ∃ device, plant.device? entity = some device ∧ mode ≠ device.standingMode ∧
      request = some ⟨mode, true⟩ := by
  generalize hplan : some (OverridePlan.set mode) = plan at h
  cases h with
  | nothing | dropped => cases hplan
  | @reconciled request device hwanted hdevice =>
    obtain ⟨rfl, hne⟩ := reconcile_eq_set_iff.mp (Option.some.inj hplan).symm
    exact ⟨device, hdevice, hne, rfl⟩

namespace ChangePlan

lemma ends_planOverride (entity : Entity) (request : Option OverrideRequest)
    (plant : Simulated) :
    Task.Ends (planOverride entity request) plant
      (fun plan after writes => after = plant ∧ writes = [] ∧ Planned plant entity request plan)
      fun _ after writes => after = plant ∧ writes = [] := by
  cases request with
  | none => exact Task.ends_pure ⟨rfl, rfl, .nothing⟩
  | some request =>
    simp only [planOverride]
    split
    · next hwanted =>
      refine (Operation.ends_send_read (.standingMode entity) rfl plant).bind ?_ ?_
      · exact fun _ _ _ h => h.2
      · rintro standing after writes ⟨hstanding, rfl, rfl⟩
        obtain ⟨device, hdevice, rfl⟩ := Simulated.exists_device_of_read hstanding
        exact Task.ends_pure ⟨rfl, rfl, .reconciled hwanted hdevice⟩
    · next hwanted => exact Task.ends_pure ⟨rfl, rfl, .dropped (by simpa using hwanted)⟩

/-- Building a plan only reads. -/
lemma ends_build (entity : Entity) (offset : Option Binary64) (request : Option OverrideRequest)
    (plant : Simulated) :
    Task.Ends (build entity offset request) plant
      (fun plan after writes => after = plant ∧ writes = [] ∧ plan.entity = entity ∧
        plan.offset = offset ∧ Planned plant entity request plan.override)
      fun _ after writes => after = plant ∧ writes = [] := by
  refine (ends_planOverride entity request plant).bind (fun _ _ _ h => h) ?_
  rintro plan after writes ⟨rfl, rfl, hplanned⟩
  exact Task.ends_pure ⟨rfl, rfl, rfl, rfl, hplanned⟩

lemma ends_sendOverride (entity : Entity) (call : OverridePlan) (plant : Simulated) :
    Task.Ends (sendOverride entity call) plant
      (fun _ after writes => plant.Accepts (call.operation entity) after ∧
        writes = [⟨plant, call.operation entity⟩])
      fun failure after writes => plant.Refuses (call.operation entity) failure ∧
        after = plant ∧ writes = [] := by
  cases call with
  | set mode => exact Operation.ends_send_write (.setOverride entity mode) rfl plant
  | clear => exact Operation.ends_send_write (.clearOverride entity) rfl plant

/-- Making the calls of a plan that writes the offset. -/
lemma ends_apply {plan : ChangePlan} {offset : Binary64} (hoffset : plan.offset = some offset)
    (plant : Simulated) :
    Task.Ends plan.apply plant
      (fun _ after writes => ∃ middle,
        plant.Accepts (.setOffset plan.entity offset) middle ∧
          ((plan.override = none ∧ after = middle ∧
              writes = [⟨plant, .setOffset plan.entity offset⟩]) ∨
            ∃ call, plan.override = some call ∧
              middle.Accepts (call.operation plan.entity) after ∧
              writes = [⟨plant, .setOffset plan.entity offset⟩,
                ⟨middle, call.operation plan.entity⟩]))
      fun error after writes =>
        (after = plant ∧ writes = [] ∧ ∃ failure, error = .plant failure) ∨
          ∃ call failure, plan.override = some call ∧
            plant.Accepts (.setOffset plan.entity offset) after ∧
            after.Refuses (call.operation plan.entity) failure ∧
            error = .halfDone "set_offset" (call.operation plan.entity).label failure ∧
            writes = [⟨plant, .setOffset plan.entity offset⟩] := by
  unfold apply
  rw [hoffset]
  refine (Task.ends_ofPlant (Operation.ends_send_write (.setOffset plan.entity offset) rfl
    plant)).bind ?_ ?_
  · rintro error after writes ⟨failure, rfl, -, rfl, rfl⟩
    exact .inl ⟨rfl, rfl, failure, rfl⟩
  rintro ⟨⟩ middle writes ⟨haccepts, rfl⟩
  cases hoverride : plan.override with
  | none => exact Task.ends_pure ⟨middle, haccepts, .inl ⟨rfl, rfl, rfl⟩⟩
  | some call =>
    refine (Task.ends_ofPlant (ends_sendOverride plan.entity call middle)).mono ?_ ?_
    · rintro ⟨⟩ after writes ⟨hcall, rfl⟩
      exact ⟨middle, haccepts, .inr ⟨call, rfl, hcall, rfl⟩⟩
    · rintro error after writes ⟨failure, rfl, hrefuses, rfl, rfl⟩
      refine .inr ⟨call, failure, rfl, haccepts, hrefuses, ?_, rfl⟩
      simp [overrideError, hoffset]

end ChangePlan

end HeatingPortal.Plant
