import HeatingPortal.Proofs.Replay
import HeatingPortal.Proofs.ServedBridge

/-!
# Calls through a bridge

The numbers of a plant stay finite as long as finite ones are written to it, and then every
answer of the plant has a document. So a call through a bridge answers and changes as much as one
made directly (`call_eq`), and a course of calls gives the same replies, fails in the same places
and leaves the same plant behind (`course_refines`).
-/

namespace HeatingPortal.Plant

open Number Text Wire

/-! ### Finite numbers -/

/-- A device whose temperatures are finite. -/
structure Device.Finite (device : Device) : Prop where
  offset : device.offset.isFinite = true
  comfort : device.setpoints.comfort.isFinite = true
  eco : device.setpoints.eco.isFinite = true
  frost : device.setpoints.frost.isFinite = true
  target : device.setpoints.target.isFinite = true
  current : device.setpoints.current.isFinite = true

namespace Simulated

/-- A plant whose numbers are finite. -/
structure Finite (plant : Simulated) : Prop where
  device : ∀ entity device, plant.device? entity = some device → device.Finite
  temperature : ∀ sensor value, plant.temperature? sensor = some value → value.isFinite = true

variable {plant : Simulated}

lemma Finite.modify (h : plant.Finite) (entity : Entity) {change : Device → Device}
    (hchange : ∀ device : Device, device.Finite → (change device).Finite) :
    (plant.modify entity change).Finite := by
  rw [modify_eq]
  refine ⟨fun other device hdevice => ?_, h.temperature⟩
  dsimp only at hdevice
  split at hdevice
  · obtain ⟨before, hbefore, rfl⟩ := Option.map_eq_some_iff.mp hdevice
    exact hchange before (h.device entity before hbefore)
  · exact h.device other device hdevice

/-- A write that is carried out writes no number but a finite one. -/
lemma Finite.written (h : plant.Finite) {operation : Operation} (hoperation : operation.Finite) :
    (plant.written operation).Finite := by
  have hrecord {other : Simulated} (hother : other.Finite) : (other.record operation).Finite :=
    ⟨hother.device, hother.temperature⟩
  cases operation with
  | setOffset entity value =>
    refine hrecord (h.modify entity ?_)
    intro device hdevice
    exact { hdevice with offset := hoperation }
  | setOverride entity | clearOverride entity =>
    refine hrecord (h.modify entity ?_)
    intro device hdevice
    exact { hdevice with }
  | setSystemMode | setSuppressFlag => exact hrecord ⟨h.device, h.temperature⟩
  | _ => exact hrecord h

/-- Whatever happens to a plant, its numbers stay finite. -/
lemma Finite.after (h : plant.Finite) {happening : Happening}
    (hcall : ∀ operation, happening = .call operation → operation.Finite) :
    (plant.after happening).Finite := by
  cases happening with
  | call operation =>
    rw [Simulated.after, answer_snd]
    split
    · exact h.written (hcall operation rfl)
    · exact h
  | failOn | recover => exact ⟨h.device, h.temperature⟩
  | standingMode entity mode =>
    refine h.modify entity ?_
    intro device hdevice
    exact { hdevice with }

lemma isFinite_tenths :
    ∀ n ∈ [0, 70, 75, 100, 170, 195, 200, 205, 450, 520, 550], (tenths n).isFinite = true := by
  decide +kernel

lemma Finite.addEntity (h : plant.Finite) (entity : Entity) (name : String)
    (standingMode : Int64) :
    (plant.addEntity entity name standingMode).Finite := by
  refine ⟨fun other device hdevice => ?_, h.temperature⟩
  rw [Simulated.addEntity, device?_setDevice] at hdevice
  split at hdevice
  · cases hdevice
    constructor
    all_goals
      dsimp only
      exact isFinite_tenths _ (by simp)
  · exact h.device other device hdevice

lemma Finite.addTemperature (h : plant.Finite) (sensor : Int64) {value : Binary64}
    (hvalue : value.isFinite = true) : (plant.addTemperature sensor value).Finite := by
  refine ⟨h.device, fun other reading hreading => ?_⟩
  dsimp only [Simulated.addTemperature] at hreading
  split at hreading
  · cases hreading
    exact hvalue
  · exact h.temperature other reading hreading

lemma Finite.withSystemMode (h : plant.Finite) (primary : UInt8) (suppress : Bool) :
    (plant.withSystemMode primary suppress).Finite :=
  ⟨h.device, h.temperature⟩

lemma finite_demo : demo.Finite := by
  have hempty : empty.Finite := by
    constructor
    · rintro entity device ⟨⟩
    · rintro sensor value ⟨⟩
  have hentities := ((hempty.addEntity ⟨.circuit, 0⟩ "Ground floor" 1).addEntity ⟨.circuit, 1⟩
    "First floor" 1).addEntity ⟨.tank, 0⟩ "Hot water" 1
  have hsensors := (hentities.addTemperature 0 (isFinite_tenths 75 (by simp))).addTemperature 1
    (isFinite_tenths 205 (by simp))
  refine (hsensors.withSystemMode 1 false).modify ⟨.tank, 0⟩ ?_
  intro device hdevice
  constructor
  · exact hdevice.offset
  all_goals
    dsimp only
    exact isFinite_tenths _ (by simp)

end Simulated

namespace Bridge

/-! ### Answers of the plant -/

namespace Deliverable

variable {operation : Operation} {given : Answer operation}

lemma ok {reply : operation.Reply} (h : (replyJson operation reply).Finite) :
    Deliverable operation (.ok reply) := by
  constructor
  · rintro _ ⟨⟩
    exact h
  · rintro failure ⟨⟩

lemma failed {cause : Cause} (hcause : cause ≠ .garbled) (detail : String) :
    Deliverable operation (.error (operation.failure cause detail)) := by
  constructor
  · rintro reply ⟨⟩
  · rintro _ ⟨⟩
    exact ⟨cause, detail, rfl, hcause⟩

lemma guarded (h : Deliverable operation given) (plant : Simulated) :
    Deliverable operation (plant.guarded operation given) := by
  unfold Simulated.guarded
  split
  · exact failed (by simp) _
  · exact h

lemma commit (h : Deliverable operation given) (plant changed : Simulated) :
    Deliverable operation (plant.commit operation given changed).1 := by
  rw [Simulated.commit_fst]
  exact h.guarded plant

lemma read {plant : Simulated} {entity : Entity} {f : Device → operation.Reply}
    (h : ∀ device, plant.device? entity = some device →
      (replyJson operation (f device)).Finite) :
    Deliverable operation (plant.read operation entity f).1 := by
  unfold Simulated.read
  apply guarded
  cases hdevice : plant.device? entity with
  | none => exact failed (by simp) _
  | some device => exact ok (h device hdevice)

lemma write {reply : operation.Reply} (h : (replyJson operation reply).Finite)
    (plant : Simulated) (entity : Entity) (refusal : Option String) (change : Device → Device) :
    Deliverable operation (plant.write operation reply entity refusal change).1 := by
  unfold Simulated.write
  cases plant.device? entity with
  | none => exact (failed (by simp) _).commit plant _
  | some device =>
    cases refusal with
    | none => exact (ok h).commit plant _
    | some reason => exact (failed (by simp) _).commit plant _

end Deliverable

/-- Every answer of a plant whose numbers are finite can be delivered. -/
lemma deliverable_answer {plant : Simulated} (h : plant.Finite) (operation : Operation) :
    Deliverable operation (plant.answer operation).1 := by
  cases operation with
  | name | standingMode | currentMode | overrideActive | hasAmbientSensor =>
    -- Texts, integers and truth values always have a document.
    exact .read fun device _ => by constructor
  | offset entity =>
    exact .read fun device hdevice => .number (h.device entity device hdevice).offset
  | setpoints entity =>
    refine .read fun device hdevice => .object ?_
    obtain ⟨-, hcomfort, heco, hfrost, htarget, hcurrent⟩ := h.device entity device hdevice
    simp only [List.forall_mem_cons]
    exact ⟨.number hcomfort, .number hcurrent, .number heco, .number hfrost,
      .number htarget, by simp⟩
  | setOverride | clearOverride | setOffset => exact .write (by constructor) plant _ _ _
  | systemMode =>
    have hreply : (replyJson .systemMode plant.primary).Finite := .integer _
    exact (Deliverable.ok hreply).guarded plant
  | suppressFlag =>
    have hreply : (replyJson .suppressFlag plant.suppress).Finite := .bool _
    exact (Deliverable.ok hreply).guarded plant
  | setSystemMode primary =>
    have hreply : (replyJson (.setSystemMode primary) ()).Finite := .null
    simp only [Simulated.answer]
    cases Simulated.systemModeRefusal primary with
    | none => exact (Deliverable.ok hreply).commit plant _
    | some reason => exact .commit (.failed (by simp) _) plant _
  | setSuppressFlag suppress =>
    have hreply : (replyJson (.setSuppressFlag suppress) ()).Finite := .null
    exact (Deliverable.ok hreply).commit plant _
  | temperature sensor =>
    apply Deliverable.guarded
    cases htemperature : plant.temperature? sensor with
    | none => exact .failed (by simp) _
    | some value => exact .ok (.number (h.temperature sensor value htemperature))

/-- A call through the bridge is the call itself, with its failure relayed. -/
theorem call_eq (turnedAway : Outgoing → Delivery) (base : String) {plant : Simulated}
    (h : plant.Finite) {operation : Operation} (hoperation : operation.Finite) :
    call turnedAway base plant operation =
      ((plant.answer operation).1.mapError relayed, (plant.answer operation).2) := by
  simp only [call, serve, understood_request base hoperation,
    answer_delivery (deliverable_answer h operation)]

/-! ### Courses -/

/-- The answers of a course of calls, injected failures and schedule changes,
and the plant after it. -/
def course (answer : Simulated → (operation : Operation) → Answer operation × Simulated)
    (plant : Simulated) : List Happening → List (Σ operation, Answer operation) × Simulated
  | [] => ([], plant)
  | .call operation :: rest =>
    let (given, after) := answer plant operation
    let (answers, last) := course answer after rest
    (⟨operation, given⟩ :: answers, last)
  | happening :: rest => course answer (plant.after happening) rest

/-- The same reply to the same call, or failures of one operation, target and cause, which is not
a garbled answer. -/
inductive SameAnswer :
    (Σ operation, Answer operation) → (Σ operation, Answer operation) → Prop
  | ok (operation : Operation) (reply : operation.Reply) :
      SameAnswer ⟨operation, .ok reply⟩ ⟨operation, .ok reply⟩
  | failed (operation : Operation) {cause : Cause}
      (hcause : cause = .rejected ∨ cause = .unavailable) (detail relayed : String) :
      SameAnswer ⟨operation, .error (operation.failure cause detail)⟩
        ⟨operation, .error (operation.failure cause relayed)⟩

lemma Deliverable.sameAnswer {operation : Operation} {given : Answer operation}
    (h : Deliverable operation given) :
    SameAnswer ⟨operation, given⟩ ⟨operation, given.mapError relayed⟩ := by
  cases given with
  | ok reply => exact .ok operation reply
  | error failure =>
    obtain ⟨cause, detail, rfl, hcause⟩ := h.failure failure rfl
    refine .failed operation ?_ detail _
    cases cause <;> simp at hcause ⊢

/-- A course of calls through a bridge gives the answers that it gives when the calls are made
directly, and leaves the same plant behind. -/
theorem course_refines (turnedAway : Outgoing → Delivery) (base : String) {start : Simulated}
    (hstart : start.Finite) {happenings : List Happening}
    (hfinite : ∀ operation, .call operation ∈ happenings → operation.Finite) :
    List.Forall₂ SameAnswer (course Simulated.answer start happenings).1
        (course (call turnedAway base) start happenings).1 ∧
      (course (call turnedAway base) start happenings).2 =
        (course Simulated.answer start happenings).2 := by
  induction happenings generalizing start with
  | nil =>
    simp only [course, and_true]
    exact .nil
  | cons happening rest ih =>
    have hrest : ∀ operation, .call operation ∈ rest → operation.Finite :=
      fun operation hmem => hfinite operation (List.mem_cons_of_mem _ hmem)
    have hnext : (start.after happening).Finite := by
      refine hstart.after ?_
      rintro operation rfl
      exact hfinite operation List.mem_cons_self
    cases happening with
    | call operation =>
      -- Both courses go on from the plant after the call, which is the same for the two of them.
      have hafter : start.after (.call operation) = (start.answer operation).2 := rfl
      rw [hafter] at hnext
      obtain ⟨hanswers, hlast⟩ := ih hnext hrest
      have hcall := call_eq turnedAway base hstart (hfinite operation List.mem_cons_self)
      simp only [course, hcall]
      exact ⟨.cons (deliverable_answer hstart operation).sameAnswer hanswers, hlast⟩
    | failOn | recover | standingMode =>
      simp only [course]
      exact ih hnext hrest

/-- A name, a run mode out of range, an entity that is not there, an offset that is made to fail
and one that is not, and what is read afterwards. -/
theorem course_refines_demo :
    let entity : Entity := ⟨.circuit, 0⟩
    let happenings : List Happening :=
      [.call (.name entity), .call (.setOverride entity 7), .call (.setpoints ⟨.tank, 9⟩),
        .failOn "set_offset", .call (.setOffset entity (Simulated.tenths 75)),
        .recover "set_offset", .call (.setOffset entity (Simulated.tenths 195)),
        .call (.offset entity), .call (.temperature 1)]
    let bridged :=
      course (call (fun _ => .answered 422 "") "http://localhost:9000/") .demo happenings
    bridged.2.calls = [.setOffset entity (Simulated.tenths 195)] ∧
      List.Forall₂ SameAnswer (course Simulated.answer .demo happenings).1 bridged.1 := by
  intro entity happenings bridged
  have hfinite : ∀ operation, .call operation ∈ happenings → operation.Finite := by
    intro operation hmem
    simp only [happenings, List.mem_cons, Happening.call.injEq, reduceCtorEq, false_or,
      List.not_mem_nil, or_false] at hmem
    rcases hmem with rfl | rfl | rfl | rfl | rfl | rfl | rfl
    case inr.inr.inr.inl => exact Simulated.isFinite_tenths _ (by simp)
    case inr.inr.inr.inr.inl => exact Simulated.isFinite_tenths _ (by simp)
    all_goals trivial
  obtain ⟨hanswers, hlast⟩ :=
    course_refines (fun _ => .answered 422 "") "http://localhost:9000/"
      Simulated.finite_demo hfinite
  have hbehind : bridged.2 = (course Simulated.answer .demo happenings).2 := hlast
  have hcalls : (course Simulated.answer .demo happenings).2.calls =
      [.setOffset entity (Simulated.tenths 195)] := by
    decide +kernel
  rw [hbehind]
  exact ⟨hcalls, hanswers⟩

end Bridge

end HeatingPortal.Plant
