import HeatingPortal.Plant.Bridge
import HeatingPortal.Plant.Simulated
import HeatingPortal.Proofs.JsonText
import HeatingPortal.Proofs.Paths

/-!
# A bridge on a simulated plant

A bridge serves a simulated plant: it finds the call that a request stands for, makes it, and
puts the answer of the plant into a status and a body. The request of a call is understood as
that call, whatever the address of the bridge (`understood_request`), and from what the bridge
delivers the reply is read back, or a failure of the same cause (`answer_delivery`).
-/

namespace HeatingPortal.Plant

open Number Text Wire

/-- A call that writes no number, or a finite one. -/
def Operation.Finite : Operation → Prop
  | .setOffset _ value => value.isFinite = true
  | _ => True

namespace Bridge

/-! ### The bridge -/

/-- What a path below the address of a bridge names. -/
inductive Resource where
  | systemMode
  | suppress
  | temperature (sensor : String)
  | property (collection id name : String)

/-- Why no call is made for a request: the bridge has a bare status for it, or the id or the body
in it cannot be read. -/
inductive Refused where
  | status (code : ℕ)
  | unreadable

/-- The resource of the parts of a path. -/
def resource? : List String → Option Resource
  | [collection, id, name] => some (.property collection id name)
  | [collection, name] =>
    if collection = "runtime" ∧ name = "system_mode" then some .systemMode
    else if collection = "runtime" ∧ name = "suppress" then some .suppress
    else if collection = "temperatures" then some (.temperature name)
    else none
  | _ => none

/-- What is there, or else a refusal. -/
def required {α : Type} (refused : Refused) : Option α → Except Refused α
  | some value => .ok value
  | none => .error refused

/-- The id in a path. -/
def idOf (text : String) : Except Refused Int64 :=
  required .unreadable (int64? text)

/-- The value in a body, if it is of the wanted kind. -/
def bodyOf {α : Type} (wanted : Json → Option α) (body : String) : Except Refused α :=
  required .unreadable ((Json.read? body).bind wanted)

/-- The entity of an id in a collection. -/
def entityOf (collection : String) (id : Int64) : Except Refused Entity :=
  required (.status 404) ((Kind.ofWord? collection).map (Entity.mk · id))

/-- The call that reads a property. -/
def reading? (entity : Entity) : String → Option Operation
  | "name" => some (.name entity)
  | "runmode_orig" => some (.standingMode entity)
  | "runmode" => some (.currentMode entity)
  | "override" => some (.overrideActive entity)
  | "offset" => some (.offset entity)
  | "setpoints" => some (.setpoints entity)
  | "ambient" => some (.hasAmbientSensor entity)
  | _ => none

/-- The call that writes a property. -/
def writing? (entity : Entity) (name : String) (value : Json) : Option Operation :=
  match name, int64Reply? value, numberReply? value with
  | "override", some mode, _ => some (.setOverride entity mode)
  | "offset", _, some offset => some (.setOffset entity offset)
  | _, _, _ => none

/-- The call that a method stands for at a resource. -/
def callAt (resource : Resource) (method body : String) : Except Refused Operation :=
  match resource, method with
  | .systemMode, "GET" => .ok .systemMode
  | .systemMode, "PUT" => .setSystemMode <$> bodyOf byteReply? body
  | .suppress, "GET" => .ok .suppressFlag
  | .suppress, "PUT" => .setSuppressFlag <$> bodyOf boolReply? body
  | .temperature sensor, "GET" => .temperature <$> idOf sensor
  | .property collection id name, "GET" => do
    let entity ← entityOf collection (← idOf id)
    required (.status 404) (reading? entity name)
  | .property collection id name, "PUT" => do
    let id ← idOf id
    let value ← bodyOf some body
    let entity ← entityOf collection id
    required (.status 400) (writing? entity name value)
  | .property collection id name, "DELETE" => do
    let entity ← entityOf collection (← idOf id)
    required (.status 404) (if name = "override" then some (.clearOverride entity) else none)
  | _, _ => .error (.status 405)

/-- The call that a request to the bridge at an address stands for. -/
def understood (base : String) (request : Outgoing) : Except Refused Operation := do
  let below ← required (.status 404)
    ((trimBase base ++ "/").toList.isPrefixOf? request.path.toList)
  let resource ← required (.status 404) (resource? ((pieces '/' below).map String.ofList))
  callAt resource request.method request.body

/-- The document of a reply; the fields of an object stand in the order of their names. -/
def replyJson : (operation : Operation) → operation.Reply → Json
  | .name _, name => .string name
  | .standingMode _, mode | .currentMode _, mode => .integer mode.toInt
  | .overrideActive _, value | .hasAmbientSensor _, value | .suppressFlag, value => .bool value
  | .offset _, value | .temperature _, value => .number value
  | .setpoints _, setpoints =>
    .object
      [("comfort", .number setpoints.comfort), ("current", .number setpoints.current),
       ("eco", .number setpoints.eco), ("frost", .number setpoints.frost),
       ("target", .number setpoints.target)]
  | .systemMode, primary => .integer primary.toNat
  | .setOverride .., () | .clearOverride _, () | .setOffset .., () | .setSystemMode _, ()
  | .setSuppressFlag _, () => .null

/-- What the bridge delivers of an answer of the plant. -/
def delivery (operation : Operation) : Answer operation → Delivery
  | .ok reply => .answered 200 (replyJson operation reply).write
  | .error failure =>
    match failure.cause with
    | .rejected => .answered 400 failure.detail
    | .unavailable | .garbled => .answered 503 failure.message

/-- Serves a request on a simulated plant. What cannot be read is turned away
in words of its own. -/
def serve (turnedAway : Outgoing → Delivery) (base : String) (plant : Simulated)
    (request : Outgoing) : Delivery × Simulated :=
  match understood base request with
  | .ok operation => (delivery operation (plant.answer operation).1, (plant.answer operation).2)
  | .error (.status code) => (.answered code "", plant)
  | .error .unreadable => (turnedAway request, plant)

/-- A call that is sent to the bridge. -/
def call (turnedAway : Outgoing → Delivery) (base : String) (plant : Simulated)
    (operation : Operation) : Answer operation × Simulated :=
  let (delivered, after) := serve turnedAway base plant (request base operation)
  (answer operation delivered, after)

/-! ### Requests -/

/-- The parts of a path to a resource. -/
def Resource.parts : Resource → List String
  | systemMode => ["runtime", "system_mode"]
  | suppress => ["runtime", "suppress"]
  | temperature sensor => ["temperatures", sensor]
  | property collection id name => [collection, id, name]

def Resource.ofEntity (entity : Entity) (name : String) : Resource :=
  .property entity.kind.collection (ofInt64 entity.id) name

/-- The resource of an operation. -/
def resourceOf : Operation → Resource
  | .name e => .ofEntity e "name"
  | .standingMode e => .ofEntity e "runmode_orig"
  | .currentMode e => .ofEntity e "runmode"
  | .overrideActive e | .setOverride e _ | .clearOverride e => .ofEntity e "override"
  | .offset e | .setOffset e _ => .ofEntity e "offset"
  | .setpoints e => .ofEntity e "setpoints"
  | .hasAmbientSensor e => .ofEntity e "ambient"
  | .systemMode | .setSystemMode _ => .systemMode
  | .suppressFlag | .setSuppressFlag _ => .suppress
  | .temperature sensor => .temperature (ofInt64 sensor)

lemma resource?_parts (resource : Resource) : resource? resource.parts = some resource := by
  cases resource <;> simp [Resource.parts, resource?]

lemma path_eq (operation : Operation) :
    (path operation).toList =
      ['/'].intercalate ((resourceOf operation).parts.map String.toList) := by
  cases operation <;>
    simp [path, resourceOf, Resource.ofEntity, Resource.parts, Entity.path, List.intercalate]

lemma slash_not_mem_ofInt64 (id : Int64) : '/' ∉ (ofInt64 id).toList := by
  intro hmem
  have hcode := toNat_of_mem_ofInteger hmem
  simp at hcode

lemma slash_not_mem_parts (operation : Operation) :
    ∀ part ∈ (resourceOf operation).parts.map String.toList, '/' ∉ part := by
  have hcollection (kind : Kind) : '/' ∉ kind.collection.toList := by cases kind <;> decide
  cases operation <;>
    simp [resourceOf, Resource.ofEntity, Resource.parts, hcollection, slash_not_mem_ofInt64]

lemma entityOf_collection (entity : Entity) :
    entityOf entity.kind.collection entity.id = .ok entity := by
  obtain ⟨kind, id⟩ := entity
  cases kind <;> rfl

lemma idOf_ofInt64 (id : Int64) : idOf (ofInt64 id) = .ok id := by
  rw [idOf, int64?, ofInt64, integer?_ofInteger, Option.bind_some, word?_toInt]
  rfl

lemma byteReply?_toNat (byte : UInt8) : byteReply? (.integer byte.toNat) = some byte := by
  have hrange : (0 : ℤ) ≤ byte.toNat ∧ (byte.toNat : ℤ) < 256 := by
    have := byte.toNat_lt
    omega
  rw [byteReply?, if_pos hrange, Int.toNat_natCast, UInt8.ofNat_toNat]

lemma bodyOf_write {α : Type} {wanted : Json → Option α} {json : Json} {value : α}
    (hfinite : json.Finite) (h : wanted json = some value) :
    bodyOf wanted json.write = .ok value := by
  rw [bodyOf, hfinite.read?_write, Option.bind_some, h]
  rfl

section

variable {entity : Entity} {name body : String} {operation : Operation}

lemma callAt_get (h : reading? entity name = some operation) :
    callAt (.ofEntity entity name) "GET" body = .ok operation := by
  simp only [callAt, Resource.ofEntity, idOf_ofInt64, bind, Except.bind, entityOf_collection, h]
  rfl

lemma callAt_put {value : Json} (hfinite : value.Finite)
    (h : writing? entity name value = some operation) :
    callAt (.ofEntity entity name) "PUT" value.write = .ok operation := by
  have hbody : bodyOf some value.write = .ok value := bodyOf_write hfinite rfl
  simp only [callAt, Resource.ofEntity, idOf_ofInt64, hbody, bind, Except.bind,
    entityOf_collection, h]
  rfl

lemma callAt_delete (entity : Entity) (body : String) :
    callAt (.ofEntity entity "override") "DELETE" body = .ok (.clearOverride entity) := by
  simp only [callAt, Resource.ofEntity, idOf_ofInt64, bind, Except.bind, entityOf_collection]
  rfl

end

/-- At its resource, the method and the body of an operation stand for that operation. -/
lemma callAt_resourceOf {operation : Operation} (h : operation.Finite) :
    callAt (resourceOf operation) (method operation) ((written? operation).elim "" Json.write) =
      .ok operation := by
  cases operation with
  | name | standingMode | currentMode | overrideActive | offset | setpoints | hasAmbientSensor =>
    exact callAt_get rfl
  | setOverride entity mode =>
    refine callAt_put (.integer mode.toInt) ?_
    simp [writing?, int64Reply?, word?_toInt]
  | setOffset entity value =>
    refine callAt_put (.number h) ?_
    rfl
  | clearOverride entity => exact callAt_delete entity ""
  | setSystemMode primary =>
    have hbody := bodyOf_write (.integer primary.toNat) (byteReply?_toNat primary)
    exact congrArg (Operation.setSystemMode <$> ·) hbody
  | setSuppressFlag suppress =>
    have hbool : boolReply? (.bool suppress) = some suppress := rfl
    have hbody := bodyOf_write (.bool suppress) hbool
    exact congrArg (Operation.setSuppressFlag <$> ·) hbody
  | temperature sensor => exact congrArg (Operation.temperature <$> ·) (idOf_ofInt64 sensor)
  | systemMode | suppressFlag => rfl

/-- The request of an operation is understood as that operation, whatever the address. -/
theorem understood_request (base : String) {operation : Operation} (h : operation.Finite) :
    understood base (request base operation) = .ok operation := by
  have hbelow : (trimBase base ++ "/").toList.isPrefixOf? (request base operation).path.toList =
      some (path operation).toList := by
    rw [List.isPrefixOf?_eq_some_iff_append_eq]
    simp [request]
  -- No part of the path holds a slash, so cutting it gives back the parts
  -- that it was joined from.
  have hparts : (pieces '/' (path operation).toList).map String.ofList =
      (resourceOf operation).parts := by
    have hne : (resourceOf operation).parts.map String.toList ≠ [] := by
      cases operation <;> simp [resourceOf, Resource.ofEntity, Resource.parts]
    rw [path_eq, pieces_intercalate hne (slash_not_mem_parts operation), List.map_map]
    simp
  simp only [understood, hbelow, required, bind, Except.bind, hparts, resource?_parts]
  exact callAt_resourceOf h

/-! ### Replies -/

/-- The reply of an operation is read back from its document. -/
lemma reply?_replyJson {operation : Operation} (reply : operation.Reply) :
    (writeReply? operation).or (reply? operation (replyJson operation reply)) = some reply := by
  cases operation with
  | standingMode | currentMode => exact Option.none_or.trans (word?_toInt reply)
  | systemMode => exact Option.none_or.trans (byteReply?_toNat reply)
  | setpoints =>
    simp [writeReply?, reply?, replyJson, setpointsReply?, fieldReply?, numberReply?]
  | _ => rfl

/-- A failure as it is told by the bridge: under its status, with its reason or its wording. -/
def relayed (failure : Failure) : Failure :=
  { failure with
    detail := match failure.cause with
      | .rejected => statusDetail 400 failure.detail
      | .unavailable | .garbled => statusDetail 503 failure.message }

/-- An answer that can be delivered: the reply has a document, or the failure is that of the
operation and no garbled answer. -/
structure Deliverable (operation : Operation) (answer : Answer operation) : Prop where
  finite : ∀ reply, answer = .ok reply → (replyJson operation reply).Finite
  failure : ∀ failure, answer = .error failure →
    ∃ cause detail, failure = operation.failure cause detail ∧ cause ≠ .garbled

/-- From what the bridge delivers, the reply is read back, or the failure with its cause. -/
theorem answer_delivery {operation : Operation} {given : Answer operation}
    (h : Deliverable operation given) :
    answer operation (delivery operation given) = given.mapError relayed := by
  cases given with
  | ok reply =>
    have hread := (h.finite reply rfl).read?_write
    have hreply := reply?_replyJson reply
    have hstatus : ¬500 ≤ 200 ∧ ¬400 ≤ 200 := by decide
    rw [delivery, answer, if_neg hstatus.1, if_neg hstatus.2, hread, Option.bind_some, hreply]
    rfl
  | error failure =>
    obtain ⟨cause, detail, rfl, hcause⟩ := h.failure failure rfl
    cases cause with
    | rejected => rfl
    | unavailable => rfl
    | garbled => exact absurd rfl hcause

end Bridge

end HeatingPortal.Plant
