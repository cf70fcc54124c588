import HeatingPortal.Plant.Program
import HeatingPortal.Plant.Snapshot
import HeatingPortal.Text.JsonReader
import HeatingPortal.Text.Quoted
import HeatingPortal.Wire

/-!
# The bridge to the plant

A bridge makes the plant reachable over HTTP. Reading a property is a `GET` answered by a bare
JSON value, writing is a `PUT` of one, and clearing an override is a `DELETE`. A status from 400
on is a failure: the bridge refused the call, or from 500 on it does not work.
-/

namespace HeatingPortal.Plant.Bridge

open Number Text Wire

/-! ### Requests -/

/-- The path of an operation, relative to the address of the bridge. -/
def path : Operation → String
  | .name e => e.path ++ "/name"
  | .standingMode e => e.path ++ "/runmode_orig"
  | .currentMode e => e.path ++ "/runmode"
  | .overrideActive e | .setOverride e _ | .clearOverride e => e.path ++ "/override"
  | .offset e | .setOffset e _ => e.path ++ "/offset"
  | .setpoints e => e.path ++ "/setpoints"
  | .hasAmbientSensor e => e.path ++ "/ambient"
  | .systemMode | .setSystemMode _ => "runtime/system_mode"
  | .suppressFlag | .setSuppressFlag _ => "runtime/suppress"
  | .temperature sensor => "temperatures/" ++ ofInt64 sensor

/-- The value that an operation writes. -/
def written? : Operation → Option Json
  | .setOverride _ mode => some (.integer mode.toInt)
  | .setOffset _ value => some (.number value)
  | .setSystemMode primary => some (.integer primary.toNat)
  | .setSuppressFlag suppress => some (.bool suppress)
  | _ => none

/-- The method of an operation. -/
def method (operation : Operation) : String :=
  if (written? operation).isSome then "PUT"
  else if operation.isWrite then "DELETE"
  else "GET"

/-- The request of an operation to the bridge at an address. -/
def request (base : String) (operation : Operation) : Outgoing where
  method := method operation
  path := trimBase base ++ "/" ++ path operation
  body := (written? operation).elim "" Json.write

/-! ### Replies -/

/-- A 64-bit integer. -/
def int64Reply? : Json → Option Int64
  | .integer n => word? n
  | _ => none

/-- An integer that fits a byte. -/
def byteReply? : Json → Option UInt8
  | .integer n => if 0 ≤ n ∧ n < 256 then some (UInt8.ofNat n.toNat) else none
  | _ => none

/-- Any number that a finite double is near to. -/
def numberReply? : Json → Option Binary64
  | .integer n => (some (.ofInt n)).filter (·.isFinite)
  | .number value => some value
  | _ => none

/-- A truth value. -/
def boolReply? : Json → Option Bool
  | .bool value => some value
  | _ => none

/-- A text. -/
def textReply? : Json → Option String
  | .string value => some value
  | _ => none

/-- The number of a field that occurs once. -/
def fieldReply? (fields : List (String × Json)) (name : String) : Option Binary64 :=
  match fields.filter (·.1 = name) with
  | [(_, value)] => numberReply? value
  | _ => none

/-- The temperatures, as an object or as an array in order. -/
def setpointsReply? : Json → Option Setpoints
  | .object fields => do
    return ⟨← fieldReply? fields "comfort", ← fieldReply? fields "eco",
      ← fieldReply? fields "frost", ← fieldReply? fields "target",
      ← fieldReply? fields "current"⟩
  | .array [comfort, eco, frost, target, current] => do
    return ⟨← numberReply? comfort, ← numberReply? eco, ← numberReply? frost,
      ← numberReply? target, ← numberReply? current⟩
  | _ => none

/-- The reply that a document is, if it is one of the kind that the operation wants. -/
def reply? : (operation : Operation) → Json → Option operation.Reply
  | .name _ => textReply?
  | .standingMode _ | .currentMode _ => int64Reply?
  | .overrideActive _ | .hasAmbientSensor _ | .suppressFlag => boolReply?
  | .offset _ | .temperature _ => numberReply?
  | .setpoints _ => setpointsReply?
  | .systemMode => byteReply?
  | .setOverride .. | .clearOverride _ | .setOffset .. | .setSystemMode _ | .setSuppressFlag _ =>
    fun _ => some ()

/-- The reply to a write, which does not depend on the body. -/
def writeReply? : (operation : Operation) → Option operation.Reply
  | .setOverride .. | .clearOverride _ | .setOffset .. | .setSystemMode _ | .setSuppressFlag _ =>
    some ()
  | _ => none

/-- The detail of a status: the code, and the body if there is one. -/
def statusDetail (status : Nat) (body : String) : String :=
  let code := "HTTP " ++ ofInteger status
  if body.isEmpty then code else code ++ ": " ++ trim body

/-- The answer to an operation whose request was delivered so. -/
def answer (operation : Operation) : Delivery → Answer operation
  | .lost reason => .error (operation.failure .unavailable reason)
  | .answered status body =>
    if 500 ≤ status then .error (operation.failure .unavailable (statusDetail status body))
    else if 400 ≤ status then .error (operation.failure .rejected (statusDetail status body))
    else
      match (writeReply? operation).or ((Json.read? body).bind (reply? operation)) with
      | some reply => .ok reply
      | none => .error (operation.failure .garbled "unexpected reply")

/-! ### Description -/

/-- A bridge as it is shown to an operator. -/
def summary (base : String) : String :=
  "HttpGateway \x7b base_url: " ++ quoted (trimBase base) ++ " \x7d"

end HeatingPortal.Plant.Bridge
