import HeatingPortal.Notice.Backoff
import HeatingPortal.Plant.Simulated
import HeatingPortal.Warning

/-!
# The announcement at startup

When the portal starts it reads the system mode until it succeeds, waiting longer after each
failure, and then publishes it once.
-/

namespace HeatingPortal.Notice

open Plant

/-- The attempts to read the system mode: their numbers in order, the failures of those that
failed, and the mode that was read at last. -/
structure Attempts where
  numbers : List Nat
  failures : List Failure
  composite : Option UInt8
deriving DecidableEq

/-- Reads at one attempt after another, from a given one on, until one succeeds; at
most `limit` of them. -/
def attempts (read : Nat → Except Failure UInt8) (attempt : Nat) : (limit : Nat) → Attempts
  | 0 => ⟨[], [], none⟩
  | limit + 1 =>
    match read attempt with
    | .ok composite => ⟨[attemptNumber attempt], [], some composite⟩
    | .error failure =>
      let later := attempts read (attempt + 1) limit
      ⟨attemptNumber attempt :: later.numbers, failure :: later.failures, later.composite⟩

/-- What the announcement did. -/
structure Announcement where
  attempts : Attempts
  warnings : List Warning
  sink : Recording

/-- Reads the system mode until it succeeds, and publishes it. -/
def announce (read : Nat → Except Failure UInt8) (sink : Recording) (limit : Nat) :
    Announcement :=
  let attempts := attempts read 1 limit
  let warnings := attempts.failures.map Warning.plantNotReachable
  match attempts.composite with
  | none => ⟨attempts, warnings, sink⟩
  | some composite =>
    let (lost, sink) := sink.notify composite
    ⟨attempts, warnings ++ lost, sink⟩

/-! ### Outages -/

/-- An operation that fails until an attempt. -/
structure Outage where
  operation : String
  recoversAt : Nat
deriving DecidableEq

/-- The plant at the attempt of a number: an operation with an outage fails until one of its
outages is over. -/
def plantAt (plant : Simulated) (outages : List Outage) (attempt : Nat) : Simulated :=
  let recovered := outages.filter fun outage => 1 ≤ outage.recoversAt ∧
    outage.recoversAt ≤ attempt
  let failing := outages.foldl (fun plant outage => plant.failOn outage.operation) plant
  recovered.foldl (fun plant outage => plant.recover outage.operation) failing

/-- Reads the system mode of a plant with outages. -/
def readAt (plant : Simulated) (outages : List Outage) (attempt : Nat) : Except Failure UInt8 :=
  ((plantAt plant outages (attemptNumber attempt)).run readSystemMode).1

/-- Enough attempts for every outage to be over. -/
def enoughAttempts (outages : List Outage) : Nat :=
  (outages.map (·.recoversAt)).foldl max 0 + 1

end HeatingPortal.Notice
