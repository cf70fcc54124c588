import HeatingPortal.Plant.Entity

/-!
# Failures of the plant

A call to the plant fails with the operation, what it was aimed at, and why. Only an unavailable
plant is worth another try.
-/

namespace HeatingPortal.Plant

/-- What a call is aimed at. -/
inductive Target where
  | entity (entity : Entity)
  | runtime
  | sensor (id : Int64)
deriving DecidableEq

/-- The target in words. -/
def Target.describe : Target → String
  | entity e => e.describe
  | runtime => "runtime"
  | sensor id => "sensor " ++ Text.ofInt64 id

/-- Why a call failed. -/
inductive Cause where
  /-- The plant could not be reached or did not work. -/
  | unavailable
  /-- The plant refused the call. -/
  | rejected
  /-- The plant answered something that cannot be read. -/
  | garbled
deriving DecidableEq

/-- The words for a cause. -/
def Cause.words : Cause → String
  | unavailable => "service unavailable"
  | rejected => "rejected"
  | garbled => "protocol error"

/-- A failed call. -/
structure Failure where
  operation : String
  target : Target
  cause : Cause
  detail : String
deriving DecidableEq

/-- The wording of a failure. -/
def Failure.message (failure : Failure) : String :=
  s!"{failure.operation} on {failure.target.describe}: {failure.cause.words}: {failure.detail}"

end HeatingPortal.Plant
