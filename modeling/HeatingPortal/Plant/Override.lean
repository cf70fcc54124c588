import HeatingPortal.Error
import HeatingPortal.Plant.Program

/-!
# Overrides

A submission for an entity becomes the fewest calls that bring it about. Asking for the standing
mode clears the override, so that an override never shows the mode that holds anyway.
-/

namespace HeatingPortal.Plant

open Number

/-- What a submission asks of the override. -/
structure OverrideRequest where
  mode : Int64
  /-- Whether the mode is to override the standing one. -/
  wanted : Bool
deriving DecidableEq

/-- The one call that brings about what is asked of the override. -/
inductive OverridePlan where
  | set (mode : Int64)
  | clear
deriving DecidableEq

/-- The plan for an entity of a known standing mode. -/
def reconcile (standing : Int64) (request : OverrideRequest) : OverridePlan :=
  if request.wanted ∧ request.mode ≠ standing then .set request.mode else .clear

/-- The call of a plan. -/
def OverridePlan.operation (entity : Entity) : OverridePlan → Operation
  | set mode => .setOverride entity mode
  | clear => .clearOverride entity

/-- The calls for a submission: the offset first, then the override. -/
structure ChangePlan where
  entity : Entity
  offset : Option Binary64
  override : Option OverridePlan
deriving DecidableEq

namespace ChangePlan

/-- Plans the override; only one that is wanted depends on the standing mode, which is read. -/
def planOverride (entity : Entity) : Option OverrideRequest → Task Failure (Option OverridePlan)
  | none => return none
  | some request => do
    if request.wanted then
      let standing ← (Operation.standingMode entity).send
      return some (reconcile standing request)
    else
      return some .clear

/-- Plans a submission. -/
def build (entity : Entity) (offset : Option Binary64) (request : Option OverrideRequest) :
    Task Failure ChangePlan := do
  return ⟨entity, offset, ← planOverride entity request⟩

/-- The error of a failing override call: the offset may have been written before. -/
def overrideError (plan : ChangePlan) (call : OverridePlan) (failure : Failure) : Error :=
  if plan.offset.isSome then .halfDone "set_offset" (call.operation plan.entity).label failure
  else .plant failure

/-- The call of an override plan, whose reply says nothing. -/
def sendOverride (entity : Entity) : OverridePlan → Task Failure Unit
  | .set mode => (Operation.setOverride entity mode).send
  | .clear => (Operation.clearOverride entity).send

/-- Makes the calls of a plan. -/
def apply (plan : ChangePlan) : Task Error Unit := do
  if let some offset := plan.offset then
    (Operation.setOffset plan.entity offset).send.ofPlant .plant
  if let some call := plan.override then
    (sendOverride plan.entity call).ofPlant (plan.overrideError call)

end ChangePlan

end HeatingPortal.Plant
