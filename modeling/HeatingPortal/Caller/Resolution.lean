import HeatingPortal.Caller.Identity
import HeatingPortal.Error

/-!
# Resolving settings for a caller

A privileged caller gets the value of the privileged key unless it is missing or
empty, and otherwise, like everybody else, the value of the standard key. Nothing
means that the feature is off.
-/

namespace HeatingPortal.Caller

open Settings

/-- A value for a caller, and the tier of the key it comes from. -/
structure Resolved where
  value : Value
  source : Tier
deriving DecidableEq

/-- The value of a pair for a caller. -/
def resolve (settings : Settings) (caller : Identity) (pair : KeyPair) : Option Resolved :=
  let standard := (settings.get? pair.standard).map (Resolved.mk · .standard)
  match Tier.of settings caller with
  | .standard => standard
  | .privileged =>
    match (settings.get? pair.privileged).filter (!·.isEmpty) with
    | some value => some ⟨value, .privileged⟩
    | none => standard

/-- The value of a pair for a caller, as what the pair is for. -/
def resolveAs {α : Type} (read? : Value → Option α) (fault : String → Fault)
    (settings : Settings) (caller : Identity) (pair : KeyPair) : Except Fault (Option α) :=
  match resolve settings caller pair with
  | none => .ok none
  | some resolved =>
    match read? resolved.value with
    | some value => .ok (some value)
    | none => .error (fault (resolved.source.key pair))

/-- The choices of a pair for a caller. -/
def resolveChoices : Settings → Identity → KeyPair → Except Fault (Option (List Choice)) :=
  resolveAs Value.choices? .resolvedNoChoices

/-- The ids of a pair for a caller. -/
def resolveIds : Settings → Identity → KeyPair → Except Fault (Option (List Int64)) :=
  resolveAs Value.ids? .resolvedNoIds

end HeatingPortal.Caller
