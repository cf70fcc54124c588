import HeatingPortal.Settings.Document

/-!
# Callers and tiers

A caller is anonymous or has a name that is not empty. The caller whose name is the configured
administrator's has the privileged tier, and every other caller the standard one.
-/

namespace HeatingPortal.Caller

/-- Who makes a request. -/
inductive Identity where
  | anonymous
  | named (name : String)
deriving DecidableEq

namespace Identity

/-- The caller of a given name; nobody has the empty name. -/
def ofName (name : String) : Identity :=
  if name.isEmpty then anonymous else named name

/-- The name of a caller who has one. -/
def name? : Identity → Option String
  | anonymous => none
  | named name => some name

/-- The caller in words. -/
def describe : Identity → String
  | anonymous => "<anonymous>"
  | named name => name

end Identity

/-- Which of the two keys of a setting applies first. -/
inductive Tier where
  | privileged
  | standard
deriving DecidableEq

namespace Tier

/-- The name of a tier. -/
def word : Tier → String
  | privileged => "privileged"
  | standard => "standard"

/-- The tier of a caller: an empty or missing administrator's name is nobody's. -/
def of (settings : Settings) (caller : Identity) : Tier :=
  match caller.name?, settings.nonemptyText? Settings.adminName with
  | some name, some admin => if name = admin then privileged else standard
  | _, _ => standard

/-- The key of a pair for a tier. -/
def key (tier : Tier) (pair : Settings.KeyPair) : String :=
  match tier with
  | privileged => pair.privileged
  | standard => pair.standard

end Tier

end HeatingPortal.Caller
