import HeatingPortal.Caller.Context
import HeatingPortal.Web.Request
import Mathlib.Tactic.Common

/-!
# What a caller is granted

The context of a request is made of the lists that resolve for its caller, and an entity is
addressed only by an id of its list. A list of the privileged key resolves for nobody but the
caller whose header names the configured administrator.
-/

namespace HeatingPortal

/-! ### Results in sequence -/

section

variable {ε α β : Type} {result : Except ε α} {f : α → Except ε β}

lemma bind_eq_error {error : ε} (h : result >>= f = .error error) :
    result = .error error ∨ ∃ value, result = .ok value ∧ f value = .error error := by
  cases result with
  | error other =>
    cases h
    exact .inl rfl
  | ok value => exact .inr ⟨value, rfl, h⟩

lemma bind_eq_ok {last : β} (h : result >>= f = .ok last) :
    ∃ value, result = .ok value ∧ f value = .ok last := by
  cases result with
  | error error => cases h
  | ok value => exact ⟨value, rfl, h⟩

lemma mapError_eq_ok {δ : Type} {wrap : ε → δ} {value : α}
    (h : result.mapError wrap = .ok value) : result = .ok value := by
  cases result <;> cases h
  rfl

lemma eq_ok_of_toOption {value : α} (h : result.toOption = some value) : result = .ok value := by
  cases result <;> cases h
  rfl

end

namespace Caller

open Settings Plant Web

variable {settings : Settings} {caller : Identity} {kind : Kind} {context : EntityContext}
  {entity : Entity}

/-! ### Contexts -/

lemma demand_eq_ok {α : Type} {pair : KeyPair} {result : Except Fault (Option α)} {value : α}
    (h : demand pair result = .ok value) : result = .ok (some value) := by
  rcases result with fault | _ | other <;> cases h
  rfl

/-- The modes on offer are those that resolve. -/
lemma resolveChoices_of_systemModes {modes : List Choice}
    (h : systemModes settings caller = .ok modes) :
    resolveChoices settings caller .modes = .ok (some modes) :=
  demand_eq_ok h

/-- The lists of a context are those that resolve. -/
lemma resolved_of_context (h : EntityContext.of settings caller kind = .ok context) :
    context.kind = kind ∧
      resolveIds settings caller kind.idKeys = .ok (some context.ids) ∧
      resolveChoices settings caller kind.runModeKeys = .ok context.runModes := by
  obtain ⟨ids, hids, h⟩ := bind_eq_ok h
  obtain ⟨runModes, hmodes, h⟩ := bind_eq_ok h
  cases h
  exact ⟨rfl, demand_eq_ok hids, mapError_eq_ok hmodes⟩

lemma kind_of_read {text : String} (h : Entity.read? kind text = some entity) :
    entity.kind = kind := by
  obtain ⟨id, -, rfl⟩ := Option.map_eq_some_iff.mp h
  rfl

/-- A text addresses the entity whose id it spells, if that is on the list. -/
lemma read_of_address {text : String} (h : context.address text = .ok entity) :
    Entity.read? context.kind text = some entity ∧ entity.id ∈ context.ids := by
  -- The equation of this definition is slow to generate.
  delta EntityContext.address at h
  cases hread : Entity.read? context.kind text with
  | none =>
    rw [hread] at h
    cases h
  | some found =>
    rw [hread] at h
    dsimp only at h
    split at h
    · next hmem =>
      cases h
      exact ⟨rfl, List.contains_iff_mem.mp hmem⟩
    · cases h

/-! ### Tiers -/

/-- The caller that a header names has the text of that header as its name. -/
lemma header?_of_callerOf {headers : List (String × String)} {header name : String}
    (h : (callerOf headers header).name? = some name) : header? headers header = some name := by
  unfold callerOf visibleHeader? at h
  cases hfilter : (header? headers header).filter (·.toList.all isVisible) with
  | none =>
    rw [hfilter] at h
    cases h
  | some text =>
    rw [hfilter] at h
    obtain ⟨hheader, -⟩ := Option.filter_eq_some_iff.mp hfilter
    simp only [Option.elim_some, Identity.ofName] at h
    split at h <;> cases h
    exact hheader

/-- A header whose characters all show names its caller, and without it the
caller is anonymous. -/
lemma callerOf_of_header? {headers : List (String × String)} {header : String}
    {identity : Option String} (h : header? headers header = identity)
    (hvisible : ∀ name ∈ identity, name.toList.all isVisible = true) :
    callerOf headers header = identity.elim .anonymous .ofName := by
  have hkept : visibleHeader? headers header = identity := by
    rw [visibleHeader?, h]
    cases identity with
    | none => rfl
    | some name => exact if_pos (hvisible name rfl)
  rw [callerOf, hkept]

/-- Only the configured administrator is privileged, and nobody whose name is empty. -/
lemma admin_of_privileged (h : Tier.of settings caller = .privileged) :
    ∃ admin, admin ≠ "" ∧ settings.text? adminName = some admin ∧ caller.name? = some admin := by
  unfold Tier.of at h
  split at h
  · next name admin hname hadmin =>
    split at h
    · next heq =>
      obtain ⟨htext, hnonempty⟩ := Option.filter_eq_some_iff.mp hadmin
      refine ⟨admin, ?_, htext, heq ▸ hname⟩
      rintro rfl
      simp at hnonempty
    · cases h
  · cases h

/-- A caller of the standard tier has the value of the standard key. -/
lemma resolve_of_standard (h : Tier.of settings caller = .standard) (pair : KeyPair) :
    resolve settings caller pair =
      (settings.get? pair.standard).map (Resolved.mk · .standard) := by
  simp only [resolve, h]

end Caller

end HeatingPortal
