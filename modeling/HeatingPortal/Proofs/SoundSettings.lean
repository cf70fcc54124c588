import HeatingPortal.Proofs.Contexts
import HeatingPortal.Proofs.Submissions
import HeatingPortal.Settings.Load
import HeatingPortal.Web.SystemMode

/-!
# Sound settings

Settings that pass the check hold under every known key what the key is for. Whatever a caller
resolves to under such settings can therefore be read, for both tiers, and a mode that a form
accepted fits the byte of the system mode.
-/

namespace HeatingPortal

open Settings

/-- Settings that hold under each key of a pair what the pair is for. -/
structure Settings.Sound (settings : Settings) : Prop where
  choices : ∀ pair ∈ KeyPair.choicePairs, ∀ key ∈ pair.keys, ∀ value,
    settings.get? key = some value → ∃ choices, value.choices? = some choices
  ids : ∀ pair ∈ KeyPair.idPairs, ∀ key ∈ pair.keys, ∀ value,
    settings.get? key = some value → ∃ ids, value.ids? = some ids
  modes : ∀ key ∈ KeyPair.modes.keys, ∀ value choices, settings.get? key = some value →
    value.choices? = some choices → ∀ choice ∈ choices, isModeCode choice.code = true

namespace Settings

variable {settings : Settings} {key : String}

/-! ### Passing the check -/

lemma forM_eq_ok {ε δ : Type} {f : δ → Except ε Unit} {items : List δ}
    (h : items.forM f = .ok ()) : ∀ item ∈ items, f item = .ok () := by
  induction items with
  | nil => simp
  | cons item rest ih =>
    obtain ⟨⟨⟩, hitem, hrest⟩ := bind_eq_ok h
    simp only [List.forall_mem_cons]
    exact ⟨hitem, ih hrest⟩

lemma fits_of_require {fits : Value → Bool} {fault : String → Fault}
    (h : settings.require fits fault key = .ok ()) {value : Value}
    (hvalue : settings.get? key = some value) : fits value = true := by
  rw [require, hvalue] at h
  by_contra hfits
  simp only [if_neg hfits] at h
  cases h

lemma isModeCode_of_requireModeCodes (h : settings.requireModeCodes key = .ok ()) {value : Value}
    {choices : List Choice} (hvalue : settings.get? key = some value)
    (hchoices : value.choices? = some choices) :
    ∀ choice ∈ choices, isModeCode choice.code = true := by
  rw [requireModeCodes, hvalue, Option.bind_some, hchoices, Option.getD_some] at h
  cases hfind : choices.find? (!isModeCode ·.code) with
  | none => simpa using hfind
  | some choice =>
    rw [hfind] at h
    cases h

lemma sound_of_check (h : settings.check = .ok ()) : settings.Sound := by
  rw [check] at h
  split_ifs at h with hversion
  · cases h
  obtain ⟨⟨⟩, -, h⟩ := bind_eq_ok h
  obtain ⟨⟨⟩, hchoices, h⟩ := bind_eq_ok h
  obtain ⟨⟨⟩, hmodes, hids⟩ := bind_eq_ok h
  constructor
  · intro pair hpair key hkey value hvalue
    have hrequired := forM_eq_ok hchoices key (List.mem_flatMap.mpr ⟨pair, hpair, hkey⟩)
    exact Option.isSome_iff_exists.mp (fits_of_require hrequired hvalue)
  · intro pair hpair key hkey value hvalue
    have hrequired := forM_eq_ok hids key (List.mem_flatMap.mpr ⟨pair, hpair, hkey⟩)
    exact Option.isSome_iff_exists.mp (fits_of_require hrequired hvalue)
  · intro key hkey value choices hvalue hread
    exact isModeCode_of_requireModeCodes (forM_eq_ok hmodes key hkey) hvalue hread

lemma sound_of_ofKdl {document : Kdl.Document} (h : ofKdl document = .ok settings) :
    settings.Sound := by
  obtain ⟨loading, -, h⟩ := bind_eq_ok h
  obtain ⟨⟨⟩, hcheck, h⟩ := bind_eq_ok h
  cases h
  exact sound_of_check hcheck

/-- Settings are loaded where their version and their entries are. -/
lemma eq_ok_of_parts {result : Except Fault Settings}
    (h : result.toOption.map (fun loaded => (loaded.version, loaded.entries)) =
      some (settings.version, settings.entries)) : result = .ok settings := by
  obtain ⟨⟨version, entries⟩, hloaded, hparts⟩ := Option.map_eq_some_iff.mp h
  obtain ⟨rfl, rfl⟩ := Prod.mk.inj hparts
  exact eq_ok_of_toOption hloaded

end Settings

/-! ### Resolving -/

namespace Caller

variable {settings : Settings} {caller : Identity} {pair : KeyPair}

/-- What a caller resolves to is the value of one of the two keys. -/
lemma exists_key_of_resolve {resolved : Resolved}
    (h : resolve settings caller pair = some resolved) :
    ∃ key ∈ pair.keys, settings.get? key = some resolved.value := by
  -- Both tiers may end at the standard key, since a privileged caller falls back to it.
  have hstandard (hmap : (settings.get? pair.standard).map (Resolved.mk · .standard) =
      some resolved) : ∃ key ∈ pair.keys, settings.get? key = some resolved.value := by
    obtain ⟨value, hvalue, rfl⟩ := Option.map_eq_some_iff.mp hmap
    exact ⟨pair.standard, by simp [KeyPair.keys], hvalue⟩
  unfold resolve at h
  split at h
  · exact hstandard h
  · split at h
    · next value hfilter =>
      cases h
      obtain ⟨hvalue, -⟩ := Option.filter_eq_some_iff.mp hfilter
      exact ⟨pair.privileged, by simp [KeyPair.keys], hvalue⟩
    · exact hstandard h

lemma exists_resolveAs {α : Type} {read? : Value → Option α} (fault : String → Fault)
    (hread : ∀ key ∈ pair.keys, ∀ value, settings.get? key = some value →
      ∃ result, read? value = some result) (caller : Identity) :
    ∃ result, resolveAs read? fault settings caller pair = .ok result := by
  unfold resolveAs
  cases hresolved : resolve settings caller pair with
  | none => exact ⟨none, rfl⟩
  | some resolved =>
    obtain ⟨key, hkey, hvalue⟩ := exists_key_of_resolve hresolved
    obtain ⟨result, hresult⟩ := hread key hkey resolved.value hvalue
    exact ⟨some result, by simp only [hresult]⟩

/-- A list that resolves is what the value of one of the two keys reads as. -/
lemma exists_key_of_resolveAs {α : Type} {read? : Value → Option α} {fault : String → Fault}
    {result : α} (h : resolveAs read? fault settings caller pair = .ok (some result)) :
    ∃ key ∈ pair.keys, ∃ value, settings.get? key = some value ∧ read? value = some result := by
  unfold resolveAs at h
  cases hresolved : resolve settings caller pair with
  | none =>
    rw [hresolved] at h
    cases h
  | some resolved =>
    obtain ⟨key, hkey, hvalue⟩ := exists_key_of_resolve hresolved
    refine ⟨key, hkey, resolved.value, hvalue, ?_⟩
    rw [hresolved] at h
    dsimp only at h
    cases hread : read? resolved.value with
    | none =>
      rw [hread] at h
      cases h
    | some value =>
      rw [hread] at h
      cases h
      rfl

end Caller

namespace Settings.Sound

open Caller Form Plant Web

variable {settings : Settings} {pair : KeyPair}

lemma exists_choices (h : settings.Sound) (hpair : pair ∈ KeyPair.choicePairs)
    (caller : Identity) :
    ∃ choices, resolveChoices settings caller pair = .ok choices :=
  exists_resolveAs .resolvedNoChoices (h.choices pair hpair) caller

lemma exists_ids (h : settings.Sound) (hpair : pair ∈ KeyPair.idPairs) (caller : Identity) :
    ∃ ids, resolveIds settings caller pair = .ok ids :=
  exists_resolveAs .resolvedNoIds (h.ids pair hpair) caller

lemma isModeCode {caller : Identity} {modes : List Choice} (h : settings.Sound)
    (hmodes : systemModes settings caller = .ok modes) :
    ∀ choice ∈ modes, isModeCode choice.code = true := by
  obtain ⟨key, hkey, value, hvalue, hread⟩ :=
    exists_key_of_resolveAs (resolveChoices_of_systemModes hmodes)
  exact h.modes key hkey value modes hvalue hread

/-- The values that the form of the system mode accepts hold a code, and
one that fits its byte. -/
lemma exists_change {caller : Identity} {modes : List Choice} {submission : Texts}
    {values : Values} (h : settings.Sound) (hmodes : systemModes settings caller = .ok modes)
    (hvalues : (Form.system modes).validate submission = .ok values) :
    ∃ code change, values.choice? modeKey = some code ∧
      SystemModeChange.ofCode code (values.isChecked suppressKey) = .ok change := by
  obtain ⟨code, hcode, rfl⟩ := values_of_system hvalues
  obtain ⟨choice, hmem, rfl⟩ := exists_choice_of_checkChoice hcode
  have hrange := h.isModeCode hmodes choice hmem
  simp only [Settings.isModeCode, Bool.and_eq_true, decide_eq_true_eq] at hrange
  exact ⟨choice.code, _, rfl, if_pos hrange⟩

end Settings.Sound

end HeatingPortal
