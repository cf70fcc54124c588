import HeatingPortal.Proofs.OneDecimal
import HeatingPortal.Proofs.ReadBack

/-!
# Sending a form back

A form can be sent back as it was shown: every field that may be edited with a text for the value
that it shows. What was shown of a number is a decimal again, what was shown of a mode its code,
and a checkbox is ticked or not. So whether the form accepts that submission is decided by what
it showed: by a finite offset, and by a mode that is on offer.
-/

namespace HeatingPortal.Form

open Number Plant Settings Text Web

variable {submission texts : Texts} {form : Form} {rejections : Rejections} {values : Values}
  {kind : Kind} {runModes : Option (List Choice)} {modes : List Choice} {snapshot : Snapshot}
  {composite : UInt8}

/-! ### Texts for what is shown -/

/-- A text, or none, that stands for what a field shows. -/
def Shown.SentAs (raw : Option String) : Shown → Prop
  | nothing => raw = none
  | text value => raw = some value
  | code value => raw = some (ofInt64 value)
  | ticked value => checkCheckbox raw = value

instance (raw : Option String) : (shown : Shown) → Decidable (shown.SentAs raw)
  | .nothing => inferInstanceAs (Decidable (raw = none))
  | .text value => inferInstanceAs (Decidable (raw = some value))
  | .code value => inferInstanceAs (Decidable (raw = some (ofInt64 value)))
  | .ticked value => inferInstanceAs (Decidable (checkCheckbox raw = value))

/-- A submission sends a filled form back as it is shown, in all fields that may be edited. -/
def Filled.SentBack (filled : Filled) (submission : Texts) : Prop :=
  ∀ field ∈ filled.fields, field.field.kind.isEditable = true →
    field.value.SentAs (submission.get? field.field.key)

instance (filled : Filled) (submission : Texts) : Decidable (filled.SentBack submission) :=
  inferInstanceAs (Decidable (∀ field ∈ filled.fields, _))

namespace Filled.SentBack

lemma sentAs {key : String} {field : Field} {shown : Shown}
    (h : (form.fill texts rejections).SentBack submission)
    (hfind : form.fields.find? (·.key = key) = some field)
    (heditable : field.kind.isEditable = true)
    (hshown : (form.fill texts rejections).shown? key = some shown) :
    shown.SentAs (submission.get? key) := by
  have hkey : field.key = key := by simpa using List.find?_some hfind
  have hsent := h (field.fill texts rejections)
    (List.mem_map_of_mem (List.mem_of_find?_eq_some hfind)) heditable
  rw [shown?_fill texts rejections hfind, Option.some.injEq] at hshown
  rw [← hshown, ← hkey]
  exact hsent

lemma offset
    (h : ((Form.entity kind runModes).fill (entityTexts snapshot) []).SentBack submission) :
    submission.get? offsetKey = some snapshot.offset.oneDecimal :=
  h.sentAs rfl rfl (shown?_offset kind runModes snapshot)

lemma runMode
    (h : ((Form.entity kind (some modes)).fill (entityTexts snapshot) []).SentBack submission) :
    submission.get? runModeKey = some (ofInt64 snapshot.currentMode) :=
  h.sentAs rfl rfl (shown?_runMode kind modes snapshot)

lemma override
    (h : ((Form.entity kind (some modes)).fill (entityTexts snapshot) []).SentBack submission) :
    checkCheckbox (submission.get? overrideKey) = snapshot.overrideActive :=
  h.sentAs rfl rfl (shown?_override kind modes snapshot)

lemma mode (h : ((Form.system modes).fill (systemTexts composite) []).SentBack submission)
    {code : Int64} (hcode : code.toInt = (primaryOf composite).toNat) :
    submission.get? modeKey = some (ofInt64 code) :=
  h.sentAs rfl rfl (shown?_mode modes hcode)

lemma suppress (h : ((Form.system modes).fill (systemTexts composite) []).SentBack submission) :
    checkCheckbox (submission.get? suppressKey) = suppressOf composite :=
  h.sentAs rfl rfl (shown?_suppress modes composite)

end Filled.SentBack

/-! ### Acceptance -/

lemma exists_validate_iff :
    (∃ values, form.validate submission = .ok values) ↔
      ∀ field ∈ form.fields, field.rejection? submission = none := by
  simp [validate_eq_ok_iff]

/-- The form of an entity wants a decimal and, where run modes are on offer, one of them. -/
lemma exists_validate_entity_iff :
    (∃ values, (Form.entity kind runModes).validate submission = .ok values) ↔
      (∃ offset, checkDecimal (submission.get? offsetKey) = .ok offset) ∧
        ∀ modes, runModes = some modes →
          ∃ code, checkChoice (submission.get? runModeKey) modes = .ok code := by
  rw [exists_validate_iff]
  cases runModes <;> simp [Form.entity, runModeFields, rejection?_decimal_eq_none_iff,
    rejection?_choice_eq_none_iff]

/-- The form of the system mode wants a mode on offer. -/
lemma exists_validate_system_iff :
    (∃ values, (Form.system modes).validate submission = .ok values) ↔
      ∃ code, checkChoice (submission.get? modeKey) modes = .ok code := by
  rw [exists_validate_iff]
  simp [Form.system, rejection?_choice_eq_none_iff]

/-- The code of a mode is accepted when the mode is on offer. -/
lemma checkChoice_ofInt64_eq_ok_iff {code found : Int64} :
    checkChoice (some (ofInt64 code)) modes = .ok found ↔
      found = code ∧ ∃ choice ∈ modes, choice.code = code := by
  rw [checkChoice_eq_ok_iff, Option.getD_some, trimmedInt64?_ofInt64, Option.some.injEq, eq_comm]
  refine and_congr_right ?_
  rintro rfl
  exact Iff.rfl

/-- The form of an entity accepts what it showed when the offset was finite and the mode is one
of those on offer, if any are. -/
lemma exists_validate_entity_sentBack_iff
    (h : ((Form.entity kind runModes).fill (entityTexts snapshot) []).SentBack submission) :
    (∃ values, (Form.entity kind runModes).validate submission = .ok values) ↔
      snapshot.offset.isFinite = true ∧ ∀ modes, runModes = some modes →
        ∃ choice ∈ modes, choice.code = snapshot.currentMode := by
  rw [exists_validate_entity_iff, h.offset]
  refine and_congr ?_ (forall_congr' fun modes => ?_)
  · simp only [checkDecimal_oneDecimal_eq_ok_iff, exists_and_left]
    refine and_iff_left_of_imp fun hfinite => ?_
    obtain ⟨read, hread, -⟩ := Binary64.exists_ofPlainDecimal?_oneDecimal hfinite
    exact ⟨read, hread⟩
  · refine imp_congr_right ?_
    rintro rfl
    simp [h.runMode, checkChoice_ofInt64_eq_ok_iff]

/-- A primary mode is the code of a mode. -/
lemma exists_code (composite : UInt8) :
    ∃ code : Int64, code.toInt = (primaryOf composite).toNat := by
  have hbyte := (primaryOf composite).toNat_lt
  exact ⟨.ofInt (primaryOf composite).toNat, Int64.toInt_ofInt_of_le (by omega) (by omega)⟩

/-- The form of the system mode accepts what it showed when the mode is on offer. -/
lemma exists_validate_system_sentBack_iff
    (h : ((Form.system modes).fill (systemTexts composite) []).SentBack submission) :
    (∃ values, (Form.system modes).validate submission = .ok values) ↔
      ∃ choice ∈ modes, choice.code.toInt = (primaryOf composite).toNat := by
  obtain ⟨code, hcode⟩ := exists_code composite
  rw [exists_validate_system_iff, h.mode hcode]
  simp only [checkChoice_ofInt64_eq_ok_iff, exists_eq_left, ← hcode, Int64.toInt_inj]

/-! ### What is asked for -/

/-- Sent back, the form of an entity asks for the offset that its text spells and, where run
modes are on offer, for the mode and the override that it showed. -/
lemma asked_of_sentBack
    (h : ((Form.entity kind runModes).fill (entityTexts snapshot) []).SentBack submission)
    (hvalues : (Form.entity kind runModes).validate submission = .ok values) :
    ∃ offset, values.decimal? offsetKey = some offset ∧
      Binary64.ofPlainDecimal? snapshot.offset.oneDecimal = some offset ∧
      overrideRequest? values =
        runModes.map fun _ => ⟨snapshot.currentMode, snapshot.overrideActive⟩ := by
  cases runModes with
  | none =>
    obtain ⟨offset, hoffset, rfl⟩ := values_of_entity_none hvalues
    rw [h.offset] at hoffset
    exact ⟨offset, rfl, (checkDecimal_oneDecimal_eq_ok_iff.mp hoffset).2, rfl⟩
  | some modes =>
    obtain ⟨offset, mode, hoffset, hmode, rfl⟩ := values_of_entity_some hvalues
    rw [h.offset] at hoffset
    rw [h.runMode] at hmode
    obtain ⟨rfl, -⟩ := checkChoice_ofInt64_eq_ok_iff.mp hmode
    refine ⟨offset, rfl, (checkDecimal_oneDecimal_eq_ok_iff.mp hoffset).2, ?_⟩
    rw [← h.override]
    rfl

/-- Sent back, the form of the system mode asks for the byte that it showed. -/
lemma exists_modeChange_of_sentBack
    (h : ((Form.system modes).fill (systemTexts composite) []).SentBack submission)
    (hvalues : (Form.system modes).validate submission = .ok values) :
    ∃ change, modeChange values = .ok change ∧ change.composite = composite := by
  obtain ⟨code, hcode⟩ := exists_code composite
  obtain ⟨found, hfound, rfl⟩ := values_of_system hvalues
  rw [h.mode hcode] at hfound
  obtain ⟨rfl, -⟩ := checkChoice_ofInt64_eq_ok_iff.mp hfound
  have hbits : (primaryOf composite).toNat < 128 := by
    rw [primaryOf, UInt8.toNat_mod]
    exact Nat.mod_lt _ (by decide)
  have hrange : 0 ≤ found.toInt ∧ found.toInt ≤ 127 := by omega
  refine ⟨_, if_pos hrange, ?_⟩
  calc compose (.ofNat found.toInt.toNat) (checkCheckbox (submission.get? suppressKey))
      = compose (primaryOf composite) (suppressOf composite) := by
        rw [h.suppress, hcode, Int.toNat_natCast, UInt8.ofNat_toNat]
    _ = composite := compose_primaryOf_suppressOf composite

end HeatingPortal.Form
