import HeatingPortal.Form.Check
import HeatingPortal.Plant.Override
import HeatingPortal.Web.Entities
import HeatingPortal.Web.SystemMode
import Mathlib.Tactic.Common

/-!
# Accepted submissions

A form accepts a submission when each of its editable fields accepts the text under its
own key. For the two kinds of forms this determines the accepted values, and with them
what is asked of the plant: a mode on offer, a decimal offset, and an override exactly
where run modes are on offer.
-/

namespace HeatingPortal.Form

open Settings Plant Web Number

/-! ### Single fields -/

/-- A choice is accepted when its text spells the code of a choice on offer; a text that is not
there is read as the empty one, which spells nothing. -/
lemma checkChoice_eq_ok_iff {raw : Option String} {choices : List Choice} {code : Int64} :
    checkChoice raw choices = .ok code ↔
      Text.trimmedInt64? (raw.getD "") = some code ∧ ∃ choice ∈ choices, choice.code = code := by
  simp only [checkChoice, Text.trimmedInt64?]
  generalize Text.trim (raw.getD "") = text
  split_ifs with hchoices hempty
  · simp [List.isEmpty_iff.mp hchoices]
  · have hread : Text.int64? "" = none := by decide
    simp [String.isEmpty_iff.mp hempty, hread]
  · cases Text.int64? text with
    | none => simp
    | some found =>
      dsimp only
      by_cases hoffered : choices.any (·.code = found) = true
      · rw [if_pos hoffered, Except.ok.injEq, Option.some.injEq, iff_self_and]
        rintro rfl
        simpa using hoffered
      · rw [if_neg hoffered]
        simp only [reduceCtorEq, Option.some.injEq, false_iff, not_and]
        rintro rfl
        simpa using hoffered

lemma exists_choice_of_checkChoice {raw : Option String} {choices : List Choice} {code : Int64}
    (h : checkChoice raw choices = .ok code) : ∃ choice ∈ choices, choice.code = code :=
  (checkChoice_eq_ok_iff.mp h).2

/-- The code that the text under a key spells. -/
def submittedCode? (submission : Texts) (key : String) : Option Int64 :=
  (submission.get? key).bind Text.trimmedInt64?

variable {submission : Texts} {values : Values} {key label : String}

lemma submittedCode?_of_checkChoice {choices : List Choice} {code : Int64}
    (h : checkChoice (submission.get? key) choices = .ok code) :
    submittedCode? submission key = some code := by
  obtain ⟨hread, -⟩ := checkChoice_eq_ok_iff.mp h
  rw [submittedCode?]
  cases hcase : submission.get? key with
  | none =>
    have hempty : Text.trimmedInt64? "" = none := by decide
    simp [hcase, hempty] at hread
  | some raw => simpa [hcase] using hread

@[simp] lemma rejection?_display :
    Field.rejection? submission ⟨key, label, .display⟩ = none := rfl

@[simp] lemma rejection?_checkbox :
    Field.rejection? submission ⟨key, label, .checkbox⟩ = none := rfl

lemma rejection?_decimal_eq_none_iff :
    Field.rejection? submission ⟨key, label, .decimal⟩ = none ↔
      ∃ value, checkDecimal (submission.get? key) = .ok value := by
  simp only [Field.rejection?, Field.check, FieldKind.check]
  cases checkDecimal (submission.get? key) <;> simp [Except.map]

lemma rejection?_choice_eq_none_iff {choices : List Choice} :
    Field.rejection? submission ⟨key, label, .choice choices⟩ = none ↔
      ∃ code, checkChoice (submission.get? key) choices = .ok code := by
  simp only [Field.rejection?, Field.check, FieldKind.check]
  cases checkChoice (submission.get? key) choices <;> simp [Except.map]

@[simp] lemma value?_display : Field.value? submission ⟨key, label, .display⟩ = none := rfl

@[simp] lemma value?_checkbox : Field.value? submission ⟨key, label, .checkbox⟩ =
    some (key, .checked (checkCheckbox (submission.get? key))) := rfl

/-- An accepted decimal field has the number that its text spells. -/
lemma value?_decimal_of_accepted
    (h : Field.rejection? submission ⟨key, label, .decimal⟩ = none) :
    ∃ value, checkDecimal (submission.get? key) = .ok value ∧
      Field.value? submission ⟨key, label, .decimal⟩ = some (key, .decimal value) := by
  obtain ⟨value, hcheck⟩ := rejection?_decimal_eq_none_iff.mp h
  refine ⟨value, hcheck, ?_⟩
  simp only [Field.value?, Field.check, FieldKind.check, hcheck, Except.map]

/-- An accepted choice field has the code that its text spells. -/
lemma value?_choice_of_accepted {choices : List Choice}
    (h : Field.rejection? submission ⟨key, label, .choice choices⟩ = none) :
    ∃ code, checkChoice (submission.get? key) choices = .ok code ∧
      Field.value? submission ⟨key, label, .choice choices⟩ = some (key, .choice code) := by
  obtain ⟨code, hcheck⟩ := rejection?_choice_eq_none_iff.mp h
  refine ⟨code, hcheck, ?_⟩
  simp only [Field.value?, Field.check, FieldKind.check, hcheck, Except.map]

/-! ### Whole forms -/

/-- A filled form has its fields under the keys of the form. -/
lemma find?_fill (form : Form) (texts : Texts) (rejections : Rejections) (key : String) :
    (form.fill texts rejections).fields.find? (·.field.key = key) =
      (form.fields.find? (·.key = key)).map (Field.fill texts rejections) := by
  rw [fill, List.find?_map]
  rfl

lemma validate_eq_ok_iff {form : Form} :
    form.validate submission = .ok values ↔
      (∀ field ∈ form.fields, field.rejection? submission = none) ∧
        values = form.fields.filterMap (Field.value? submission) := by
  simp only [validate, List.isEmpty_iff, rejections]
  split_ifs with h
  · simp only [List.filterMap_eq_nil_iff] at h
    simp only [Except.ok.injEq]
    exact ⟨fun heq => ⟨h, heq.symm⟩, fun heq => heq.2.symm⟩
  · simp only [List.filterMap_eq_nil_iff] at h
    simp [h]

lemma values_of_system {modes : List Choice}
    (h : (Form.system modes).validate submission = .ok values) :
    ∃ code, checkChoice (submission.get? modeKey) modes = .ok code ∧
      values = [(modeKey, .choice code),
        (suppressKey, .checked (checkCheckbox (submission.get? suppressKey)))] := by
  obtain ⟨haccepted, rfl⟩ := validate_eq_ok_iff.mp h
  obtain ⟨code, hcode, hvalue⟩ := value?_choice_of_accepted
    (haccepted ⟨modeKey, "Mode", .choice modes⟩ (by simp [system]))
  exact ⟨code, hcode, by simp [system, hvalue]⟩

/-- Without run modes the offset is the only value. -/
lemma values_of_entity_none {kind : Kind}
    (h : (Form.entity kind none).validate submission = .ok values) :
    ∃ offset, checkDecimal (submission.get? offsetKey) = .ok offset ∧
      values = [(offsetKey, .decimal offset)] := by
  obtain ⟨haccepted, rfl⟩ := validate_eq_ok_iff.mp h
  obtain ⟨offset, hoffset, hvalue⟩ := value?_decimal_of_accepted
    (haccepted ⟨offsetKey, "Offset", .decimal⟩ (by simp [entity]))
  exact ⟨offset, hoffset, by simp [entity, runModeFields, List.filterMap_cons, hvalue]⟩

/-- With run modes the mode and the override follow the offset. -/
lemma values_of_entity_some {kind : Kind} {modes : List Choice}
    (h : (Form.entity kind (some modes)).validate submission = .ok values) :
    ∃ offset mode, checkDecimal (submission.get? offsetKey) = .ok offset ∧
      checkChoice (submission.get? runModeKey) modes = .ok mode ∧
      values = [(offsetKey, .decimal offset), (runModeKey, .choice mode),
        (overrideKey, .checked (checkCheckbox (submission.get? overrideKey)))] := by
  obtain ⟨haccepted, rfl⟩ := validate_eq_ok_iff.mp h
  obtain ⟨offset, hoffset, hvalue⟩ := value?_decimal_of_accepted
    (haccepted ⟨offsetKey, "Offset", .decimal⟩ (by simp [entity]))
  obtain ⟨mode, hmode, hchosen⟩ := value?_choice_of_accepted
    (haccepted ⟨runModeKey, "Run mode", .choice modes⟩ (by simp [entity, runModeFields]))
  refine ⟨offset, mode, hoffset, hmode, ?_⟩
  simp [entity, runModeFields, List.filterMap_cons, hvalue, hchosen]

/-! ### What accepted values ask for -/

/-- The form of an entity always yields an offset. -/
lemma exists_decimal?_of_entity {kind : Kind} {runModes : Option (List Choice)}
    (h : (Form.entity kind runModes).validate submission = .ok values) :
    ∃ offset, values.decimal? offsetKey = some offset := by
  cases runModes with
  | none =>
    obtain ⟨offset, -, rfl⟩ := values_of_entity_none h
    exact ⟨offset, rfl⟩
  | some modes =>
    obtain ⟨offset, mode, -, -, rfl⟩ := values_of_entity_some h
    exact ⟨offset, rfl⟩

/-- Something is asked of the override only where run modes are on offer,
and then one of them. -/
lemma exists_runMode_of_entity {kind : Kind} {runModes : Option (List Choice)}
    {request : OverrideRequest}
    (h : (Form.entity kind runModes).validate submission = .ok values)
    (hrequest : overrideRequest? values = some request) :
    ∃ modes, runModes = some modes ∧ ∃ choice ∈ modes, choice.code = request.mode := by
  cases runModes with
  | none =>
    obtain ⟨offset, -, rfl⟩ := values_of_entity_none h
    cases hrequest
  | some modes =>
    obtain ⟨offset, mode, -, hmode, rfl⟩ := values_of_entity_some h
    cases hrequest
    exact ⟨modes, rfl, exists_choice_of_checkChoice hmode⟩

/-- The change of the system mode has the submitted code, which is on offer and has seven bits,
and the submitted flag. -/
lemma submitted_of_modeChange {modes : List Choice} {change : SystemModeChange}
    (h : (Form.system modes).validate submission = .ok values)
    (hchange : modeChange values = .ok change) :
    ∃ choice ∈ modes, submittedCode? submission modeKey = some choice.code ∧
      choice.code.toInt = change.primary.toNat ∧ change.primary.toNat < 128 ∧
      change.suppress = checkCheckbox (submission.get? suppressKey) := by
  obtain ⟨code, hcode, rfl⟩ := values_of_system h
  obtain ⟨choice, hmem, rfl⟩ := exists_choice_of_checkChoice hcode
  have hof : SystemModeChange.ofCode choice.code
      (checkCheckbox (submission.get? suppressKey)) = .ok change := hchange
  simp only [SystemModeChange.ofCode] at hof
  split_ifs at hof with hrange
  cases hof
  refine ⟨choice, hmem, submittedCode?_of_checkChoice hcode, ?_, ?_, rfl⟩
  all_goals
    simp only [UInt8.toNat_ofNat']
    omega

end HeatingPortal.Form
