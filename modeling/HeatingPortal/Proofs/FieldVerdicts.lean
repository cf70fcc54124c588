import HeatingPortal.Proofs.OfferedChoices
import HeatingPortal.Proofs.SentBack
import Mathlib.Data.List.Forall2

/-!
# Verdicts of fields

A form judges a submission field by field: the verdict on an editable field is that of its kind
on the text under its own key. A submission is accepted when all verdicts are, with one value for
each editable field, and otherwise rejected with one reason for each field that is not. Nothing
else matters: no other key, no text that is sent for a field that is only shown, no other field.
-/

namespace HeatingPortal.Form

open Number Settings

/-! ### Single fields -/

/-- A kind of fields accepts a text, or that there is none, as a value. -/
inductive FieldKind.Accepts (raw : Option String) : FieldKind → FieldValue → Prop
  | decimal {value : Binary64} (h : checkDecimal raw = .ok value) :
      Accepts raw .decimal (.decimal value)
  | choice {choices : List Choice} {code : Int64} (h : checkChoice raw choices = .ok code) :
      Accepts raw (.choice choices) (.choice code)
  | checkbox : Accepts raw .checkbox (.checked (checkCheckbox raw))

/-- A kind of fields rejects a text, or that there is none, for a reason. -/
inductive FieldKind.Rejects (raw : Option String) : FieldKind → String → Prop
  | decimal {reason : String} (h : checkDecimal raw = .error reason) :
      Rejects raw .decimal reason
  | choice {choices : List Choice} {reason : String}
      (h : checkChoice raw choices = .error reason) :
      Rejects raw (.choice choices) reason

section

variable {α β ε : Type} {f : α → β} {result : Except ε α}

lemma map_eq_ok_iff {last : β} :
    result.map f = .ok last ↔ ∃ value, result = .ok value ∧ f value = last := by
  cases result <;> simp [Except.map]

lemma map_eq_error_iff {error : ε} : result.map f = .error error ↔ result = .error error := by
  cases result <;> simp [Except.map]

end

namespace FieldKind

variable {raw : Option String} {kind : FieldKind} {value : FieldValue} {reason : String}

lemma check_eq_ok_iff : kind.check raw = some (.ok value) ↔ kind.Accepts raw value := by
  constructor
  · intro h
    cases kind with
    | display => cases h
    | decimal =>
      obtain ⟨number, hnumber, rfl⟩ := map_eq_ok_iff.mp (Option.some.inj h)
      exact .decimal hnumber
    | choice choices =>
      obtain ⟨code, hcode, rfl⟩ := map_eq_ok_iff.mp (Option.some.inj h)
      exact .choice hcode
    | checkbox =>
      cases h
      exact .checkbox
  · intro h
    cases h with
    | decimal h | choice h =>
      rw [check, h]
      rfl
    | checkbox => rfl

lemma check_eq_error_iff : kind.check raw = some (.error reason) ↔ kind.Rejects raw reason := by
  constructor
  · intro h
    cases kind with
    | display => cases h
    | decimal => exact .decimal (map_eq_error_iff.mp (Option.some.inj h))
    | choice choices => exact .choice (map_eq_error_iff.mp (Option.some.inj h))
    | checkbox => cases h
  · intro h
    cases h with
    | decimal h | choice h =>
      rw [check, h]
      rfl

/-- The editable kinds are those that are checked. -/
lemma isSome_check (kind : FieldKind) (raw : Option String) :
    (kind.check raw).isSome = kind.isEditable := by
  cases kind <;> rfl

end FieldKind

section

variable {submission other : Texts} {field : Field}

lemma value?_eq_some_iff {entry : String × FieldValue} :
    field.value? submission = some entry ↔
      entry.1 = field.key ∧ field.kind.Accepts (submission.get? field.key) entry.2 := by
  rw [← FieldKind.check_eq_ok_iff, Field.value?, Field.check]
  obtain ⟨key, value⟩ := entry
  split
  · next found hcheck => simp [hcheck, eq_comm]
  · next hnone => simpa using fun _ => hnone value

lemma rejection?_eq_some_iff {rejection : Rejection} :
    field.rejection? submission = some rejection ↔
      rejection.field = field.key ∧
        field.kind.Rejects (submission.get? field.key) rejection.reason := by
  rw [← FieldKind.check_eq_error_iff, Field.rejection?, Field.check]
  obtain ⟨key, reason⟩ := rejection
  split
  · next found hcheck => simp [hcheck, eq_comm]
  · next hnone => simpa using fun _ => hnone reason

/-- What is made of a field has its text under its own key as the only part of the submission. -/
lemma check_congr (h : field.kind.isEditable = true →
    other.get? field.key = submission.get? field.key) :
    field.check other = field.check submission := by
  obtain ⟨key, label, kind⟩ := field
  cases kind with
  | display => rfl
  | decimal | choice | checkbox => exact congrArg (FieldKind.check · _) (h rfl)

/-- A field that is not rejected has a value if it is editable, and else has none. -/
lemma isSome_value? (h : field.rejection? submission = none) :
    (field.value? submission).isSome = field.kind.isEditable := by
  rw [← field.kind.isSome_check (submission.get? field.key)]
  unfold Field.rejection? Field.check at h
  unfold Field.value? Field.check
  cases hcheck : field.kind.check (submission.get? field.key) with
  | none => rfl
  | some verdict =>
    cases verdict with
    | ok value => rfl
    | error reason => simp [hcheck] at h

end

/-! ### Whole forms -/

/-- The fields that a submission may change, in order. -/
def editable (form : Form) : List Field :=
  form.fields.filter (·.kind.isEditable)

/-- The reason that a verdict on a submission has for the field of a key. -/
def reasonIn? (key : String) : Except Rejections Values → Option String
  | .error rejections => rejections.reason? key
  | .ok _ => none

/-- The verdict of a form on a submission is that of its fields, each on the
text under its own key.
-/
structure FieldWise (form : Form) (submission : Texts) : Prop where
  keys : (form.fields.map (·.key)).Nodup
  /-- Accepted is what all editable fields accept. -/
  accepted_iff : (∃ values, form.validate submission = .ok values) ↔
    ∀ field ∈ form.editable, ∃ value, field.kind.Accepts (submission.get? field.key) value
  /-- One value for each editable field. -/
  values (values : Values) (h : form.validate submission = .ok values) :
    List.Forall₂ (fun field entry => entry.1 = field.key ∧
      field.kind.Accepts (submission.get? field.key) entry.2) form.editable values
  /-- One reason for each rejected field, in order. -/
  rejections (rejections : Rejections) (h : form.validate submission = .error rejections) :
    ∃ rejected : List Field, rejected ≠ [] ∧ rejected.Sublist form.editable ∧
      (∀ field ∈ form.editable, field ∈ rejected ↔
        ∃ reason, field.kind.Rejects (submission.get? field.key) reason) ∧
      List.Forall₂ (fun field rejection => rejection.field = field.key ∧
        field.kind.Rejects (submission.get? field.key) rejection.reason) rejected rejections
  /-- Only the texts of editable fields matter. -/
  congr (other : Texts)
    (h : ∀ field ∈ form.editable, other.get? field.key = submission.get? field.key) :
    form.validate other = form.validate submission
  /-- What is found out about a field depends on its own text alone. -/
  independent (other : Texts) (field : Field) (hfield : field ∈ form.editable)
    (h : other.get? field.key = submission.get? field.key) :
    reasonIn? field.key (form.validate other) = reasonIn? field.key (form.validate submission) ∧
      ∀ before after, form.validate submission = .ok before → form.validate other = .ok after →
        after.lookup field.key = before.lookup field.key

/-- What is made of some of the items, item by item. -/
lemma forall₂_filterMap {α β : Type} (f : α → Option β) (items : List α) :
    List.Forall₂ (fun item made => f item = some made) (items.filter fun item => (f item).isSome)
      (items.filterMap f) := by
  induction items with
  | nil => exact .nil
  | cons item rest ih =>
    cases hmade : f item with
    | none => simpa [hmade] using ih
    | some made => simpa [hmade] using ih

section

variable {form : Form} {submission other : Texts}

lemma mem_editable_iff {field : Field} :
    field ∈ form.editable ↔ field ∈ form.fields ∧ field.kind.isEditable = true :=
  List.mem_filter

lemma rejection?_eq_none_iff {field : Field} (h : field.kind.isEditable = true) :
    field.rejection? submission = none ↔
      ∃ value, field.kind.Accepts (submission.get? field.key) value := by
  constructor
  · intro hnone
    have hvalue := isSome_value? hnone
    rw [h] at hvalue
    obtain ⟨entry, hentry⟩ := Option.isSome_iff_exists.mp hvalue
    exact ⟨entry.2, (value?_eq_some_iff.mp hentry).2⟩
  · rintro ⟨value, haccepts⟩
    rw [← FieldKind.check_eq_ok_iff] at haccepts
    rw [Field.rejection?, Field.check, haccepts]

lemma rejection?_of_display {field : Field} (h : field.kind.isEditable = false) :
    field.rejection? submission = none := by
  rw [← field.kind.isSome_check (submission.get? field.key), Option.isSome_eq_false_iff,
    Option.isNone_iff_eq_none] at h
  rw [Field.rejection?, Field.check, h]

lemma exists_validate_iff_accepts :
    (∃ values, form.validate submission = .ok values) ↔
      ∀ field ∈ form.editable, ∃ value,
        field.kind.Accepts (submission.get? field.key) value := by
  rw [exists_validate_iff]
  constructor
  · intro h field hmem
    obtain ⟨hfield, heditable⟩ := mem_editable_iff.mp hmem
    exact (rejection?_eq_none_iff heditable).mp (h field hfield)
  · intro h field hfield
    cases heditable : field.kind.isEditable with
    | false => exact rejection?_of_display heditable
    | true =>
      have haccepts := h field (mem_editable_iff.mpr ⟨hfield, heditable⟩)
      exact (rejection?_eq_none_iff heditable).mpr haccepts

/-- An accepted submission has one value for each editable field. -/
lemma forall₂_values {values : Values} (h : form.validate submission = .ok values) :
    List.Forall₂ (fun field entry => entry.1 = field.key ∧
      field.kind.Accepts (submission.get? field.key) entry.2) form.editable values := by
  obtain ⟨haccepted, rfl⟩ := validate_eq_ok_iff.mp h
  have hvalues := forall₂_filterMap (Field.value? submission) form.fields
  rw [List.filter_congr fun field hmem => isSome_value? (haccepted field hmem)] at hvalues
  exact hvalues.imp fun _ _ => value?_eq_some_iff.mp

lemma ne_nil_of_validate_error {rejections : Rejections}
    (h : form.validate submission = .error rejections) : rejections ≠ [] := by
  unfold validate at h
  split at h
  · cases h
  · next hne =>
    cases h
    simpa using hne

/-- A rejected submission has one reason for each rejected field. -/
lemma exists_rejected {rejections : Rejections}
    (h : form.validate submission = .error rejections) :
    ∃ rejected : List Field, rejected ≠ [] ∧ rejected.Sublist form.editable ∧
      (∀ field ∈ form.editable, field ∈ rejected ↔
        ∃ reason, field.kind.Rejects (submission.get? field.key) reason) ∧
      List.Forall₂ (fun field rejection => rejection.field = field.key ∧
        field.kind.Rejects (submission.get? field.key) rejection.reason)
        rejected rejections := by
  have hne := ne_nil_of_validate_error h
  obtain rfl := rejections_of_validate_error h
  let isRejected (field : Field) : Bool := (field.rejection? submission).isSome
  have hrejections := forall₂_filterMap (Field.rejection? submission) form.fields
  have hfilter : form.fields.filter isRejected = form.editable.filter isRejected := by
    rw [editable, List.filter_filter]
    refine List.filter_congr fun field _ => ?_
    cases heditable : field.kind.isEditable with
    | false => simp [isRejected, rejection?_of_display heditable]
    | true => rw [Bool.and_true]
  refine ⟨form.fields.filter isRejected, ?_, ?_, ?_, ?_⟩
  · intro hnil
    rw [hnil, List.forall₂_nil_left_iff] at hrejections
    exact hne hrejections
  · rw [hfilter]
    exact List.filter_sublist
  · intro field hmem
    rw [hfilter, List.mem_filter, and_iff_right hmem, Option.isSome_iff_exists]
    constructor
    · rintro ⟨rejection, hrejection⟩
      exact ⟨_, (rejection?_eq_some_iff.mp hrejection).2⟩
    · rintro ⟨reason, hrejects⟩
      exact ⟨⟨field.key, reason⟩, rejection?_eq_some_iff.mpr ⟨rfl, hrejects⟩⟩
  · exact hrejections.imp fun _ _ => rejection?_eq_some_iff.mp

/-- Submissions of which every field is judged alike are judged alike. -/
lemma validate_eq_of_check
    (h : ∀ field ∈ form.fields, field.check other = field.check submission) :
    form.validate other = form.validate submission := by
  have hrejections : form.rejections other = form.rejections submission := by
    refine List.filterMap_congr fun field hfield => ?_
    simp only [Field.rejection?, h field hfield]
  have hvalues : form.fields.filterMap (Field.value? other) =
      form.fields.filterMap (Field.value? submission) := by
    refine List.filterMap_congr fun field hfield => ?_
    simp only [Field.value?, h field hfield]
  rw [validate, validate, hrejections, hvalues]

/-- Submissions that agree in the editable fields are judged alike. -/
lemma validate_congr
    (h : ∀ field ∈ form.editable, other.get? field.key = submission.get? field.key) :
    form.validate other = form.validate submission :=
  validate_eq_of_check fun field hfield =>
    check_congr fun heditable => h field (mem_editable_iff.mpr ⟨hfield, heditable⟩)

/-- The reason for a field in a verdict is that of its own check. -/
lemma reasonIn?_validate (hkeys : (form.fields.map (·.key)).Nodup) {field : Field}
    (hfield : field ∈ form.fields) (submission : Texts) :
    reasonIn? field.key (form.validate submission) =
      (field.rejection? submission).map (·.reason) := by
  rw [← reason?_rejections hkeys hfield]
  cases hvalidate : form.validate submission with
  | ok values =>
    rw [rejections_of_validate_ok hvalidate]
    rfl
  | error rejections =>
    rw [rejections_of_validate_error hvalidate]
    rfl

/-- The value of a field in an accepted submission is that of its own check. -/
lemma lookup_values (hkeys : (form.fields.map (·.key)).Nodup) {field : Field}
    (hfield : field ∈ form.fields) {values : Values}
    (h : form.validate submission = .ok values) :
    values.lookup field.key = (field.value? submission).map (·.2) := by
  have hkeyed (other : Field) : other.value? submission =
      ((other.value? submission).map (·.2)).map (other.key, ·) := by
    unfold Field.value?
    split <;> rfl
  obtain ⟨-, rfl⟩ := validate_eq_ok_iff.mp h
  rw [List.filterMap_congr fun other _ => hkeyed other]
  exact lookup_filterMap_key hkeys hfield

/-- A form whose keys differ judges field by field. -/
lemma fieldWise_of_nodup (hkeys : (form.fields.map (·.key)).Nodup) (submission : Texts) :
    FieldWise form submission where
  keys := hkeys
  accepted_iff := exists_validate_iff_accepts
  values _ := forall₂_values
  rejections _ := exists_rejected
  congr _ := validate_congr
  independent other field hfield h := by
    obtain ⟨hfield, -⟩ := mem_editable_iff.mp hfield
    have hcheck := check_congr fun _ => h
    constructor
    · rw [reasonIn?_validate hkeys hfield, reasonIn?_validate hkeys hfield]
      simp only [Field.rejection?, hcheck]
    · intro before after hbefore hafter
      rw [lookup_values hkeys hfield hbefore, lookup_values hkeys hfield hafter]
      simp only [Field.value?, hcheck]

end

/-! ### The forms that there are -/

/-- The form of the system mode and those of entities, with whatever choices. -/
inductive Built : Form → Prop
  | system (modes : List Choice) : Built (.system modes)
  | entity (kind : Plant.Kind) (runModes : Option (List Choice)) : Built (.entity kind runModes)

lemma Built.nodup_keys {form : Form} (h : form.Built) : (form.fields.map (·.key)).Nodup := by
  cases h with
  | system modes => exact nodup_keys_system modes
  | entity kind runModes => exact nodup_keys_entity kind runModes

/-- The form of the system mode and that of an entity judge every submission field by field. -/
theorem fieldWise_of_built {form : Form} (h : form.Built) (submission : Texts) :
    FieldWise form submission :=
  fieldWise_of_nodup h.nodup_keys submission

/-- A decimal comma, and a run mode where none can be chosen: two fields are rejected, each for
its own reason, while the name and the override are not. -/
theorem fieldWise_of_built_comma :
    let form := Form.entity .circuit (some [])
    let submission : Texts := [("name", "Attic"), (offsetKey, "1,5"), (overrideKey, "yes")]
    form.Built ∧ FieldWise form submission ∧
      form.validate submission =
        .error [⟨offsetKey, notDecimal⟩, ⟨runModeKey, noChoices⟩] := by
  intro form submission
  have hbuilt : form.Built := .entity .circuit (some [])
  exact ⟨hbuilt, fieldWise_of_built hbuilt submission, by decide +kernel⟩

end HeatingPortal.Form
