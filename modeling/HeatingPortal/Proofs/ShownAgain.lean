import HeatingPortal.Proofs.FieldVerdicts

/-!
# Showing a rejected form again

A rejected form is shown again with what was submitted for its editable fields, the live values
of the others, and the reason at each field that was rejected. Sending back what it shows is
rejected for the same reasons and shows the same form.

What a field shows is read from the same text as its verdict, but not in the same way: a choice
shows the code that its text spells even where that is not on offer, and a checkbox shows its
state. So the text that stands for what is shown may differ from the one that was submitted, and
what has to be seen is that no check can tell the two apart.
-/

namespace HeatingPortal.Form

open Number Settings Text

/-! ### Sending again what is shown -/

/-- The text that is sent for what a field shows; nothing, and a box that is
not ticked, send none.
-/
def Shown.resent? : Shown → Option String
  | nothing => none
  | text value => some value
  | code value => some (ofInt64 value)
  | ticked value => if value then some tick else none

/-- The text that a filled field sends, with its key. -/
def FilledField.resent? (filled : FilledField) : Option (String × String) :=
  (if filled.field.kind.isEditable then filled.value.resent? else none).map (filled.field.key, ·)

/-- The submission of a filled form as it is shown. -/
def Filled.resubmission (filled : Filled) : Texts :=
  filled.fields.filterMap FilledField.resent?

/-! ### Single fields -/

lemma checkCheckbox_resent? (ticked : Bool) :
    checkCheckbox (Shown.ticked ticked).resent? = ticked := by
  cases ticked with
  | false => rfl
  | true =>
    change checkCheckbox (some tick) = true
    decide +kernel

/-- The check of a choice sees nothing of its text but the code that it spells. -/
lemma checkChoice_of_trimmedInt64? {raw : String} {code : Int64}
    (h : trimmedInt64? raw = some code) (choices : List Choice) :
    checkChoice (some raw) choices =
      if choices.isEmpty then .error noChoices
      else if choices.any (·.code = code) then .ok code else .error notAllowed := by
  have hnonempty : (trim raw).isEmpty = false := by
    rw [← Bool.not_eq_true, String.isEmpty_iff]
    intro hempty
    have hnone : int64? "" = none := by decide
    rw [trimmedInt64?, hempty, hnone] at h
    cases h
  rw [trimmedInt64?] at h
  simp only [checkChoice, Option.getD_some, hnonempty, h, Bool.false_eq_true, if_false]

lemma shownChoice_of_trimmedInt64? {raw : String} {code : Int64}
    (h : trimmedInt64? raw = some code) : shownChoice (some raw) = .code code := by
  delta shownChoice
  dsimp only
  rw [h]

lemma shownChoice_of_eq_none {raw : String} (h : trimmedInt64? raw = none) :
    shownChoice (some raw) = .text raw := by
  delta shownChoice
  dsimp only
  rw [h]

namespace FieldKind

variable {kind : FieldKind} {raw : Option String}

/-- What a field shows is sent as a text that no check can tell from the one it was read from. -/
lemma check_resent? (h : kind.isEditable = true) (raw : Option String) :
    kind.check (kind.shown raw).resent? = kind.check raw := by
  cases kind with
  | display => cases h
  | decimal => rfl
  | checkbox =>
    change some (Except.ok (FieldValue.checked (checkCheckbox (Shown.ticked _).resent?))) = _
    rw [checkCheckbox_resent?]
    rfl
  | choice choices =>
    cases raw with
    | none => rfl
    | some text =>
      cases hcode : trimmedInt64? text with
      | none =>
        rw [shown, shownChoice_of_eq_none hcode]
        rfl
      | some code =>
        rw [shown, shownChoice_of_trimmedInt64? hcode, Shown.resent?, check, check,
          checkChoice_of_trimmedInt64? hcode,
          checkChoice_of_trimmedInt64? (trimmedInt64?_ofInt64 code)]

/-- What a field shows is shown again when it is sent. -/
lemma shown_resent? (h : kind.isEditable = true) (raw : Option String) :
    kind.shown (kind.shown raw).resent? = kind.shown raw := by
  cases kind with
  | display => cases h
  | decimal => rfl
  | checkbox => exact congrArg Shown.ticked (checkCheckbox_resent? _)
  | choice choices =>
    cases raw with
    | none => rfl
    | some text =>
      cases hcode : trimmedInt64? text with
      | none =>
        simp only [shown, shownChoice_of_eq_none hcode, Shown.resent?]
      | some code =>
        simp only [shown, shownChoice_of_trimmedInt64? hcode, Shown.resent?, shownChoice_ofInt64]

lemma shown_of_display (h : kind.isEditable = false) : kind.shown raw = .text (raw.getD "") := by
  cases kind with
  | display => rfl
  | decimal | choice | checkbox => cases h

/-- An accepted choice is shown as its code. -/
lemma shown_of_accepts_choice {code : Int64} (h : kind.Accepts raw (.choice code)) :
    kind.shown raw = .code code := by
  cases h with
  | choice hcheck =>
    have hcode := (checkChoice_eq_ok_iff.mp hcheck).1
    cases raw with
    | none =>
      have hempty : trimmedInt64? "" = none := by decide
      cases hempty.symm.trans hcode
    | some text => exact shownChoice_of_trimmedInt64? hcode

/-- A checkbox is shown as it is read. -/
lemma shown_of_accepts_checked {ticked : Bool} (h : kind.Accepts raw (.checked ticked)) :
    kind.shown raw = .ticked ticked := by
  cases h
  rfl

end FieldKind

/-! ### Whole forms -/

/-- A form that is shown again after a submission was rejected. -/
structure ShownAgain (form : Form) (live submission : Texts) (rejections : Rejections)
    (shown : Filled) : Prop where
  title : shown.title = form.title
  fields : shown.fields.map (·.field) = form.fields
  valid : shown.valid = false
  /-- A field has the reason of its rejection, if it was rejected. -/
  error_iff (filled : FilledField) (h : filled ∈ shown.fields) (reason : String) :
    filled.error = some reason ↔
      filled.field.kind.Rejects (submission.get? filled.field.key) reason
  /-- What is only shown is live. -/
  display (filled : FilledField) (h : filled ∈ shown.fields)
    (hdisplay : filled.field.kind.isEditable = false) :
    filled.value = .text ((live.get? filled.field.key).getD "")
  /-- Accepted choices and checkboxes are shown as they were read. -/
  choice (filled : FilledField) (h : filled ∈ shown.fields) (code : Int64)
    (haccepts : filled.field.kind.Accepts (submission.get? filled.field.key) (.choice code)) :
    filled.value = .code code
  checked (filled : FilledField) (h : filled ∈ shown.fields) (ticked : Bool)
    (haccepts : filled.field.kind.Accepts (submission.get? filled.field.key) (.checked ticked)) :
    filled.value = .ticked ticked
  /-- Sent again as it is shown, the form is rejected for the same reasons and
  shown in the same way. -/
  rejectedAgain : form.validate shown.resubmission = .error rejections
  stable : form.fill (form.attempted live shown.resubmission) rejections = shown

section

variable {form : Form} {live submission : Texts} {rejections : Rejections} {field : Field}

/-- An editable field sends what it shows. -/
lemma get?_resubmission (hkeys : (form.fields.map (·.key)).Nodup) (hfield : field ∈ form.fields)
    (heditable : field.kind.isEditable = true) :
    (form.fill (form.attempted live submission) rejections).resubmission.get? field.key =
      (field.kind.shown (submission.get? field.key)).resent? := by
  let sent (field : Field) : Option String :=
    if field.kind.isEditable then
      (field.kind.shown ((form.attempted live submission).get? field.key)).resent?
    else none
  have hsent : sent field = (field.kind.shown (submission.get? field.key)).resent? := by
    simp only [sent, get?_attempted hkeys live submission hfield, heditable, if_true]
  rw [Filled.resubmission, fill, List.filterMap_map, Texts.get?, ← hsent]
  exact lookup_filterMap_key hkeys hfield

/-- No check can tell what a form shows again from what was submitted. -/
lemma validate_resubmission (hkeys : (form.fields.map (·.key)).Nodup) :
    form.validate (form.fill (form.attempted live submission) rejections).resubmission =
      form.validate submission := by
  refine validate_eq_of_check fun field hfield => ?_
  cases heditable : field.kind.isEditable with
  | false => exact check_congr fun h => absurd h (by simp [heditable])
  | true =>
    rw [Field.check, get?_resubmission hkeys hfield heditable, FieldKind.check_resent? heditable]
    rfl

/-- A form that is sent again as it is shown is shown in the same way. -/
lemma fill_resubmission (hkeys : (form.fields.map (·.key)).Nodup) :
    let shown := form.fill (form.attempted live submission) rejections
    form.fill (form.attempted live shown.resubmission) rejections = shown := by
  intro shown
  have hfill : ∀ field ∈ form.fields,
      field.fill (form.attempted live shown.resubmission) rejections =
        field.fill (form.attempted live submission) rejections := by
    intro field hfield
    simp only [Field.fill, get?_attempted hkeys live _ hfield, FilledField.mk.injEq, true_and,
      and_true]
    cases heditable : field.kind.isEditable with
    | false => rfl
    | true =>
      simp only [if_true, shown, get?_resubmission hkeys hfield heditable,
        FieldKind.shown_resent? heditable]
  simp only [fill, shown, Filled.mk.injEq, true_and]
  exact List.map_congr_left hfill

/-- A form whose keys differ is shown again faithfully, and stays as it is
when it is sent again. -/
lemma shownAgain_of_nodup (hkeys : (form.fields.map (·.key)).Nodup)
    (h : form.validate submission = .error rejections) :
    ShownAgain form live submission rejections
      (form.fill (form.attempted live submission) rejections) := by
  have hfill {filled : FilledField}
      (hfilled : filled ∈ (form.fill (form.attempted live submission) rejections).fields) :
      filled.field ∈ form.fields ∧
        filled.value = filled.field.kind.shown
          ((if filled.field.kind.isEditable then submission else live).get? filled.field.key) ∧
        filled.error = rejections.reason? filled.field.key := by
    obtain ⟨field, hfield, rfl⟩ := List.mem_map.mp hfilled
    refine ⟨hfield, ?_, rfl⟩
    simp only [Field.fill, get?_attempted hkeys live submission hfield]
  have heditable {field : Field} {value : FieldValue}
      (haccepts : field.kind.Accepts (submission.get? field.key) value) :
      field.kind.isEditable = true := by
    obtain ⟨key, label, kind⟩ := field
    cases haccepts <;> rfl
  constructor
  case title => rfl
  case fields =>
    rw [fill, List.map_map]
    exact List.map_id _
  case valid =>
    cases rejections with
    | nil => exact absurd rfl (ne_nil_of_validate_error h)
    | cons => rfl
  case error_iff =>
    intro filled hfilled reason
    obtain ⟨hfield, -, herror⟩ := hfill hfilled
    rw [herror, rejections_of_validate_error h, reason?_rejections hkeys hfield,
      Option.map_eq_some_iff]
    constructor
    · rintro ⟨rejection, hrejection, rfl⟩
      exact (rejection?_eq_some_iff.mp hrejection).2
    · intro hrejects
      exact ⟨⟨_, reason⟩, rejection?_eq_some_iff.mpr ⟨rfl, hrejects⟩, rfl⟩
  case display =>
    intro filled hfilled hdisplay
    obtain ⟨-, hvalue, -⟩ := hfill hfilled
    rw [hvalue, hdisplay]
    exact FieldKind.shown_of_display hdisplay
  case choice =>
    intro filled hfilled code haccepts
    obtain ⟨-, hvalue, -⟩ := hfill hfilled
    rw [hvalue, heditable haccepts, if_pos rfl]
    exact FieldKind.shown_of_accepts_choice haccepts
  case checked =>
    intro filled hfilled ticked haccepts
    obtain ⟨-, hvalue, -⟩ := hfill hfilled
    rw [hvalue, heditable haccepts, if_pos rfl]
    exact FieldKind.shown_of_accepts_checked haccepts
  case rejectedAgain => exact (validate_resubmission hkeys).trans h
  case stable => exact fill_resubmission hkeys

end

/-- A rejected form is shown again faithfully and stably: with the verdicts of its fields, the
live values and what was read, and in the same way once more when it is sent as it is shown. -/
theorem shownAgain_of_built {form : Form} (hbuilt : form.Built) (live : Texts)
    {submission : Texts} {rejections : Rejections}
    (h : form.validate submission = .error rejections) :
    ShownAgain form live submission rejections
      (form.fill (form.attempted live submission) rejections) :=
  shownAgain_of_nodup hbuilt.nodup_keys h

/-- A code with a sign and blanks is shown as the number it is, and sent as that number. -/
theorem shownAgain_of_built_padded :
    let form := Form.entity .circuit (some [⟨2, "Comfort"⟩])
    let live : Texts := [("name", "Ground floor"), (offsetKey, "0.5")]
    let submission : Texts :=
      [("name", "Attic"), (offsetKey, "abc"), (runModeKey, " +2 "), (overrideKey, "YES")]
    let rejections : Rejections := [⟨offsetKey, notDecimal⟩]
    let shown := form.fill (form.attempted live submission) rejections
    form.validate submission = .error rejections ∧
      ShownAgain form live submission rejections shown ∧
      shown.resubmission = [(offsetKey, "abc"), (runModeKey, "2"), (overrideKey, tick)] := by
  intro form live submission rejections shown
  have hbuilt : form.Built := .entity .circuit (some [⟨2, "Comfort"⟩])
  have hrejected : form.validate submission = .error rejections := by decide +kernel
  exact ⟨hrejected, shownAgain_of_built hbuilt live hrejected, by decide +kernel⟩

end HeatingPortal.Form
