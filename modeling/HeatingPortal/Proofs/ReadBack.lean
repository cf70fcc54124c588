import HeatingPortal.Proofs.Commits
import HeatingPortal.Proofs.LoadedSettings
import HeatingPortal.Proofs.Paths
import HeatingPortal.Proofs.WorkingPlant

/-!
# Reading back a submission

A submission that succeeds sends its caller to a location. Reading it on a plant that works shows
what was submitted: the numbers in the state of the page, and the same values in the fields of
its form. Fields are filled with texts, so the written codes have to read back as the codes they
were written from.
-/

namespace HeatingPortal

/-! ### Filled forms -/

namespace Form

open Plant Settings Text

/-- What a filled form shows under a key. -/
def Filled.shown? (filled : Filled) (key : String) : Option Shown :=
  (filled.fields.find? (·.field.key = key)).map (·.value)

/-- A field shows the text of its key as its kind wants it. -/
lemma shown?_fill {form : Form} {key : String} {field : Field} (texts : Texts)
    (rejections : Rejections) (h : form.fields.find? (·.key = key) = some field) :
    (form.fill texts rejections).shown? key = some (field.kind.shown (texts.get? key)) := by
  have hkey : field.key = key := by simpa using List.find?_some h
  rw [Filled.shown?, find?_fill, h, Option.map_some, Option.map_some, Field.fill, hkey]

lemma shownChoice_ofInt64 (code : Int64) : shownChoice (some (ofInt64 code)) = .code code := by
  -- The equations of this definition are slow to generate.
  delta shownChoice
  dsimp only
  rw [trimmedInt64?_ofInt64]

lemma checkCheckbox_tickTexts (key : String) (ticked : Bool) :
    checkCheckbox (Texts.get? (tickTexts key ticked) key) = ticked := by
  cases ticked with
  | false => rfl
  | true =>
    simp only [tickTexts, Texts.get?, if_true, List.lookup_cons_self]
    decide +kernel

section

variable (kind : Kind) (runModes : Option (List Choice)) (modes : List Choice)

lemma shown?_offset (snapshot : Snapshot) :
    ((Form.entity kind runModes).fill (entityTexts snapshot) []).shown? offsetKey =
      some (.text snapshot.offset.oneDecimal) := by
  rw [shown?_fill (entityTexts snapshot) [] rfl]
  rfl

lemma shown?_runMode (snapshot : Snapshot) :
    ((Form.entity kind (some modes)).fill (entityTexts snapshot) []).shown? runModeKey =
      some (.code snapshot.currentMode) := by
  have htext : (entityTexts snapshot).get? runModeKey = some (ofInt64 snapshot.currentMode) := by
    simp [entityTexts, Texts.get?, List.lookup_cons, offsetKey, runModeKey]
  rw [shown?_fill (entityTexts snapshot) [] rfl, htext]
  exact congrArg some (shownChoice_ofInt64 snapshot.currentMode)

lemma shown?_override (snapshot : Snapshot) :
    ((Form.entity kind (some modes)).fill (entityTexts snapshot) []).shown? overrideKey =
      some (.ticked snapshot.overrideActive) := by
  have htext : (entityTexts snapshot).get? overrideKey =
      Texts.get? (tickTexts overrideKey snapshot.overrideActive) overrideKey := by
    simp [entityTexts, Texts.get?, List.lookup_cons, offsetKey, runModeKey, overrideKey]
  rw [shown?_fill (entityTexts snapshot) [] rfl, htext]
  simp only [FieldKind.shown, checkCheckbox_tickTexts]

lemma shown?_mode {composite : UInt8} {code : Int64}
    (h : code.toInt = (primaryOf composite).toNat) :
    ((Form.system modes).fill (systemTexts composite) []).shown? modeKey =
      some (.code code) := by
  have htext : (systemTexts composite).get? modeKey = some (ofInt64 code) := by
    rw [ofInt64, h]
    rfl
  rw [shown?_fill (systemTexts composite) [] rfl, htext]
  exact congrArg some (shownChoice_ofInt64 code)

lemma shown?_suppress (composite : UInt8) :
    ((Form.system modes).fill (systemTexts composite) []).shown? suppressKey =
      some (.ticked (suppressOf composite)) := by
  have htext : (systemTexts composite).get? suppressKey =
      Texts.get? (tickTexts suppressKey (suppressOf composite)) suppressKey := by
    simp [systemTexts, Texts.get?, List.lookup_cons, modeKey, suppressKey]
  rw [shown?_fill (systemTexts composite) [] rfl, htext]
  simp only [FieldKind.shown, checkCheckbox_tickTexts]

end

end Form

/-! ### Pages after a submission -/

namespace Web

open Caller Form Plant Settings Text

/-- A page of an entity, with its state, shows what was submitted for it when its device had a
given state and these run modes were on offer. Without run modes the override is as it was. -/
structure EntityPage.ReadsBack (page : EntityPage) (snapshot : Snapshot) (submission : Texts)
    (before : Device) (runModes : Option (List Choice)) : Prop where
  state : page.state = some snapshot
  entity : snapshot.entity = page.entity
  offset : ∃ offset, checkDecimal (submission.get? offsetKey) = .ok offset ∧
    snapshot.offset = offset ∧ page.form.shown? offsetKey = some (.text offset.oneDecimal)
  override : runModes.isSome = true → ∃ code, submittedCode? submission runModeKey = some code ∧
    let ticked := checkCheckbox (submission.get? overrideKey)
    let mode := if ticked then code else before.standingMode
    let active := ticked && decide (code ≠ before.standingMode)
    snapshot.currentMode = mode ∧ page.form.shown? runModeKey = some (.code mode) ∧
      snapshot.overrideActive = active ∧ page.form.shown? overrideKey = some (.ticked active)
  kept : runModes = none →
    snapshot.currentMode = before.currentMode ∧
      snapshot.overrideActive = before.overrideMode.isSome

/-- A page of the system mode shows what was submitted for it. -/
structure SystemPage.ReadsBack (page : SystemPage) (submission : Texts) : Prop where
  mode : ∃ code primary, submittedCode? submission modeKey = some code ∧
    code.toInt = UInt8.toNat primary ∧ page.form.shown? modeKey = some (.code code) ∧
    page.mode = some (compose primary (checkCheckbox (submission.get? suppressKey)))
  suppress : page.form.shown? suppressKey =
    some (.ticked (checkCheckbox (submission.get? suppressKey)))

section

variable {submission : Texts} {values : Values}

/-- The page of a device after a submission that was accepted shows what was submitted. -/
lemma readsBack_submitted {tier : Tier} {entity : Entity} {device : Device}
    {offset : Number.Binary64} {runModes : Option (List Choice)}
    (h : (Form.entity entity.kind runModes).validate submission = .ok values)
    (hoffset : values.decimal? offsetKey = some offset) :
    let snapshot := (device.submitted offset
      ((overrideRequest? values).map (reconcile device.standingMode))).snapshot entity
    EntityPage.ReadsBack ⟨tier, entity, (Form.entity entity.kind runModes).fill
      (entityTexts snapshot) [], some snapshot⟩ snapshot submission device runModes := by
  intro snapshot
  have hvalue : snapshot.offset = offset := offset_submitted device offset _
  have hfield : ((Form.entity entity.kind runModes).fill (entityTexts snapshot) []).shown?
      offsetKey = some (.text offset.oneDecimal) := by
    rw [shown?_offset, hvalue]
  cases runModes with
  | none =>
    obtain ⟨value, hcheck, rfl⟩ := values_of_entity_none h
    obtain rfl : value = offset := Option.some.inj hoffset
    exact ⟨rfl, rfl, ⟨value, hcheck, hvalue, hfield⟩, nofun, fun _ => ⟨rfl, rfl⟩⟩
  | some modes =>
    obtain ⟨value, code, hcheck, hcode, rfl⟩ := values_of_entity_some h
    obtain rfl : value = offset := Option.some.inj hoffset
    have hmode : snapshot.currentMode = if checkCheckbox (submission.get? overrideKey) then code
        else device.standingMode := currentMode_submitted
    have hactive : snapshot.overrideActive = (checkCheckbox (submission.get? overrideKey) &&
        decide (code ≠ device.standingMode)) := isSome_overrideMode_submitted
    refine ⟨rfl, rfl, ⟨value, hcheck, hvalue, hfield⟩, fun _ => ?_, nofun⟩
    refine ⟨code, submittedCode?_of_checkChoice hcode, hmode, ?_, hactive, ?_⟩
    · rw [shown?_runMode, hmode]
    · rw [shown?_override, hactive]

/-- The page of a system mode that was submitted and accepted shows what was submitted. -/
lemma readsBack_mode {caller : Identity} {tier : Tier} {modes : List Choice}
    {change : SystemModeChange} {readings : List Reading}
    (h : (Form.system modes).validate submission = .ok values)
    (hchange : modeChange values = .ok change) :
    SystemPage.ReadsBack ⟨caller, tier, some change.composite,
      (Form.system modes).fill (systemTexts change.composite) [], readings⟩ submission := by
  obtain ⟨choice, -, hcode, hprimary, hbits, hsuppress⟩ := submitted_of_modeChange h hchange
  have hlow : primaryOf change.composite = change.primary := by
    rw [SystemModeChange.composite, primaryOf_compose, ← UInt8.toNat_inj, UInt8.toNat_mod]
    exact Nat.mod_eq_of_lt hbits
  have hhigh : suppressOf change.composite = checkCheckbox (submission.get? suppressKey) := by
    rw [SystemModeChange.composite, suppressOf_compose, hsuppress]
  refine ⟨⟨choice.code, change.primary, hcode, hprimary, ?_, ?_⟩, ?_⟩
  · apply shown?_mode
    rw [hlow, hprimary]
  · rw [← hsuppress]
    rfl
  · rw [shown?_suppress, hhigh]

end

/-! ### Reading after submitting -/

section

variable {portal : Portal} {post get : Request} {after : World}

/-- The page at the location of an entity shows what was submitted for it. -/
lemma reads_entity_back {context : EntityContext} {entity : Entity} {values : Values}
    {offset : Number.Binary64} {device : Device}
    (submission : EntitySubmission portal post context entity values)
    (hoffset : values.decimal? offsetKey = some offset)
    (hafter : after.plant.device? entity = some (device.submitted offset
      ((overrideRequest? values).map (reconcile device.standingMode))))
    (hget : get.method = .get) (htarget : get.target = entityLocation entity)
    (hcaller : portal.caller get = portal.caller post) :
    ∃ kind id runModes page snapshot, Portal.accept post = .ok (.entity kind id) ∧
      Entity.read? kind id = some entity ∧
      resolveChoices portal.settings (portal.caller post) kind.runModeKeys = .ok runModes ∧
      ((after.intervene (·.repaired)).serve portal get).1.1 = .plain 200 (.entity page) ∧
      page.entity = entity ∧
      page.ReadsBack snapshot (submittedTexts post.body) device runModes := by
  obtain ⟨id, hroute, haddressed⟩ := submission.route
  obtain ⟨hcontext, hentity⟩ := context_of_addressed haddressed
  obtain ⟨hkind, -, hrunModes⟩ := resolved_of_context hcontext
  have hread := (read_of_address hentity).1
  rw [hkind] at hread
  -- The entity has a path of its own, however its id was written in the submission.
  have hagain : addressed portal.settings (portal.caller get) entity.kind (ofInt64 entity.id) =
      .ok (context, entity) := by
    rw [hcaller]
    exact addressed_of_context hcontext (address_ofInt64 hentity)
  have hyields := yields_showEntity (Simulated.works_repaired after.plant) hagain hafter
  have hanswer := response_of_yields portal (after.intervene (·.repaired)) hget
    (accept_of_entityLocation hget htarget) hyields
  exact ⟨entity.kind, id, context.runModes, _, _, hroute, hread, hrunModes, hanswer, rfl,
    readsBack_submitted submission.accepted hoffset⟩

/-- The root page shows the system mode that was submitted. -/
lemma reads_mode_back {change : SystemModeChange} (hsound : portal.settings.Sound)
    (submission : ModeSubmission portal post change)
    (hprimary : after.plant.primary = change.primary)
    (hsuppress : after.plant.suppress = change.suppress)
    (hget : get.method = .get) (htarget : get.target = "/")
    (hcaller : portal.caller get = portal.caller post) :
    ∃ page, ((after.intervene (·.repaired)).serve portal get).1.1 = .plain 200 (.system page) ∧
      page.ReadsBack (submittedTexts post.body) := by
  obtain ⟨modes, values, hmodes, hvalues, hchange⟩ := submission.accepted
  rw [← hcaller] at hmodes
  obtain ⟨visible, hsensors⟩ := exists_sensors hsound (portal.caller get)
  obtain ⟨readings, warnings, hyields⟩ :=
    exists_yields_showSystemMode (Simulated.works_repaired after.plant) hmodes hsensors
  have hcomposite : compose after.plant.repaired.primary after.plant.repaired.suppress =
      change.composite := congrArg₂ compose hprimary hsuppress
  rw [hcomposite] at hyields
  have hanswer := response_of_yields portal (after.intervene (·.repaired)) hget
    (accept_of_root hget htarget) hyields
  exact ⟨_, hanswer, readsBack_mode hvalues hchange⟩

end

end Web

end HeatingPortal
