import HeatingPortal.Proofs.Answers
import HeatingPortal.Proofs.PlainDecimals
import HeatingPortal.Proofs.Untouched

/-!
# The offset settles

A form shows an offset with one decimal, and sent back as it is it saves the double nearest to
that decimal. This is at least as near to the decimal as the offset was, so its tenths are the
same: from the first save on neither the stored offset nor its text changes.
-/

namespace HeatingPortal

namespace Number

/-! ### Tenths -/

variable {magnitude saved : Magnitude}

/-- The tenths of a magnitude are the whole number of tenths nearest to it. -/
lemma Magnitude.isNearestWhole_tenths (magnitude : Magnitude) :
    IsNearestWhole (magnitude.toRat * 10) magnitude.tenths := by
  have hnearest := isNearestWhole_nearestEven (magnitude.units * 10) unitsPerOne_pos
  rwa [Nat.cast_mul, Nat.cast_ofNat, mul_div_right_comm] at hnearest

/-- Distances in tenths. -/
lemma abs_sub_tenths (size : ℚ) (tenths : ℕ) :
    |size * 10 - tenths| = |size - tenths / 10| * 10 := by
  have hscale : size * 10 - tenths = (size - tenths / 10) * 10 := by ring
  rw [hscale, abs_mul, abs_of_pos (by norm_num : (0 : ℚ) < 10)]

/-- The tenths of a magnitude are at most half a tenth away. -/
lemma Magnitude.abs_sub_tenths_le (magnitude : Magnitude) :
    |magnitude.toRat - magnitude.tenths / 10| ≤ 1 / 20 := by
  have hnear := magnitude.isNearestWhole_tenths.near
  rw [abs_sub_tenths] at hnear
  linarith

/-- A magnitude that is as near to the tenths of another one has the same tenths. -/
lemma Magnitude.tenths_eq_of_le
    (h : |saved.toRat - magnitude.tenths / 10| ≤ |magnitude.toRat - magnitude.tenths / 10|) :
    saved.tenths = magnitude.tenths := by
  have hshown := magnitude.isNearestWhole_tenths
  have hcloser : |saved.toRat * 10 - magnitude.tenths| ≤
      |magnitude.toRat * 10 - magnitude.tenths| := by
    rw [abs_sub_tenths, abs_sub_tenths]
    exact mul_le_mul_of_nonneg_right h (by norm_num)
  refine saved.isNearestWhole_tenths.unique ⟨hcloser.trans hshown.near, fun htie => ?_⟩
  exact hshown.even (le_antisymm hshown.near (htie.symm.le.trans hcloser))

end Number

namespace Form

open Number Plant

/-! ### Texts -/

/-- The text of a number of tenths spells them. -/
lemma isUnsignedDecimal_tenthsText (tenths : ℕ) :
    IsUnsignedDecimal (tenthsText tenths) (tenths / 10) := by
  have hlast : (Nat.toDigits 10 (tenths % 10)).length = 1 := by
    rw [Nat.toDigits_of_lt_base (Nat.mod_lt _ (by decide)), List.length_singleton]
  have hsum : (tenths / 10 : ℚ) = (tenths / 10 : ℕ) + (tenths % 10 : ℕ) / 10 := by
    have hcast : (tenths : ℚ) = (tenths / 10 : ℕ) * 10 + (tenths % 10 : ℕ) := by
      exact_mod_cast (Nat.div_add_mod' tenths 10).symm
    rw [hcast, add_div, mul_div_cancel_right₀ _ (by norm_num)]
  have hdigits (n : ℕ) : ∀ c ∈ Nat.toDigits 10 n, c.isDigit = true :=
    fun _ => Text.isDigit_of_mem_toDigits
  have hspelled := IsUnsignedDecimal.point Nat.toDigits_ne_nil (hdigits (tenths / 10))
    (hdigits (tenths % 10))
  rw [Nat.ofDigitChars_ten_toDigits, Nat.ofDigitChars_ten_toDigits, hlast, pow_one, ← hsum]
    at hspelled
  exact hspelled

/-- The text of a finite number spells its tenths with its sign. -/
lemma isDecimal_oneDecimal (negative : Bool) (magnitude : Magnitude) :
    IsDecimal (Binary64.finite negative magnitude).oneDecimal.toList negative
      (magnitude.tenths / 10) := by
  have hspelled := isUnsignedDecimal_tenthsText magnitude.tenths
  rw [Binary64.oneDecimal, Layout.signed, String.toList_ofList]
  cases negative with
  | false => exact .unsigned hspelled
  | true => exact .minus hspelled

lemma get?_offset_entityTexts (snapshot : Snapshot) :
    (entityTexts snapshot).get? offsetKey = some snapshot.offset.oneDecimal := by
  simp [entityTexts, Texts.get?, List.lookup_cons, offsetKey]

/-! ### Saving a text -/

/-- What becomes of a number when the decimal that a form shows of it is saved.

The decimal is the nearest tenth, of two equally near ones the even one. It is accepted
as the nearest double, which is at least as near to it as the number was, and the form
shows the same of it. -/
structure Settles (value : Binary64) (text : String) (shown : ℚ) (saved : Binary64) : Prop where
  spells : ∃ tenths : ℕ, IsNearestWhole (|value.toRat| * 10) tenths ∧
    IsDecimal text.toList value.isNegative (tenths / 10) ∧
    shown = withSign value.isNegative (tenths / 10)
  accepted : checkDecimal (some text) = .ok saved
  nearest : saved.isNegative = value.isNegative ∧ saved.IsNearest shown
  closer : |saved.toRat - shown| ≤ |value.toRat - shown|
  close : |value.toRat - shown| ≤ 1 / 20
  again : saved.oneDecimal = text

lemma abs_toRat_finite (negative : Bool) (magnitude : Magnitude) :
    |(Binary64.finite negative magnitude).toRat| = magnitude.toRat := by
  have hdist := abs_withSign_sub negative magnitude.toRat 0
  rwa [withSign_zero, sub_zero, sub_zero, abs_of_nonneg magnitude.toRat_nonneg] at hdist

lemma settles_finite (negative : Bool) (magnitude : Magnitude) :
    ∃ saved, Settles (.finite negative magnitude)
      (Binary64.finite negative magnitude).oneDecimal
      (withSign negative (magnitude.tenths / 10)) saved := by
  have htenth : (magnitude.tenths * 10 ^ (-1 : ℤ) : ℚ) = magnitude.tenths / 10 := by
    rw [zpow_neg_one, div_eq_mul_inv]
  have hfinite := Binary64.isFinite_ofDecimal_tenths negative magnitude
  have hsmall := (Binary64.isFinite_ofDecimal_iff negative).mp hfinite
  obtain ⟨saved, hrounded, hnearest⟩ := Binary64.exists_ofDecimal_eq_finite hsmall negative
  rw [htenth] at hnearest
  have hcloser : |saved.toRat - magnitude.tenths / 10| ≤
      |magnitude.toRat - magnitude.tenths / 10| := by
    rw [abs_sub_comm, abs_sub_comm magnitude.toRat]
    exact hnearest.le_abs magnitude
  have hsize : (0 : ℚ) ≤ magnitude.tenths / 10 := by positivity
  refine ⟨.finite negative saved, ⟨magnitude.tenths, ?_, ?_, rfl⟩, ?_, ⟨rfl, ?_⟩, ?_, ?_, ?_⟩
  · rw [abs_toRat_finite]
    exact magnitude.isNearestWhole_tenths
  · exact isDecimal_oneDecimal negative magnitude
  · rw [checkDecimal_oneDecimal_eq_ok_iff]
    refine ⟨rfl, ?_⟩
    rw [← hrounded]
    exact Binary64.ofPlainDecimal?_tenthsText negative magnitude.tenths
  · exact (Binary64.isNearest_finite_iff hsize).mpr hnearest
  · exact (abs_withSign_sub ..).trans_le (hcloser.trans_eq (abs_withSign_sub ..).symm)
  · exact (abs_withSign_sub ..).trans_le magnitude.abs_sub_tenths_le
  · exact congrArg (fun tenths => Layout.signed negative (tenthsText tenths))
      (Magnitude.tenths_eq_of_le hcloser)

/-- What a form shows of a finite number settles. -/
theorem exists_settles {value : Binary64} (h : value.isFinite = true) :
    ∃ shown saved, Settles value value.oneDecimal shown saved := by
  cases value with
  | finite negative magnitude =>
    obtain ⟨saved, hsettles⟩ := settles_finite negative magnitude
    exact ⟨_, saved, hsettles⟩
  | nan | infinite => cases h

/-- A form shows the same of a number that was read from its text. -/
lemma oneDecimal_of_checkDecimal {value saved : Binary64}
    (h : checkDecimal (some value.oneDecimal) = .ok saved) :
    saved.oneDecimal = value.oneDecimal := by
  obtain ⟨hfinite, -⟩ := checkDecimal_oneDecimal_eq_ok_iff.mp h
  obtain ⟨shown, settled, hsettles⟩ := exists_settles hfinite
  rw [hsettles.accepted] at h
  cases h
  exact hsettles.again

end Form

/-! ### Showing a device -/

namespace Plant

variable {plant : Simulated} {entity : Entity} {device : Device}

/-- What is read from a device is what it has, or nothing. -/
lemma ends_send_of_read (hdevice : plant.device? entity = some device) (operation : Operation)
    (f : Device → operation.Reply) (hread : operation.isWrite = false)
    (hanswer : (plant.answer operation).1 = (plant.read operation entity f).1) :
    Task.Ends operation.send plant (fun reply after _ => reply = f device ∧ after = plant)
      fun _ after _ => after = plant := by
  refine (operation.ends_send_read hread plant).mono ?_ fun _ _ _ h => h.2.1
  rintro reply after writes ⟨hreply, rfl, -⟩
  exact ⟨(Simulated.reply_of_read hdevice (hanswer.symm.trans hreply)).symm, rfl⟩

/-- Whatever fails, a snapshot that is read has the state of the device. -/
lemma ends_fetch (hdevice : plant.device? entity = some device) :
    Task.Ends (Snapshot.fetch entity) plant
      (fun snapshot after _ => snapshot = device.snapshot entity ∧ after = plant)
      fun _ after _ => after = plant := by
  have hsend := ends_send_of_read hdevice
  have hstop (failure : Failure) (after : Simulated) (writes : List Performed)
      (h : after = plant) : after = plant := h
  refine (hsend (.name entity) (·.name) rfl rfl).bind hstop ?_
  rintro _ _ _ ⟨rfl, rfl⟩
  refine (hsend (.standingMode entity) (·.standingMode) rfl rfl).bind hstop ?_
  rintro _ _ _ ⟨rfl, rfl⟩
  refine (hsend (.currentMode entity) (·.currentMode) rfl rfl).bind hstop ?_
  rintro _ _ _ ⟨rfl, rfl⟩
  refine (hsend (.overrideActive entity) (·.overrideMode.isSome) rfl rfl).bind hstop ?_
  rintro _ _ _ ⟨rfl, rfl⟩
  refine (hsend (.offset entity) (·.offset) rfl rfl).bind hstop ?_
  rintro _ _ _ ⟨rfl, rfl⟩
  refine (hsend (.setpoints entity) (·.setpoints) rfl rfl).bind hstop ?_
  rintro _ _ _ ⟨rfl, rfl⟩
  refine (hsend (.hasAmbientSensor entity) (·.hasAmbientSensor) rfl rfl).bind hstop ?_
  rintro _ _ _ ⟨rfl, rfl⟩
  exact Task.ends_pure ⟨rfl, rfl⟩

end Plant

namespace Web

open Caller Form Number Plant

/-! ### Untouched saves -/

/-- The form of an entity as it is read from a world and sent back as it was
shown, and accepted. -/
structure UntouchedSave (portal : Portal) (entity : Entity) (world : World) where
  get : Request
  post : Request
  kind : Kind
  id : String
  page : EntityPage
  isGet : get.method = .get
  isPost : post.method = .post
  route : Portal.accept get = .ok (.entity kind id)
  sameRoute : Portal.accept post = .ok (.entity kind id)
  sameCaller : portal.caller post = portal.caller get
  shown : (world.serve portal get).1.1 = .plain 200 (.entity page)
  ofEntity : page.entity = entity
  sentBack : page.form.SentBack (submittedTexts post.body)
  accepted : ((world.serve portal get).2.serve portal post).1.1.status = 303

/-- The world after an untouched save. -/
def UntouchedSave.after {portal : Portal} {entity : Entity} {world : World}
    (save : UntouchedSave portal entity world) : World :=
  ((world.serve portal save.get).2.serve portal save.post).2

/-- The offset of an entity. -/
def World.offset? (world : World) (entity : Entity) : Option Binary64 :=
  (world.plant.device? entity).map (·.offset)

/-- Worlds that come about by a number of untouched saves of an entity; in between anything may
happen that leaves its offset as it is. -/
inductive Saves (portal : Portal) (entity : Entity) (start : World) : ℕ → World → Prop
  | none : Saves portal entity start 0 start
  | meanwhile {count : ℕ} {world : World} (h : Saves portal entity start count world)
      (event : Event)
      (hkept : (world.after portal event).offset? entity = world.offset? entity) :
      Saves portal entity start count (world.after portal event)
  | save {count : ℕ} {world : World} (h : Saves portal entity start count world)
      (save : UntouchedSave portal entity world) :
      Saves portal entity start (count + 1) save.after

section

variable {portal : Portal} {entity : Entity} {world start : World}

/-- Whatever fails, a page that is shown has the state of the device. -/
lemma page_of_shown {get : Request} {kind : Kind} {id : String} {context : EntityContext}
    {page : EntityPage} {device : Device} (hget : get.method = .get)
    (hroute : Portal.accept get = .ok (.entity kind id))
    (haddressed : addressed portal.settings (portal.caller get) kind id = .ok (context, entity))
    (hdevice : world.plant.device? entity = some device)
    (hpage : (world.serve portal get).1.1 = .plain 200 (.entity page)) :
    page.entity = entity ∧ page.form =
      (Form.entity kind context.runModes).fill (entityTexts (device.snapshot entity)) [] := by
  let shown : EntityPage := {
    tier := .of portal.settings (portal.caller get)
    entity
    form := (Form.entity kind context.runModes).fill (entityTexts (device.snapshot entity)) []
    state := some (device.snapshot entity) }
  have hview : Task.Ends (portal.handle get (.entity kind id)) world.plant
      (fun outcome _ _ => outcome = .ofResponse (.plain 200 (.entity shown)))
      fun _ _ _ => True := by
    rw [handle_of_get hget]
    simp only [Portal.view, showEntity, haddressed]
    refine ((Task.reads_ofExcept _).ends _).bind (fun _ _ _ _ => trivial) ?_
    rintro _ _ _ ⟨⟨⟩, rfl, -⟩
    refine (Task.ends_ofPlant (ends_fetch hdevice)).bind (fun _ _ _ _ => trivial) ?_
    rintro _ _ _ ⟨rfl, rfl⟩
    exact Task.ends_pure rfl
  have hserve : (portal.serve get).Ends world.plant fun outcome _ _ =>
      outcome.response = .plain 200 (.entity shown) ∨
        ∃ error, outcome.response = .ofError error := by
    simp only [Portal.serve, hroute]
    refine Program.Ends.bind hview ?_
    rw [hget]
    rintro (error | outcome) after writes houtcome
    · exact .inr ⟨error, rfl⟩
    · rw [houtcome]
      exact .inl rfl
  rw [World.serve_eq] at hpage
  rcases hserve with hsame | ⟨error, herror⟩
  · have hdocument : Document.entity shown = .entity page :=
      congrArg Response.document (hsame.symm.trans hpage)
    rw [← Document.entity.inj hdocument]
    exact ⟨rfl, rfl⟩
  · have hdocument : Document.error error = .entity page :=
      congrArg Response.document (herror.symm.trans hpage)
    cases hdocument

/-- Showing a page leaves the plant as it is. -/
lemma plant_of_shown {get : Request} {page : EntityPage}
    (hpage : (world.serve portal get).1.1 = .plain 200 (.entity page)) :
    (world.serve portal get).2.plant = world.plant := by
  obtain ⟨outcome, plant, heffect, hanswer, hafter⟩ := World.exists_effect portal get world
  rw [hpage] at hanswer
  have hstatus : outcome.response.status = 200 := by
    rw [← hanswer]
    rfl
  have hhalf : ¬outcome.response.IsHalfDone := by
    rintro ⟨hfailed, -⟩
    cases hstatus.symm.trans hfailed
  obtain ⟨hplant, -⟩ := heffect.unchanged (by rw [hstatus]; decide) hhalf
  rw [hafter, World.plant_commit, hplant]

/-- An untouched save stores the number that is read from the text of the offset. -/
lemma UntouchedSave.exists_offset (save : UntouchedSave portal entity world) :
    ∃ offset saved, world.offset? entity = some offset ∧
      checkDecimal (some offset.oneDecimal) = .ok saved ∧
      save.after.offset? entity = some saved := by
  obtain ⟨get, post, kind, id, page, hget, hpost, hroute, haccept, hcaller, hpage, rfl, hsent,
    hstatus⟩ := save
  have hcommitted := World.committed hstatus
  rw [plant_of_shown hpage] at hcommitted
  generalize ((world.serve portal get).2.serve portal post).1.1 = response at hcommitted
  generalize ((world.serve portal get).2.outcome portal post).publish = publish at hcommitted
  cases hcommitted with
  | mode submission => cases haccept.symm.trans submission.route
  | @entity context entity values offset device submission hoffset hdevice hafter =>
    obtain ⟨spelled, hagain, haddressed⟩ := submission.route
    cases haccept.symm.trans hagain
    rw [hcaller] at haddressed
    obtain ⟨rfl, hform⟩ := page_of_shown hget hroute haddressed hdevice hpage
    rw [hform] at hsent
    obtain ⟨saved, hsaved, hread, -⟩ := asked_of_sentBack hsent submission.accepted
    cases hsaved.symm.trans hoffset
    obtain ⟨hfinite, -⟩ :=
      (exists_validate_entity_sentBack_iff hsent).mp ⟨values, submission.accepted⟩
    refine ⟨device.offset, offset, ?_,
      checkDecimal_oneDecimal_eq_ok_iff.mpr ⟨hfinite, hread⟩, ?_⟩
    · rw [World.offset?, hdevice]
      rfl
    · rw [World.offset?, UntouchedSave.after, hafter, Option.map_some, offset_submitted]

/-- However often a form is saved untouched, its offset is the one that the first save stored,
and the form shows the text that it showed at first. -/
lemma Saves.settled {count : ℕ} (h : Saves portal entity start count world) {offset : Binary64}
    (hoffset : start.offset? entity = some offset) :
    (count = 0 ∧ world.offset? entity = some offset) ∨
      ∃ saved, checkDecimal (some offset.oneDecimal) = .ok saved ∧
        world.offset? entity = some saved := by
  induction h with
  | none => exact .inl ⟨rfl, hoffset⟩
  | meanwhile _ event hkept ih =>
    rw [hkept]
    exact ih
  | save _ save ih =>
    obtain ⟨before, saved, hbefore, haccepted, hafter⟩ := save.exists_offset
    refine .inr ⟨saved, ?_, hafter⟩
    rcases ih with ⟨-, hfirst⟩ | ⟨settled, hsettled, hlater⟩
    · cases hfirst.symm.trans hbefore
      exact haccepted
    · cases hlater.symm.trans hbefore
      rwa [oneDecimal_of_checkDecimal hsettled] at haccepted

end

/-- The offset of an entity settles with the first untouched save. The form shows a finite offset
to one decimal; that text is accepted as a number at least as near to it as the offset, which is
shown in the same way. So after any positive number of untouched saves the stored offset is the
one that the first of them stored, and the text is the one that was shown at first. -/
theorem offset_settles :
    (∀ snapshot : Snapshot, snapshot.offset.isFinite = true →
      ∃ text shown saved, (entityTexts snapshot).get? offsetKey = some text ∧
        Settles snapshot.offset text shown saved) ∧
    (∀ (portal : Portal) (entity : Entity) (start world : World) (count : ℕ) (offset : Binary64),
      start.offset? entity = some offset → Saves portal entity start count world → 0 < count →
      ∃ saved, checkDecimal (some offset.oneDecimal) = .ok saved ∧
        world.offset? entity = some saved ∧ saved.oneDecimal = offset.oneDecimal) := by
  constructor
  · intro snapshot hfinite
    obtain ⟨shown, saved, hsettles⟩ := exists_settles hfinite
    exact ⟨_, shown, saved, get?_offset_entityTexts snapshot, hsettles⟩
  · intro portal entity start world count offset hoffset hsaves hpositive
    rcases hsaves.settled hoffset with ⟨rfl, -⟩ | ⟨saved, haccepted, hsaved⟩
    · exact absurd hpositive (Nat.lt_irrefl 0)
    · exact ⟨saved, haccepted, hsaved, oneDecimal_of_checkDecimal haccepted⟩

/-- Where doubles are a quarter apart, a quarter is shown as two tenths
and saved as a quarter. -/
theorem offset_settles_quarter :
    let entity : Entity := ⟨.circuit, 0⟩
    let offset := Binary64.ofDecimal false 112589990684262425 (-2)
    let plant := Simulated.demo.after (.call (.setOffset entity offset))
    offset.oneDecimal = "1125899906842624.2" ∧
      (∃ shown saved, Settles offset offset.oneDecimal shown saved) ∧
      ∃ after, Saves .demo entity (.ofPlant plant) 1 after ∧
        ∃ saved, checkDecimal (some offset.oneDecimal) = .ok saved ∧
          after.offset? entity = some saved ∧ saved.oneDecimal = offset.oneDecimal := by
  intro entity offset plant
  let get : Request := ⟨.get, "/circuits/0", [], []⟩
  let post := Request.submission "/circuits/0" "offset=1125899906842624.2&runmode=1"
  let modes : List Settings.Choice := [⟨1, "Program"⟩, ⟨2, "Comfort"⟩, ⟨9, "Party"⟩]
  obtain ⟨hsettles, hruns⟩ := offset_settles
  have hfinite : offset.isFinite = true := by decide +kernel
  have hworks : plant.Works := by
    have hfails : plant.fails = Simulated.demo.fails := Simulated.fails_answer ..
    intro label
    rw [hfails]
    rfl
  have hroute : Portal.accept get = .ok (.entity .circuit "0") :=
    eq_ok_of_toOption (by decide +kernel)
  have hagain : Portal.accept post = .ok (.entity .circuit "0") :=
    eq_ok_of_toOption (by decide +kernel)
  have haddressed : (addressed Portal.demo.settings (Portal.demo.caller get) .circuit
      "0").toOption.map (fun found => (found.2, found.1.runModes)) =
        some (entity, some modes) := by
    decide +kernel
  obtain ⟨⟨context, found⟩, haddressed, hfound⟩ := Option.map_eq_some_iff.mp haddressed
  obtain ⟨rfl, hoffered⟩ := Prod.mk.inj hfound
  have haddressed := eq_ok_of_toOption haddressed
  have hdevice : (plant.device? entity).map (fun device => (device.offset,
      decide (((Form.entity .circuit (some modes)).fill (entityTexts (device.snapshot entity)) []
        ).SentBack (submittedTexts post.body)))) = some (offset, true) := by
    decide +kernel
  obtain ⟨device, hdevice, hstate⟩ := Option.map_eq_some_iff.mp hdevice
  simp only [Prod.mk.injEq, decide_eq_true_eq] at hstate
  obtain ⟨hoffset, hsent⟩ := hstate
  rw [← hoffered] at hsent
  obtain ⟨page, hpage, hentity, hform⟩ : ∃ page,
      (World.ofPlant plant).serve .demo get = ((.plain 200 (.entity page), []), .ofPlant plant) ∧
        page.entity = entity ∧ page.form =
          (Form.entity .circuit context.runModes).fill
            (entityTexts (device.snapshot entity)) [] :=
    ⟨_, serve_showEntity hworks rfl hroute haddressed hdevice, rfl, rfl⟩
  let save : UntouchedSave .demo entity (.ofPlant plant) := {
    get, post, page
    kind := .circuit
    id := "0"
    isGet := rfl
    isPost := rfl
    route := hroute
    sameRoute := hagain
    sameCaller := by decide +kernel
    shown := by rw [hpage]
    ofEntity := hentity
    sentBack := by rwa [hform]
    accepted := by decide +kernel }
  refine ⟨by decide +kernel, ?_, save.after, .save .none save, ?_⟩
  · rw [← hoffset] at hfinite ⊢
    obtain ⟨text, shown, saved, htext, hsaved⟩ := hsettles (device.snapshot entity) hfinite
    cases (get?_offset_entityTexts _).symm.trans htext
    exact ⟨shown, saved, hsaved⟩
  · have hstart : (World.ofPlant plant).offset? entity = some offset :=
      (congrArg (Option.map Device.offset) hdevice).trans (congrArg some hoffset)
    exact hruns .demo entity (.ofPlant plant) save.after 1 offset hstart (.save .none save)
      Nat.one_pos

end Web

end HeatingPortal
