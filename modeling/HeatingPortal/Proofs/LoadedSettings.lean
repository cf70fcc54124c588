import HeatingPortal.Proofs.Reach
import HeatingPortal.Proofs.Sessions

/-!
# Loaded settings

Settings that were loaded from a document are sound, so no caller meets a fault of the
settings in an answer: the only error of the server that is left is a change that the
plant left half done.
-/

namespace HeatingPortal.Web

open Caller Form Plant Settings

/-- Under loaded settings every answer is orderly, whatever the plant does: every list that a
request resolves can be read, and every mode that a form accepts can be written. -/
theorem loaded_answers_orderly (document : Kdl.Document) (settings : Settings)
    (hload : ofKdl document = .ok settings) (header : String) :
    (∀ request world, (World.serve ⟨settings, header⟩ request world).1.1.Orderly) ∧
    (∀ caller, ∀ pair ∈ KeyPair.choicePairs,
      ∃ choices, resolveChoices settings caller pair = .ok choices) ∧
    (∀ caller, ∀ pair ∈ KeyPair.idPairs, ∃ ids, resolveIds settings caller pair = .ok ids) ∧
    ∀ caller modes submission values, systemModes settings caller = .ok modes →
      (Form.system modes).validate submission = .ok values →
        ∃ code change, values.choice? modeKey = some code ∧
          SystemModeChange.ofCode code (values.isChecked suppressKey) = .ok change := by
  have hsound := sound_of_ofKdl hload
  refine ⟨fun request world => ?_, fun caller pair hpair => ?_, fun caller pair hpair => ?_, ?_⟩
  · rw [World.serve_eq]
    exact (serve_within ⟨settings, header⟩ request).run Simulated.answer world.plant hsound
  · exact hsound.exists_choices hpair caller
  · exact hsound.exists_ids hpair caller
  · intro caller modes submission values hmodes hvalues
    exact hsound.exists_change hmodes hvalues

/-! ### A demonstration -/

/-- A document whose privileged modes are empty, so that the administrator
has the standard ones. -/
def demoDocument : Kdl.Document :=
  let integer (value : Int) : Kdl.Entry := ⟨none, .integer value⟩
  let text (value : String) : Kdl.Entry := ⟨none, .text value⟩
  let choice (code : Int) (label : String) : Kdl.Node :=
    ⟨"choice", [integer code, text label], none⟩
  [⟨"version", [integer 1], none⟩,
    ⟨"adminName", [text "admin"], none⟩,
    ⟨"privilegedModes", [], none⟩,
    ⟨"standardModes", [], some [choice 1 "Heating", choice 5 "Summer"]⟩,
    ⟨"privilegedCircuits", [integer 0, integer (-3)], none⟩,
    ⟨"standardCircuits", [integer 0], none⟩,
    ⟨"standardCircuitRunModes", [], some [choice 1 "Program", choice 2 "Comfort"]⟩,
    ⟨"standardTanks", [integer 0], none⟩,
    ⟨"privilegedIndoorSensors", [integer 1, integer 8], none⟩]

/-- The settings of the document. -/
def demoSettings : Settings where
  version := supportedVersion
  entries :=
    [("adminName", .scalar (.text "admin")),
      ("privilegedCircuits", .ids [0, -3]),
      ("privilegedIndoorSensors", .ids [1, 8]),
      ("privilegedModes", .ids []),
      ("standardCircuitRunModes", .choices [⟨1, "Program"⟩, ⟨2, "Comfort"⟩]),
      ("standardCircuits", .scalar (.integer 0)),
      ("standardModes", .choices [⟨1, "Heating"⟩, ⟨5, "Summer"⟩]),
      ("standardTanks", .scalar (.integer 0))]

lemma ofKdl_demoDocument : ofKdl demoDocument = .ok demoSettings :=
  eq_ok_of_parts (by decide +kernel)

/-- The administrator's submission is cut short by the plant. -/
theorem loaded_answers_orderly_halfDone :
    let request : Request :=
      ⟨.post, "/", [("x-remote-user", "admin"), ("content-type", formType)],
        "sysmode=5&suppress=on".toUTF8.toList⟩
    let stuck := (World.ofPlant .demo).intervene (·.failOn "set_suppress_flag")
    let answer := (stuck.serve (.ofSettings demoSettings) request).1.1
    ofKdl demoDocument = .ok demoSettings ∧ answer.status = 500 ∧
      answer.errorCode? = some halfDoneCode := by
  intro request stuck answer
  have hstatus : answer.status = 500 := by decide +kernel
  obtain ⟨horderly, -⟩ := loaded_answers_orderly demoDocument demoSettings ofKdl_demoDocument
    defaultIdentityHeader
  exact ⟨ofKdl_demoDocument, hstatus, (horderly request stuck).halfDone hstatus⟩

end HeatingPortal.Web
