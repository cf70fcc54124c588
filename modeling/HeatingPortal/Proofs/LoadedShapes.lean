import HeatingPortal.Proofs.LoadedSettings
import HeatingPortal.Proofs.NodeValues

/-!
# Which documents load

A document loads exactly when it has the documented shape (`Documented`): no name twice, the only
supported version, a value under every key, and under the known keys what they are for. Loading
then keeps the value of every node (`loads_iff_documented`).
-/

namespace HeatingPortal.Settings

variable {document seen rest : Kdl.Document} {node : Kdl.Node} {loading next last : Loading}
  {settings : Settings} {key : String}

/-- The documented shape of a document. -/
structure Documented (document : Kdl.Document) : Prop where
  names : (document.map (·.name)).Nodup
  version : ∀ node ∈ document, node.name = versionKey → node.entries = [argument (.integer 1)]
  values : ∀ node ∈ document, node.name ≠ versionKey → ∃ value, Spells node value
  texts : ∀ node ∈ document, node.name ∈ [adminName, appTitle] →
    ∃ text, node.children = none ∧ node.entries = [argument (.text text)]
  choices : ∀ node ∈ document, node.name ∈ KeyPair.choicePairs.flatMap KeyPair.keys →
    node.children.isSome = true ∨ node.entries = []
  modes : ∀ node ∈ document, node.name ∈ KeyPair.modes.keys →
    ∀ children, node.children = some children → ∀ child ∈ children, ∀ choice,
      SpellsChoice child choice → 0 ≤ choice.code.toInt ∧ choice.code.toInt ≤ 127
  ids : ∀ node ∈ document, node.name ∈ KeyPair.idPairs.flatMap KeyPair.keys →
    node.children = none ∧ ∃ list : List Int64, node.entries = list.map integerArgument

/-! ### Keys -/

lemma isSome_get?_iff : (settings.get? key).isSome = true ↔ key ∈ settings.keys := by
  unfold get? keys
  induction settings.entries with
  | nil => simp
  | cons entry rest ih =>
    by_cases heq : key = entry.1
    · simp [heq]
    · rw [lookup_cons_ne _ _ heq, ih]
      simp [heq]

/-- A value under a new key is one more entry. -/
lemma perm_insertEntry {entries : List (String × Value)} (h : key ∉ entries.map (·.1))
    (value : Value) : (insertEntry key value entries).Perm ((key, value) :: entries) := by
  induction entries with
  | nil => exact .refl _
  | cons entry rest ih =>
    obtain ⟨hne, hrest⟩ : key ≠ entry.1 ∧ key ∉ rest.map (·.1) := by simpa using h
    rw [insertEntry, if_neg hne]
    split
    · exact .refl _
    · exact ((ih hrest).cons entry).trans (.swap (key, value) entry rest)

/-! ### Loading node by node -/

lemma formatVersion_eq_ok_iff {version : Int64} :
    formatVersion node = .ok version ↔ node.entries = [integerArgument version] := by
  unfold formatVersion
  rw [bind_eq_ok_iff]
  simp only [arguments_eq_ok_iff]
  constructor
  · rintro ⟨list, hlist, h⟩
    -- Only a single integer is read on.
    rcases list with _ | ⟨first, _ | ⟨second, rest⟩⟩
    · cases h
    · cases first with
      | integer n =>
        dsimp only at h
        cases hword : Text.word? n with
        | none =>
          rw [hword] at h
          cases h
        | some word =>
          rw [hword] at h
          cases h
          rw [Text.word?_eq_some_iff] at hword
          rw [hlist, hword]
          rfl
      | text | real | bool | null => cases h
    · cases first <;> cases h
  · intro hlist
    refine ⟨[.integer version.toInt], hlist, ?_⟩
    dsimp only
    rw [Text.word?_toInt]
    rfl

/-- What has been loaded from the nodes seen so far. -/
structure Holds (seen : Kdl.Document) (loading : Loading) : Prop where
  names : (seen.map (·.name)).Nodup
  versionSeen : loading.versionSeen = true ↔ versionKey ∈ seen.map (·.name)
  version : ∀ node ∈ seen, node.name = versionKey →
    node.entries = [integerArgument loading.settings.version]
  unversioned : versionKey ∉ seen.map (·.name) → loading.settings.version = supportedVersion
  keys : loading.settings.keys.Perm ((seen.map (·.name)).filter (· ≠ versionKey))
  values : ∀ node ∈ seen, node.name ≠ versionKey →
    ∃ value, loading.settings.get? node.name = some value ∧ Spells node value

namespace Holds

lemma nil : Holds [] ⟨empty, false⟩ := by
  constructor <;> simp [empty, Settings.keys]

/-- A key is taken by a node of its name. -/
lemma isSome_get?_iff (h : Holds seen loading) (hname : node.name ≠ versionKey) :
    (loading.settings.get? node.name).isSome = true ↔ node.name ∈ seen.map (·.name) := by
  rw [Settings.isSome_get?_iff, h.keys.mem_iff, List.mem_filter]
  simp [hname]

/-- A node adds what it says, where its name is new. -/
lemma addNode_eq_ok_iff (h : Holds seen loading) :
    loading.addNode node = .ok next ↔ node.name ∉ seen.map (·.name) ∧
      ((node.name = versionKey ∧ ∃ version, node.entries = [integerArgument version] ∧
          next = ⟨{ loading.settings with version }, true⟩) ∨
        (node.name ≠ versionKey ∧ ∃ value, Spells node value ∧
          next = { loading with settings := loading.settings.insert node.name value })) := by
  unfold Loading.addNode
  by_cases hname : node.name = versionKey
  · rw [if_pos hname, hname, ← h.versionSeen]
    by_cases hseen : loading.versionSeen = true
    · rw [if_pos hseen]
      exact ⟨nofun, fun hnew => absurd hseen hnew.1⟩
    · rw [if_neg hseen]
      simp only [hseen, Bool.false_eq_true, not_false_eq_true, true_and, ne_eq,
        not_true_eq_false, false_and, or_false]
      refine bind_eq_ok_iff.trans (exists_congr fun version => ?_)
      rw [formatVersion_eq_ok_iff]
      exact and_congr_right' (by simp [pure, Except.pure, eq_comm])
  · rw [if_neg hname, ← h.isSome_get?_iff hname]
    by_cases hheld : (loading.settings.get? node.name).isSome = true
    · rw [if_pos hheld]
      exact ⟨nofun, fun hnew => absurd hheld hnew.1⟩
    · rw [if_neg hheld]
      simp only [hheld, hname, Bool.false_eq_true, not_false_eq_true, true_and, ne_eq, false_and,
        false_or]
      refine bind_eq_ok_iff.trans (exists_congr fun value => ?_)
      rw [value_eq_ok_iff]
      exact and_congr_right' (by simp [pure, Except.pure, eq_comm])

/-- The nodes seen so far are kept when the next one is added. -/
lemma snoc (h : Holds seen loading) (hadd : loading.addNode node = .ok next) :
    Holds (seen ++ [node]) next := by
  obtain ⟨hnew, hnext⟩ := h.addNode_eq_ok_iff.mp hadd
  have hother {other : Kdl.Node} (hmem : other ∈ seen) : other.name ≠ node.name := by
    intro heq
    exact hnew (List.mem_map.mpr ⟨other, hmem, heq⟩)
  rcases hnext with ⟨hname, version, hentries, rfl⟩ | ⟨hname, value, hspells, rfl⟩
  · constructor
    · exact nodup_map_append_singleton.mpr ⟨hnew, h.names⟩
    · simp [hname]
    · intro other hmem hversion
      rcases List.mem_append.mp hmem with hmem | hmem
      · exact absurd (hversion.trans hname.symm) (hother hmem)
      · rw [List.mem_singleton.mp hmem, hentries]
    · intro hnone
      simp [hname] at hnone
    · have hsame : ((seen ++ [node]).map (·.name)).filter (· ≠ versionKey) =
          (seen.map (·.name)).filter (· ≠ versionKey) := by simp [hname]
      rw [hsame]
      exact h.keys
    · intro other hmem hvalue
      rcases List.mem_append.mp hmem with hmem | hmem
      · exact h.values other hmem hvalue
      · exact absurd ((List.mem_singleton.mp hmem) ▸ hname) hvalue
  · have hfree : node.name ∉ loading.settings.keys := by
      rw [← Settings.isSome_get?_iff, h.isSome_get?_iff hname]
      exact hnew
    constructor
    · exact nodup_map_append_singleton.mpr ⟨hnew, h.names⟩
    · rw [h.versionSeen]
      simp [Ne.symm hname]
    · intro other hmem hversion
      rcases List.mem_append.mp hmem with hmem | hmem
      · exact h.version other hmem hversion
      · exact absurd ((List.mem_singleton.mp hmem) ▸ hversion) hname
    · intro hnone
      apply h.unversioned
      intro hmem
      exact hnone (by simp [hmem])
    · have hkeys := (perm_insertEntry hfree value).map (·.1)
      refine (hkeys.trans (h.keys.cons node.name)).trans ?_
      rw [List.map_append, List.filter_append]
      simpa [hname] using (List.perm_append_singleton node.name _).symm
    · intro other hmem hvalue
      rcases List.mem_append.mp hmem with hmem | hmem
      · rw [get?_insert_ne _ _ (hother hmem)]
        exact h.values other hmem hvalue
      · rw [List.mem_singleton.mp hmem, get?_insert_self]
        exact ⟨value, rfl, hspells⟩

lemma foldlM (h : Holds seen loading)
    (hload : rest.foldlM Loading.addNode loading = .ok last) : Holds (seen ++ rest) last := by
  induction rest generalizing seen loading with
  | nil =>
    cases hload
    rwa [List.append_nil]
  | cons node rest ih =>
    rw [List.foldlM_cons] at hload
    obtain ⟨next, hadd, hload⟩ := bind_eq_ok hload
    rw [List.append_cons]
    exact ih (h.snoc hadd) hload

/-- Nodes with names and shapes of their own can all be added. -/
lemma exists_foldlM (h : Holds seen loading) (hnames : ((seen ++ rest).map (·.name)).Nodup)
    (hversion : ∀ node ∈ rest, node.name = versionKey →
      ∃ version, node.entries = [integerArgument version])
    (hvalues : ∀ node ∈ rest, node.name ≠ versionKey → ∃ value, Spells node value) :
    ∃ last, rest.foldlM Loading.addNode loading = .ok last := by
  induction rest generalizing seen loading with
  | nil => exact ⟨loading, rfl⟩
  | cons node rest ih =>
    rw [List.append_cons] at hnames
    obtain ⟨hnode, hversion⟩ := List.forall_mem_cons.mp hversion
    obtain ⟨hvalue, hvalues⟩ := List.forall_mem_cons.mp hvalues
    have hnew : node.name ∉ seen.map (·.name) := by
      rw [List.map_append] at hnames
      exact (nodup_map_append_singleton.mp (List.nodup_append.mp hnames).1).1
    obtain ⟨next, hadd⟩ : ∃ next, loading.addNode node = .ok next := by
      by_cases hname : node.name = versionKey
      · obtain ⟨version, hentries⟩ := hnode hname
        exact ⟨_, h.addNode_eq_ok_iff.mpr ⟨hnew, .inl ⟨hname, version, hentries, rfl⟩⟩⟩
      · obtain ⟨value, hspells⟩ := hvalue hname
        exact ⟨_, h.addNode_eq_ok_iff.mpr ⟨hnew, .inr ⟨hname, value, hspells, rfl⟩⟩⟩
    obtain ⟨last, hload⟩ := ih (h.snoc hadd) hnames hversion hvalues
    exact ⟨last, bind_eq_ok_iff.mpr ⟨next, hadd, hload⟩⟩

/-- What holds of the value of a key holds of whatever a node of that name spells. -/
lemma forall_get?_iff (h : Holds seen loading) (hkey : key ≠ versionKey)
    {property : Value → Prop} :
    (∀ value, loading.settings.get? key = some value → property value) ↔
      ∀ node ∈ seen, node.name = key → ∀ value, Spells node value → property value := by
  constructor
  · rintro hall node hmem rfl value hspells
    obtain ⟨found, hfound, hsame⟩ := h.values node hmem hkey
    exact hspells.eq hsame ▸ hall found hfound
  · intro hall value hvalue
    have hmem : key ∈ loading.settings.keys := Settings.isSome_get?_iff.mp (by simp [hvalue])
    obtain ⟨hmem, -⟩ := List.mem_filter.mp (h.keys.mem_iff.mp hmem)
    obtain ⟨node, hnode, rfl⟩ := List.mem_map.mp hmem
    obtain ⟨found, hfound, hspells⟩ := h.values node hnode hkey
    cases hvalue.symm.trans hfound
    exact hall node hnode rfl value hspells

end Holds

/-! ### Checking -/

lemma forM_eq_ok_iff {ε δ : Type} {f : δ → Except ε Unit} {items : List δ} :
    items.forM f = .ok () ↔ ∀ item ∈ items, f item = .ok () := by
  refine ⟨forM_eq_ok, fun h => ?_⟩
  induction items with
  | nil => rfl
  | cons item rest ih =>
    obtain ⟨hitem, hrest⟩ := List.forall_mem_cons.mp h
    exact bind_eq_ok_iff.mpr ⟨(), hitem, ih hrest⟩

lemma require_eq_ok_iff {fits : Value → Bool} {fault : String → Fault} :
    settings.require fits fault key = .ok () ↔
      ∀ value, settings.get? key = some value → fits value = true := by
  refine ⟨fun h value hvalue => fits_of_require h hvalue, fun h => ?_⟩
  unfold require
  cases hvalue : settings.get? key with
  | none => rfl
  | some value => exact if_pos (h value hvalue)

lemma forM_require_eq_ok_iff {keys : List String} {fits : Value → Bool}
    {fault : String → Fault} :
    keys.forM (settings.require fits fault) = .ok () ↔
      ∀ key ∈ keys, ∀ value, settings.get? key = some value → fits value = true := by
  simp only [forM_eq_ok_iff, require_eq_ok_iff]

lemma requireModeCodes_eq_ok_iff : settings.requireModeCodes key = .ok () ↔
    ∀ value, settings.get? key = some value → ∀ choices, value.choices? = some choices →
      ∀ choice ∈ choices, isModeCode choice.code = true := by
  refine ⟨fun h value hvalue choices hchoices =>
    isModeCode_of_requireModeCodes h hvalue hchoices, fun h => ?_⟩
  unfold requireModeCodes
  cases hfind :
      (((settings.get? key).bind Value.choices?).getD []).find? (!isModeCode ·.code) with
  | none => rfl
  | some choice =>
    -- A code that does not fit would be among the choices of the key.
    have hcode : isModeCode choice.code = false := by simpa using List.find?_some hfind
    have hmem := List.mem_of_find?_eq_some hfind
    cases hchoices : (settings.get? key).bind Value.choices? with
    | none =>
      rw [hchoices] at hmem
      cases hmem
    | some choices =>
      rw [hchoices] at hmem
      obtain ⟨value, hvalue, hread⟩ := Option.bind_eq_some_iff.mp hchoices
      have hfits := h value hvalue choices hread choice hmem
      rw [hcode] at hfits
      cases hfits

lemma check_eq_ok_iff : settings.check = .ok () ↔ settings.version = supportedVersion ∧
    (∀ key ∈ [adminName, appTitle], ∀ value, settings.get? key = some value →
      value.text?.isSome = true) ∧
    (∀ key ∈ KeyPair.choicePairs.flatMap KeyPair.keys, ∀ value, settings.get? key = some value →
      value.choices?.isSome = true) ∧
    (∀ key ∈ KeyPair.modes.keys, ∀ value, settings.get? key = some value →
      ∀ choices, value.choices? = some choices →
        ∀ choice ∈ choices, isModeCode choice.code = true) ∧
    ∀ key ∈ KeyPair.idPairs.flatMap KeyPair.keys, ∀ value, settings.get? key = some value →
      value.ids?.isSome = true := by
  unfold check
  by_cases hversion : settings.version = supportedVersion
  · rw [if_neg (not_not.mpr hversion)]
    simp only [← requireModeCodes_eq_ok_iff, ← forM_eq_ok_iff]
    constructor
    · intro h
      obtain ⟨⟨⟩, htexts, h⟩ := bind_eq_ok h
      obtain ⟨⟨⟩, hchoices, h⟩ := bind_eq_ok h
      obtain ⟨⟨⟩, hmodes, hids⟩ := bind_eq_ok h
      exact ⟨hversion, forM_require_eq_ok_iff.mp htexts,
        forM_require_eq_ok_iff.mp hchoices, hmodes, forM_require_eq_ok_iff.mp hids⟩
    · rintro ⟨-, htexts, hchoices, hmodes, hids⟩
      refine bind_eq_ok_iff.mpr ⟨(), forM_require_eq_ok_iff.mpr htexts, ?_⟩
      refine bind_eq_ok_iff.mpr ⟨(), forM_require_eq_ok_iff.mpr hchoices, ?_⟩
      exact bind_eq_ok_iff.mpr ⟨(), hmodes, forM_require_eq_ok_iff.mpr hids⟩
  · rw [if_pos hversion]
    exact ⟨nofun, fun h => absurd h.1 hversion⟩

/-! ### Shapes -/

/-- What holds of all choices of a block holds of whatever its children spell. -/
lemma forall_choice_iff {children : List Kdl.Node} {list : List Choice}
    (h : List.Forall₂ SpellsChoice children list) {property : Choice → Prop} :
    (∀ choice ∈ list, property choice) ↔
      ∀ child ∈ children, ∀ choice, SpellsChoice child choice → property choice := by
  induction h with
  | nil => simp
  | cons hspells _ ih =>
    rw [List.forall_mem_cons, List.forall_mem_cons, ih]
    refine and_congr_left' ⟨fun hproperty other hother => ?_, fun hall => hall _ hspells⟩
    exact hspells.eq hother ▸ hproperty

namespace Spells

variable {value : Value} (h : Spells node value)

include h

lemma isSome_text?_iff : value.text?.isSome = true ↔
    ∃ text, node.children = none ∧ node.entries = [argument (.text text)] := by
  simp only [Option.isSome_iff_exists, h.text?_eq_some_iff]

lemma isSome_ids?_iff : value.ids?.isSome = true ↔
    node.children = none ∧ ∃ list : List Int64, node.entries = list.map integerArgument := by
  simp only [Option.isSome_iff_exists, h.ids?_eq_some_iff, exists_and_left]

lemma isSome_choices?_iff : value.choices?.isSome = true ↔
    node.children.isSome = true ∨ node.entries = [] := by
  cases h with
  | choices hblock => simp [Value.choices?, hblock]
  | scalar hblock hsingle => simp [Value.choices?, hblock, hsingle]
  | @ids words hblock hlist => cases words <;> simp [Value.choices?, hblock, hlist]

lemma forall_modeCode_iff : (∀ choices, value.choices? = some choices →
    ∀ choice ∈ choices, isModeCode choice.code = true) ↔
      ∀ children, node.children = some children → ∀ child ∈ children, ∀ choice,
        SpellsChoice child choice → 0 ≤ choice.code.toInt ∧ choice.code.toInt ≤ 127 := by
  have hcode (choice : Choice) : isModeCode choice.code = true ↔
      0 ≤ choice.code.toInt ∧ choice.code.toInt ≤ 127 := by
    simp [isModeCode]
  simp only [hcode]
  cases h with
  | choices hblock _ hspells =>
    simp only [Value.choices?, hblock, Option.some.injEq, forall_eq']
    exact forall_choice_iff hspells
  | scalar hblock => simp [Value.choices?, hblock]
  | @ids words hblock => cases words <;> simp [Value.choices?, hblock]

end Spells

/-- What is demanded of the values of some keys is demanded of the nodes of these names. -/
lemma Holds.forall_keys_iff (h : Holds seen loading) {keys : List String}
    (hkeys : versionKey ∉ keys) {property : Value → Prop} {shape : Kdl.Node → Prop}
    (hshape : ∀ node value, Spells node value → (property value ↔ shape node)) :
    (∀ key ∈ keys, ∀ value, loading.settings.get? key = some value → property value) ↔
      ∀ node ∈ seen, node.name ∈ keys → shape node := by
  constructor
  · intro hall node hmem hkey
    obtain ⟨value, hvalue, hspells⟩ := h.values node hmem (ne_of_mem_of_not_mem hkey hkeys)
    exact (hshape node value hspells).mp (hall node.name hkey value hvalue)
  · intro hall key hkey
    rw [h.forall_get?_iff (ne_of_mem_of_not_mem hkey hkeys)]
    rintro node hmem rfl value hspells
    exact (hshape node value hspells).mpr (hall node hmem hkey)

/-- Loaded nodes pass the check when they have the documented shapes. -/
lemma Holds.check_eq_ok_iff (h : Holds document loading) :
    loading.settings.check = .ok () ↔ Documented document := by
  rw [Settings.check_eq_ok_iff, h.forall_keys_iff (by decide) fun _ _ => Spells.isSome_text?_iff,
    h.forall_keys_iff (by decide) fun _ _ => Spells.isSome_choices?_iff,
    h.forall_keys_iff (by decide) fun _ _ => Spells.forall_modeCode_iff,
    h.forall_keys_iff (by decide) fun _ _ => Spells.isSome_ids?_iff]
  constructor
  · rintro ⟨hversion, htexts, hchoices, hmodes, hids⟩
    refine ⟨h.names, fun node hmem hname => ?_, fun node hmem hname => ?_, htexts,
      hchoices, hmodes, hids⟩
    · rw [h.version node hmem hname, hversion]
      rfl
    · obtain ⟨value, -, hspells⟩ := h.values node hmem hname
      exact ⟨value, hspells⟩
  · intro hdocumented
    refine ⟨?_, hdocumented.texts, hdocumented.choices, hdocumented.modes, hdocumented.ids⟩
    by_cases hmem : versionKey ∈ document.map (·.name)
    · obtain ⟨node, hnode, hname⟩ := List.mem_map.mp hmem
      have hentries : [integerArgument loading.settings.version] = [integerArgument 1] :=
        (h.version node hnode hname).symm.trans (hdocumented.version node hnode hname)
      exact integerArgument_injective (List.singleton_inj.mp hentries)
    · exact h.unversioned hmem

/-- A document loads exactly when it has the documented shape, and loading loses nothing: the
keys are the names of the nodes apart from the version, each holds what its node spells, a list
of integers is read in full however long it is, and so is a block of choices. -/
theorem loads_iff_documented (document : Kdl.Document) :
    ((∃ settings, ofKdl document = .ok settings) ↔ Documented document) ∧
    ∀ settings, ofKdl document = .ok settings →
      settings.version = supportedVersion ∧
      settings.keys.Perm ((document.map (·.name)).filter (· ≠ versionKey)) ∧
      ∀ node ∈ document, node.name ≠ versionKey →
        ∃ value, settings.get? node.name = some value ∧ Spells node value ∧
          (∀ text, value.text? = some text ↔
            node.children = none ∧ node.entries = [argument (.text text)]) ∧
          (∀ list : List Int64, value.ids? = some list ↔
            node.children = none ∧ node.entries = list.map integerArgument) ∧
          ∀ list, value.choices? = some list ↔
            node.entries = [] ∧ List.Forall₂ SpellsChoice (node.children.getD []) list := by
  have hholds {loading : Loading}
      (hload : document.foldlM Loading.addNode ⟨empty, false⟩ = .ok loading) :
      Holds document loading := Holds.nil.foldlM hload
  refine ⟨⟨?_, fun hdocumented => ?_⟩, ?_⟩
  · rintro ⟨settings, h⟩
    obtain ⟨loading, hload, h⟩ := bind_eq_ok h
    obtain ⟨⟨⟩, hcheck, -⟩ := bind_eq_ok h
    exact (hholds hload).check_eq_ok_iff.mp hcheck
  · have hversion (node : Kdl.Node) (hmem : node ∈ document) (hname : node.name = versionKey) :
        ∃ version, node.entries = [integerArgument version] :=
      ⟨1, hdocumented.version node hmem hname⟩
    obtain ⟨loading, hload⟩ :=
      Holds.nil.exists_foldlM hdocumented.names hversion hdocumented.values
    have hcheck := (hholds hload).check_eq_ok_iff.mpr hdocumented
    exact ⟨loading.settings,
      bind_eq_ok_iff.mpr ⟨loading, hload, bind_eq_ok_iff.mpr ⟨(), hcheck, rfl⟩⟩⟩
  · intro settings h
    obtain ⟨loading, hload, h⟩ := bind_eq_ok h
    obtain ⟨⟨⟩, hcheck, h⟩ := bind_eq_ok h
    cases h
    refine ⟨(Settings.check_eq_ok_iff.mp hcheck).1, (hholds hload).keys,
      fun node hmem hname => ?_⟩
    obtain ⟨value, hvalue, hspells⟩ := (hholds hload).values node hmem hname
    exact ⟨value, hvalue, hspells, fun text => hspells.text?_eq_some_iff,
      fun list => hspells.ids?_eq_some_iff, fun list => hspells.choices?_eq_some_iff⟩

/-- The small document loads, so it has the documented shape, and every key of it is held. -/
theorem loads_iff_documented_demo :
    Documented Web.demoDocument ∧ ∀ node ∈ Web.demoDocument, node.name ≠ versionKey →
      ∃ value, Web.demoSettings.get? node.name = some value ∧ Spells node value := by
  obtain ⟨hiff, hkept⟩ := loads_iff_documented Web.demoDocument
  refine ⟨hiff.mp ⟨Web.demoSettings, Web.ofKdl_demoDocument⟩, fun node hmem hname => ?_⟩
  obtain ⟨-, -, hnodes⟩ := hkept Web.demoSettings Web.ofKdl_demoDocument
  obtain ⟨value, hvalue, hspells, -⟩ := hnodes node hmem hname
  exact ⟨value, hvalue, hspells⟩

end HeatingPortal.Settings
