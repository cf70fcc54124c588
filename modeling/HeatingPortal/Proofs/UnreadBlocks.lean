import HeatingPortal.Proofs.LoadedShapes
import Mathlib.Data.List.Perm.Basic

/-!
# Blocks that are not read

Loading reads the blocks of choices right below the nodes of a document, and no other block:
neither that of a version nor that of an entry in another block. All that is read is kept: the
settings, written as a document again, are the read part of the document in some order
(`perm_map_readPart`). What stands in a block that is not read is lost without a word, and may be
anything (`ofKdl_map_readPart`).
-/

namespace HeatingPortal

namespace Kdl

/-! ### Trees -/

/-- A node without its block. -/
def Node.bare (node : Node) : Node :=
  { node with children := none }

/-- The nodes in the block of a node. -/
def Node.block (node : Node) : List Node :=
  node.children.getD []

mutual
/-- The entries of a node and of all nodes below it. -/
def nodeEntries : Node → List Entry
  | ⟨_, entries, none⟩ => entries
  | ⟨_, entries, some children⟩ => entries ++ documentEntries children

/-- The entries of a document, however deep they stand. -/
def documentEntries : List Node → List Entry
  | [] => []
  | node :: rest => nodeEntries node ++ documentEntries rest
end

lemma nodeEntries_eq (node : Node) :
    nodeEntries node = node.entries ++ documentEntries node.block := by
  obtain ⟨name, entries, children⟩ := node
  cases children with
  | none => simp [nodeEntries, documentEntries, Node.block]
  | some children => simp [nodeEntries, Node.block]

lemma documentEntries_eq (document : Document) :
    documentEntries document = document.flatMap nodeEntries := by
  induction document with
  | nil => rfl
  | cons node rest ih => simp [documentEntries, ih]

@[simp]
lemma nodeEntries_bare (node : Node) : nodeEntries node.bare = node.entries := by
  simp [nodeEntries_eq, Node.bare, Node.block, documentEntries]

end Kdl

namespace Settings

open Kdl

variable {document seen rest : Document} {node child : Node} {loading next last : Loading}
  {settings : Settings} {key : String} {value : Value}

/-! ### What is read -/

/-- A node as far as it is read: a version without its block, and another node without the blocks
below its own. -/
def readPart (node : Node) : Node :=
  if node.name = versionKey then node.bare
  else { node with children := node.children.map (·.map Node.bare) }

/-- The entries below a node that are not read. -/
def unreadEntries (node : Node) : List Entry :=
  if node.name = versionKey then documentEntries node.block
  else node.block.flatMap fun child => documentEntries child.block

/-- A document whose only blocks are those right below nodes other than the version. -/
def OnlyChoiceBlocks (document : Document) : Prop :=
  ∀ node ∈ document, (node.name = versionKey → node.children.isNone = true) ∧
    ∀ child ∈ node.block, child.children.isNone = true

instance (document : Document) : Decidable (OnlyChoiceBlocks document) :=
  inferInstanceAs (Decidable (∀ node ∈ document, _ ∧ ∀ child ∈ node.block, _))

lemma readPart_of_eq (hname : node.name = versionKey) : readPart node = node.bare :=
  if_pos hname

lemma readPart_of_ne (hname : node.name ≠ versionKey) :
    readPart node = { node with children := node.children.map (·.map Node.bare) } :=
  if_neg hname

@[simp]
lemma name_readPart (node : Node) : (readPart node).name = node.name := by
  unfold readPart
  split <;> rfl

@[simp]
lemma entries_readPart (node : Node) : (readPart node).entries = node.entries := by
  unfold readPart
  split <;> rfl

lemma block_readPart (hname : node.name ≠ versionKey) :
    (readPart node).block = node.block.map Node.bare := by
  rw [readPart_of_ne hname]
  simp only [Node.block]
  cases node.children <;> rfl

lemma map_eq_self_iff {α : Type} {f : α → α} {items : List α} :
    items.map f = items ↔ ∀ item ∈ items, f item = item := by
  have h := @List.map_inj_left _ _ items f id
  rwa [List.map_id] at h

lemma bare_eq_self_iff : node.bare = node ↔ node.children.isNone = true := by
  obtain ⟨name, entries, children⟩ := node
  simp only [Node.bare, Node.mk.injEq, true_and, Option.isNone_iff_eq_none]
  exact eq_comm

/-- A node is read in full if it is no version with a block, and no node in its block has one. -/
lemma readPart_eq_self_iff : readPart node = node ↔
    (node.name = versionKey → node.children.isNone = true) ∧
      ∀ child ∈ node.block, child.children.isNone = true := by
  by_cases hname : node.name = versionKey
  · rw [readPart_of_eq hname, bare_eq_self_iff]
    constructor
    · intro hnone
      refine ⟨fun _ => hnone, fun child hmem => ?_⟩
      simp [Node.block, Option.isNone_iff_eq_none.mp hnone] at hmem
    · intro h
      exact h.1 hname
  · simp only [readPart_of_ne hname, hname, false_implies, true_and, ← bare_eq_self_iff,
      ← map_eq_self_iff]
    obtain ⟨name, entries, children⟩ := node
    cases children <;> simp [Node.block]

lemma onlyChoiceBlocks_iff : OnlyChoiceBlocks document ↔ document.map readPart = document := by
  rw [map_eq_self_iff]
  exact forall₂_congr fun node _ => readPart_eq_self_iff.symm

lemma readPart_readPart (node : Node) : readPart (readPart node) = readPart node := by
  rw [readPart_eq_self_iff, name_readPart]
  constructor
  · intro hname
    simp [readPart, hname, Node.bare]
  · intro child hmem
    by_cases hname : node.name = versionKey
    · simp [readPart, hname, Node.bare, Node.block] at hmem
    · rw [block_readPart hname, List.mem_map] at hmem
      obtain ⟨other, -, rfl⟩ := hmem
      rfl

/-- The entries of a node are those that are read and those that are not. -/
lemma perm_nodeEntries (node : Node) :
    (nodeEntries node).Perm (nodeEntries (readPart node) ++ unreadEntries node) := by
  by_cases hname : node.name = versionKey
  · rw [readPart_of_eq hname, unreadEntries, if_pos hname, nodeEntries_bare, nodeEntries_eq]
  · have hblock : (documentEntries node.block).Perm
        (documentEntries (node.block.map Node.bare) ++
          node.block.flatMap fun child => documentEntries child.block) := by
      rw [documentEntries_eq, documentEntries_eq, List.flatMap_map]
      simp only [nodeEntries_bare]
      rw [funext nodeEntries_eq]
      exact (List.flatMap_append_perm _ _ _).symm
    rw [nodeEntries_eq, nodeEntries_eq (readPart node), entries_readPart, block_readPart hname,
      unreadEntries, if_neg hname, List.append_assoc]
    exact hblock.append_left node.entries

lemma perm_documentEntries (document : Document) :
    (documentEntries document).Perm
      (documentEntries (document.map readPart) ++ document.flatMap unreadEntries) := by
  have hnodes := List.Perm.flatMap_left document fun node _ => perm_nodeEntries node
  rw [documentEntries_eq, documentEntries_eq, List.flatMap_map]
  exact hnodes.trans (List.flatMap_append_perm _ _ _).symm

/-! ### Loading the read part -/

lemma addChoice_bare (choices : List Choice) (child : Node) :
    addChoice key choices child.bare = addChoice key choices child := rfl

lemma arguments_readPart (node : Node) : arguments (readPart node) = arguments node := by
  unfold arguments
  rw [entries_readPart, name_readPart]

lemma value_readPart (hname : node.name ≠ versionKey) :
    Settings.value (readPart node) = Settings.value node := by
  have hchildren : (readPart node).children = node.children.map (·.map Node.bare) := by
    rw [readPart_of_ne hname]
  unfold Settings.value
  rw [arguments_readPart, name_readPart, hchildren]
  cases node.children with
  | none => rfl
  | some children =>
    have hblock : (children.map Node.bare).foldlM (addChoice node.name) [] =
        children.foldlM (addChoice node.name) [] := by
      rw [List.foldlM_map]
      simp only [addChoice_bare]
    apply bind_congr
    intro list
    cases list with
    | nil =>
      dsimp only [Option.map_some]
      rw [hblock]
    | cons => rfl

lemma formatVersion_readPart (node : Node) :
    formatVersion (readPart node) = formatVersion node := by
  unfold formatVersion
  rw [arguments_readPart]

/-- Adding a node looks at its read part only. -/
lemma addNode_readPart (loading : Loading) (node : Node) :
    loading.addNode (readPart node) = loading.addNode node := by
  unfold Loading.addNode
  rw [name_readPart, formatVersion_readPart]
  by_cases hname : node.name = versionKey
  · rw [if_pos hname, if_pos hname]
  · rw [if_neg hname, if_neg hname, value_readPart hname]

/-- Loading looks at the read part of a document only, whether it succeeds or not. -/
theorem ofKdl_map_readPart (document : Document) :
    ofKdl (document.map readPart) = ofKdl document := by
  unfold ofKdl
  rw [List.foldlM_map]
  simp only [addNode_readPart]

/-! ### Settings written as a document -/

/-- A choice as a node of a block. -/
def Choice.toKdl (choice : Choice) : Node :=
  ⟨"choice", [integerArgument choice.code, argument (.text choice.label)], none⟩

/-- The node of a name that spells a value. -/
def Value.toKdl (name : String) : Value → Node
  | choices list => ⟨name, [], some (list.map Choice.toKdl)⟩
  | scalar value => ⟨name, [argument value.written], none⟩
  | ids list => ⟨name, list.map integerArgument, none⟩

/-- The settings as a document, with or without the version. -/
def toKdl (versioned : Bool) (settings : Settings) : Document :=
  (if versioned then [⟨versionKey, [integerArgument settings.version], none⟩] else []) ++
    settings.entries.map fun entry => entry.2.toKdl entry.1

/-- A document with a version. -/
def isVersioned (document : Document) : Bool :=
  document.any (·.name = versionKey)

lemma SpellsChoice.bare_eq {choice : Choice} (h : SpellsChoice child choice) :
    child.bare = choice.toKdl := by
  obtain ⟨hname, hentries⟩ := h
  rw [Node.bare, hname, hentries]
  rfl

/-- What is read of a node is the node that its value is written as. -/
lemma Spells.readPart_eq (h : Spells node value) (hname : node.name ≠ versionKey) :
    readPart node = value.toKdl node.name := by
  obtain ⟨name, entries, children⟩ := node
  rw [readPart_of_ne hname]
  cases h with
  | @choices children list hblock hnone hspells =>
    have hlist : children.map Node.bare = list.map Choice.toKdl := by
      rw [← List.forall₂_eq_eq_eq, List.forall₂_map_left_iff, List.forall₂_map_right_iff]
      exact hspells.imp fun _ _ => SpellsChoice.bare_eq
    simp only at hblock hnone
    simp [hblock, hnone, Value.toKdl, hlist]
  | scalar hblock hsingle =>
    simp only at hblock hsingle
    simp [hblock, hsingle, Value.toKdl]
  | ids hblock hlist =>
    simp only at hblock hlist
    simp [hblock, hlist, Value.toKdl]

/-- A node that is added adds its read part to what is written. -/
lemma Holds.perm_addNode (h : Holds seen loading) (hadd : loading.addNode node = .ok next) :
    (next.settings.toKdl next.versionSeen).Perm
      (readPart node :: loading.settings.toKdl loading.versionSeen) := by
  obtain ⟨hnew, hnext⟩ := h.addNode_eq_ok_iff.mp hadd
  rcases hnext with ⟨hname, version, hentries, rfl⟩ | ⟨hname, value, hspells, rfl⟩
  · have hunseen : loading.versionSeen = false := by
      rw [← Bool.not_eq_true, h.versionSeen, ← hname]
      exact hnew
    rw [readPart_of_eq hname, Node.bare, hname, hentries, hunseen]
    exact .refl _
  · have hfree : node.name ∉ loading.settings.keys := by
      rw [← Settings.isSome_get?_iff, h.isSome_get?_iff hname]
      exact hnew
    have hentries := (perm_insertEntry hfree value).map
      fun (entry : String × Value) => entry.2.toKdl entry.1
    rw [hspells.readPart_eq hname]
    exact (hentries.append_left _).trans List.perm_middle

lemma Holds.perm_foldlM (h : Holds seen loading)
    (hload : rest.foldlM Loading.addNode loading = .ok last) :
    (last.settings.toKdl last.versionSeen).Perm
      (rest.map readPart ++ loading.settings.toKdl loading.versionSeen) := by
  induction rest generalizing seen loading with
  | nil =>
    cases hload
    exact .refl _
  | cons node rest ih =>
    rw [List.foldlM_cons] at hload
    obtain ⟨next, hadd, hload⟩ := bind_eq_ok hload
    calc (last.settings.toKdl last.versionSeen).Perm
          (rest.map readPart ++ next.settings.toKdl next.versionSeen) := ih (h.snoc hadd) hload
      List.Perm _ (rest.map readPart ++
          readPart node :: loading.settings.toKdl loading.versionSeen) :=
        (h.perm_addNode hadd).append_left _
      List.Perm _ ((node :: rest).map readPart ++
          loading.settings.toKdl loading.versionSeen) := List.perm_middle

/-- Loaded settings, written as a document, are what was read of the document. -/
lemma perm_map_readPart (h : ofKdl document = .ok settings) :
    (document.map readPart).Perm (settings.toKdl (isVersioned document)) := by
  obtain ⟨loading, hload, h⟩ := bind_eq_ok h
  obtain ⟨⟨⟩, -, h⟩ := bind_eq_ok h
  cases h
  have hseen : loading.versionSeen = isVersioned document := by
    rw [Bool.eq_iff_iff, (Holds.nil.foldlM hload).versionSeen]
    simp [isVersioned]
  have hperm := Holds.nil.perm_foldlM hload
  rw [hseen] at hperm
  simpa [toKdl, empty] using hperm.symm

/-- Loaded settings hold all that is read of a document, and nothing else. Written as a document
they are the document itself, in some order, exactly if it has no block that is not read; all
entries that they lack, at any depth, stand in such blocks; and a document that differs in such
blocks alone is loaded as well, whatever they hold. -/
theorem loaded_represents_read (document : Document) (settings : Settings)
    (h : ofKdl document = .ok settings) :
    (document.map readPart).Perm (settings.toKdl (isVersioned document)) ∧
    (document.Perm (settings.toKdl (isVersioned document)) ↔ OnlyChoiceBlocks document) ∧
    (documentEntries document).Perm
      (documentEntries (settings.toKdl (isVersioned document)) ++
        document.flatMap unreadEntries) ∧
    ∀ other : Document, other.map readPart = document.map readPart →
      ofKdl other = .ok settings := by
  have hread := perm_map_readPart h
  refine ⟨hread, ⟨fun hperm => ?_, fun honly => ?_⟩, ?_, fun other hother => ?_⟩
  · rw [onlyChoiceBlocks_iff, map_eq_self_iff]
    intro node hmem
    obtain ⟨other, -, rfl⟩ := List.mem_map.mp ((hperm.trans hread.symm).mem_iff.mp hmem)
    exact readPart_readPart other
  · rwa [onlyChoiceBlocks_iff.mp honly] at hread
  · refine (perm_documentEntries document).trans (List.Perm.append_right _ ?_)
    rw [documentEntries_eq, documentEntries_eq]
    exact hread.flatMap_right nodeEntries
  · rw [← ofKdl_map_readPart, hother, ofKdl_map_readPart, h]

/-- A document whose second choice stands in a block of the first, because
a brace is misplaced. -/
def nestedChoice : Document :=
  let heating :=
    { Choice.toKdl ⟨1, "Heating"⟩ with children := some [Choice.toKdl ⟨5, "Summer"⟩] }
  [⟨"standardModes", [], some [heating]⟩]

/-- A document whose version has a block. -/
def blockOfVersion : Document :=
  [⟨"version", [integerArgument 1], some [⟨"adminName", [argument (.text "admin")], none⟩]⟩]

/-- Settings with one choice. -/
def heatingOnly : Settings :=
  ⟨supportedVersion, [("standardModes", .choices [⟨1, "Heating"⟩])]⟩

lemma ofKdl_nestedChoice : ofKdl nestedChoice = .ok heatingOnly :=
  eq_ok_of_parts (by decide +kernel)

/-- Of the nested choices the outer one is represented, and the entries of the inner one are not;
a document without any such block is represented in full. -/
theorem loaded_represents_read_nested :
    ofKdl nestedChoice = .ok heatingOnly ∧
    (documentEntries nestedChoice).Perm (documentEntries (heatingOnly.toKdl false) ++
      [integerArgument 5, argument (.text "Summer")]) ∧
    ofKdl Web.demoDocument = .ok Web.demoSettings ∧
    Web.demoDocument.Perm (Web.demoSettings.toKdl true) := by
  obtain ⟨-, -, hentries, -⟩ :=
    loaded_represents_read nestedChoice heatingOnly ofKdl_nestedChoice
  obtain ⟨-, hdemo, -⟩ :=
    loaded_represents_read Web.demoDocument Web.demoSettings Web.ofKdl_demoDocument
  exact ⟨ofKdl_nestedChoice, hentries, Web.ofKdl_demoDocument, hdemo.mpr (by decide +kernel)⟩

/-- A choice in the block of another one is lost, and so is a name in the block of a version:
both documents are loaded, and the settings do not have them. -/
theorem unread_blocks_accepted :
    ofKdl nestedChoice = .ok heatingOnly ∧ ¬ OnlyChoiceBlocks nestedChoice ∧
    argument (.text "Summer") ∈ documentEntries nestedChoice ∧
    (∀ versioned, argument (.text "Summer") ∉ documentEntries (heatingOnly.toKdl versioned)) ∧
    ofKdl blockOfVersion = .ok empty ∧ ¬ OnlyChoiceBlocks blockOfVersion ∧
    argument (.text "admin") ∈ documentEntries blockOfVersion ∧
    ∀ versioned, argument (.text "admin") ∉ documentEntries (empty.toKdl versioned) := by
  refine ⟨ofKdl_nestedChoice, ?_, ?_, ?_, eq_ok_of_parts ?_, ?_, ?_, ?_⟩ <;> decide +kernel

end Settings

end HeatingPortal
