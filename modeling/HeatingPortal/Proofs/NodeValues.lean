import HeatingPortal.Proofs.Integers
import HeatingPortal.Proofs.SoundSettings
import Mathlib.Data.List.Forall2
import Mathlib.Data.List.Nodup

/-!
# What nodes spell

A node without properties spells a value in one of three ways: a block of choices, a single
argument, or integers. `Spells` says which value, by writing it back as entries and children of
the node, and `value_eq_ok_iff` says that reading a node finds just that value.
-/

namespace HeatingPortal.Settings

open Text

variable {key : String} {node child : Kdl.Node} {children : List Kdl.Node}

/-! ### Written values -/

/-- An entry that is an argument. -/
def argument (value : Kdl.Value) : Kdl.Entry :=
  ⟨none, value⟩

/-- A 64-bit integer as an argument. -/
def integerArgument (word : Int64) : Kdl.Entry :=
  argument (.integer word.toInt)

/-- A scalar as it is written. -/
def Scalar.written : Scalar → Kdl.Value
  | integer value => .integer value.toInt
  | real value => .real value
  | bool value => .bool value
  | text value => .text value

/-- A child node that spells a choice. -/
structure SpellsChoice (child : Kdl.Node) (choice : Choice) : Prop where
  name : child.name = "choice"
  entries : child.entries = [integerArgument choice.code, argument (.text choice.label)]

/-- A node that spells a value: a block without arguments, one argument, or none or several
integers without a block. -/
inductive Spells (node : Kdl.Node) : Value → Prop
  | choices {children : List Kdl.Node} {list : List Choice}
      (hblock : node.children = some children)
      (hnone : node.entries = []) (hspells : List.Forall₂ SpellsChoice children list)
      (hdistinct : (list.map (·.code)).Nodup) : Spells node (.choices list)
  | scalar {value : Scalar} (hblock : node.children = none)
      (hsingle : node.entries = [argument value.written]) : Spells node (.scalar value)
  | ids {list : List Int64} (hblock : node.children = none)
      (hlist : node.entries = list.map integerArgument) (hlength : list.length ≠ 1) :
      Spells node (.ids list)

/-! ### Single arguments -/

lemma bind_eq_ok_iff {ε α β : Type} {result : Except ε α} {f : α → Except ε β} {last : β} :
    result >>= f = .ok last ↔ ∃ value, result = .ok value ∧ f value = .ok last := by
  refine ⟨bind_eq_ok, ?_⟩
  rintro ⟨value, rfl, h⟩
  exact h

lemma mapM_eq_ok_iff {ε δ α : Type} {f : δ → Except ε α} {items : List δ} {results : List α} :
    items.mapM f = .ok results ↔
      List.Forall₂ (fun item result => f item = .ok result) items results := by
  induction items generalizing results with
  | nil => cases results <;> simp [pure, Except.pure, List.forall₂_nil_left_iff]
  | cons item rest ih =>
    rw [List.mapM_cons, bind_eq_ok_iff]
    simp only [bind_eq_ok_iff, ih]
    constructor
    · rintro ⟨value, hvalue, values, hvalues, ⟨⟩⟩
      exact .cons hvalue hvalues
    · rintro (_ | ⟨hvalue, hvalues⟩)
      exact ⟨_, hvalue, _, hvalues, rfl⟩

lemma integer_eq_ok_iff {value : Kdl.Value} {word : Int64} :
    integer key value = .ok word ↔ value = .integer word.toInt := by
  cases value with
  | integer n =>
    simp only [integer, Kdl.Value.integer.injEq, ← word?_eq_some_iff]
    cases word? n <;> simp
  | text | real | bool | null => simp [integer]

lemma scalar_eq_ok_iff {value : Kdl.Value} {result : Scalar} :
    scalar key value = .ok result ↔ value = result.written := by
  cases value with
  | integer n =>
    have hinteger (word : Int64) : Kdl.Value.integer n = .integer word.toInt ↔
        integer key (.integer n) = .ok word := integer_eq_ok_iff.symm
    cases result <;> simp only [scalar, Scalar.written, hinteger] <;>
      cases integer key (.integer n) <;> simp [Except.map]
  | text | real | bool | null => cases result <;> simp [scalar, Scalar.written]

lemma arguments_eq_ok_iff {list : List Kdl.Value} :
    arguments node = .ok list ↔ node.entries = list.map argument := by
  unfold arguments
  rw [mapM_eq_ok_iff, ← List.forall₂_eq_eq_eq, List.forall₂_map_right_iff]
  apply iff_of_eq
  congr 1
  funext entry value
  obtain ⟨name, held⟩ := entry
  cases name <;> simp [argument]

/-! ### Choices -/

lemma choice_eq_ok_iff {result : Choice} :
    choice key child = .ok result ↔ SpellsChoice child result := by
  unfold choice
  by_cases hname : child.name = "choice"
  · rw [if_neg (not_not.mpr hname)]
    constructor
    · intro h
      obtain ⟨list, hlist, h⟩ := bind_eq_ok h
      rw [arguments_eq_ok_iff] at hlist
      -- Only two arguments of which the second is a text are read on.
      rcases list with _ | ⟨code, _ | ⟨label, _ | ⟨more, rest⟩⟩⟩
      · cases h
      · cases h
      · cases label with
        | text label =>
          obtain ⟨word, hword, ⟨⟩⟩ := bind_eq_ok h
          rw [integer_eq_ok_iff] at hword
          exact ⟨hname, by rw [hlist, hword]; rfl⟩
        | integer | real | bool | null => cases h
      · cases label <;> cases h
    · intro h
      have hlist : arguments child = .ok [.integer result.code.toInt, .text result.label] :=
        arguments_eq_ok_iff.mpr h.entries
      have hcode : integer key (.integer result.code.toInt) = .ok result.code :=
        integer_eq_ok_iff.mpr rfl
      simp only [hlist, hcode, pure, Except.pure, bind, Except.bind]
  · rw [if_pos hname]
    exact ⟨nofun, fun h => absurd h.name hname⟩

/-- A choice is added where a child spells one whose code is not there yet. -/
lemma addChoice_eq_ok_iff {before list : List Choice} :
    addChoice key before child = .ok list ↔ ∃ choice, SpellsChoice child choice ∧
      choice.code ∉ before.map (·.code) ∧ list = before ++ [choice] := by
  unfold addChoice
  rw [bind_eq_ok_iff]
  refine exists_congr fun choice => and_congr choice_eq_ok_iff ?_
  by_cases hany : before.any (·.code = choice.code) = true
  · rw [if_pos hany]
    refine ⟨nofun, fun h => absurd hany ?_⟩
    simpa using h.1
  · rw [if_neg hany]
    simp only [pure, Except.pure, Except.ok.injEq]
    refine ⟨fun h => ⟨?_, h.symm⟩, fun h => h.2.symm⟩
    simpa using hany

lemma nodup_map_append_singleton {α β : Type} {f : α → β} {before : List α} {item : α} :
    ((before ++ [item]).map f).Nodup ↔ f item ∉ before.map f ∧ (before.map f).Nodup := by
  rw [List.map_append, List.map_singleton, ← List.concat_eq_append, List.nodup_concat]

/-- A block adds the choices that its children spell, and no code twice. -/
lemma foldlM_addChoice_eq_ok_iff {before list : List Choice}
    (hbefore : (before.map (·.code)).Nodup) :
    children.foldlM (addChoice key) before = .ok list ↔
      ∃ later, list = before ++ later ∧ List.Forall₂ SpellsChoice children later ∧
        (list.map (·.code)).Nodup := by
  induction children generalizing before with
  | nil =>
    rw [List.foldlM_nil]
    constructor
    · rintro ⟨⟩
      exact ⟨[], by simp, .nil, hbefore⟩
    · rintro ⟨later, rfl, ⟨⟩, -⟩
      rw [List.append_nil]
      rfl
  | cons child rest ih =>
    rw [List.foldlM_cons, bind_eq_ok_iff]
    constructor
    · rintro ⟨middle, hmiddle, hrest⟩
      obtain ⟨choice, hspells, hnew, rfl⟩ := addChoice_eq_ok_iff.mp hmiddle
      have hnodup := nodup_map_append_singleton.mpr ⟨hnew, hbefore⟩
      obtain ⟨later, rfl, hlater, hcodes⟩ := (ih hnodup).mp hrest
      exact ⟨choice :: later, by simp, .cons hspells hlater, hcodes⟩
    · rintro ⟨later, hlist, hlater, hcodes⟩
      cases hlater with
      | @cons _ choice _ later hspells hlater =>
        rw [List.append_cons] at hlist
        have hnodup : ((before ++ [choice]).map (·.code)).Nodup := by
          rw [hlist, List.map_append] at hcodes
          exact (List.nodup_append.mp hcodes).1
        obtain ⟨hnew, -⟩ := nodup_map_append_singleton.mp hnodup
        exact ⟨before ++ [choice], addChoice_eq_ok_iff.mpr ⟨choice, hspells, hnew, rfl⟩,
          (ih hnodup).mpr ⟨later, hlist, hlater, hcodes⟩⟩

/-! ### Nodes -/

lemma mapM_integer_eq_ok_iff {list : List Kdl.Value} {words : List Int64} :
    list.mapM (integer key) = .ok words ↔ list.map argument = words.map integerArgument := by
  rw [mapM_eq_ok_iff, ← List.forall₂_eq_eq_eq, List.forall₂_map_left_iff,
    List.forall₂_map_right_iff]
  simp only [integer_eq_ok_iff, integerArgument, argument, Kdl.Entry.mk.injEq, true_and]

/-- Reading a node finds what it spells, and fails if it spells nothing. -/
theorem value_eq_ok_iff {result : Value} : value node = .ok result ↔ Spells node result := by
  unfold value
  rw [bind_eq_ok_iff]
  simp only [arguments_eq_ok_iff]
  constructor
  · rintro ⟨list, hlist, h⟩
    cases hblock : node.children with
    | some children =>
      rw [hblock] at h
      cases list with
      | nil =>
        obtain ⟨choices, hchoices, ⟨⟩⟩ := bind_eq_ok h
        obtain ⟨later, rfl, hspells, hcodes⟩ :=
          (foldlM_addChoice_eq_ok_iff (by simp)).mp hchoices
        exact .choices hblock hlist hspells hcodes
      | cons => cases h
    | none =>
      rw [hblock] at h
      rcases list with _ | ⟨first, _ | ⟨second, rest⟩⟩
      · cases h
        exact .ids hblock hlist (by simp)
      · obtain ⟨found, hfound, ⟨⟩⟩ := bind_eq_ok h
        rw [scalar_eq_ok_iff] at hfound
        exact .scalar hblock (hfound ▸ hlist)
      · obtain ⟨words, hwords, ⟨⟩⟩ := bind_eq_ok h
        rw [mapM_integer_eq_ok_iff] at hwords
        refine .ids hblock (hlist.trans hwords) ?_
        have hlength := congrArg List.length hwords
        simp only [List.length_map, List.length_cons] at hlength
        omega
  · intro h
    cases h with
    | @choices children choices hblock hnone hspells hdistinct =>
      have hchoices : children.foldlM (addChoice node.name) [] = .ok choices :=
        (foldlM_addChoice_eq_ok_iff (by simp)).mpr ⟨choices, rfl, hspells, hdistinct⟩
      refine ⟨[], hnone, ?_⟩
      rw [hblock]
      dsimp only
      rw [hchoices]
      rfl
    | @scalar single hblock hsingle =>
      have hscalar : scalar node.name single.written = .ok single := scalar_eq_ok_iff.mpr rfl
      refine ⟨[single.written], hsingle, ?_⟩
      rw [hblock]
      dsimp only
      rw [hscalar]
      rfl
    | @ids words hblock hlist hlength =>
      refine ⟨words.map fun word => .integer word.toInt, ?_, ?_⟩
      · rw [hlist, List.map_map]
        rfl
      · rw [hblock]
        rcases words with _ | ⟨first, _ | ⟨second, rest⟩⟩
        · rfl
        · simp at hlength
        · have hmany :
              ((first :: second :: rest).map fun word => Kdl.Value.integer word.toInt).mapM
                (integer node.name) = .ok (first :: second :: rest) := by
            rw [mapM_integer_eq_ok_iff, List.map_map]
            rfl
          exact bind_eq_ok_iff.mpr ⟨_, hmany, rfl⟩

/-- A node spells one value at most. -/
lemma Spells.eq {first second : Value} (h : Spells node first) (hsecond : Spells node second) :
    first = second := by
  rw [← value_eq_ok_iff] at h hsecond
  exact Except.ok.inj (h.symm.trans hsecond)

/-! ### What is read from a value -/

lemma integerArgument_injective : Function.Injective integerArgument := by
  intro first second h
  simpa [integerArgument, argument, Int64.toInt_inj] using h

/-- A child spells one choice at most. -/
lemma SpellsChoice.eq {choice other : Choice} (h : SpellsChoice child choice)
    (hother : SpellsChoice child other) : choice = other := by
  have hentries := h.entries.symm.trans hother.entries
  simp only [List.cons.injEq, integerArgument_injective.eq_iff, argument, Kdl.Entry.mk.injEq,
    Kdl.Value.text.injEq, true_and, and_true] at hentries
  obtain ⟨hcode, hlabel⟩ := hentries
  cases choice
  cases other
  simp_all

namespace Spells

variable {value : Value} (h : Spells node value)

include h

lemma text?_eq_some_iff {text : String} : value.text? = some text ↔
    node.children = none ∧ node.entries = [argument (.text text)] := by
  cases h with
  | choices hblock => simp [Value.text?, hblock]
  | @scalar single hblock hsingle =>
    cases single <;> simp [Value.text?, hblock, hsingle, argument, Scalar.written]
  | @ids words hblock hlist hlength =>
    rw [hblock, hlist]
    rcases words with _ | ⟨first, _ | ⟨second, rest⟩⟩ <;> simp [Value.text?] at hlength ⊢

/-- A list of integers is read in full, whether there is none, one or several. -/
lemma ids?_eq_some_iff {list : List Int64} : value.ids? = some list ↔
    node.children = none ∧ node.entries = list.map integerArgument := by
  cases h with
  | choices hblock => simp [Value.ids?, hblock]
  | @scalar single hblock hsingle =>
    rw [hblock, hsingle]
    cases single with
    | integer word =>
      have hone : [argument (Scalar.integer word).written] = [word].map integerArgument := rfl
      rw [hone, integerArgument_injective.list_map.eq_iff]
      simp [Value.ids?]
    | real | bool | text =>
      rcases list with _ | ⟨first, rest⟩ <;>
        simp [Value.ids?, argument, Scalar.written, integerArgument]
  | ids hblock hlist =>
    rw [hblock, hlist, integerArgument_injective.list_map.eq_iff]
    simp [Value.ids?]

/-- A block is read in full, and no block at all as an empty one. -/
lemma choices?_eq_some_iff {list : List Choice} : value.choices? = some list ↔
    node.entries = [] ∧ List.Forall₂ SpellsChoice (node.children.getD []) list := by
  cases h with
  | @choices children found hblock hnone hspells =>
    rw [hblock, hnone]
    simp only [Value.choices?, Option.some.injEq, Option.getD_some, true_and]
    constructor
    · rintro rfl
      exact hspells
    · intro hlist
      have hunique : Relator.RightUnique SpellsChoice := fun _ _ _ => SpellsChoice.eq
      exact hunique.forall₂ hspells hlist
  | scalar hblock hsingle => simp [Value.choices?, hsingle]
  | @ids words hblock hlist hlength =>
    rw [hblock, hlist]
    rcases words with _ | ⟨first, rest⟩
    · simp only [Value.choices?, Option.some.injEq, List.map_nil, Option.getD_none,
        List.forall₂_nil_left_iff, true_and]
      exact eq_comm
    · simp [Value.choices?]

end Spells

end HeatingPortal.Settings
