import HeatingPortal.Proofs.Literals
import HeatingPortal.Proofs.Paths

/-!
# Addresses of entities

An entity is addressed by a literal of its id, perhaps between blanks. What comes of a text is a
judgment with three cases, of which the grammar of literals and the list of ids decide: a visible
entity, an unknown one, or no id at all. The last part of a path is such a literal, so every
visible entity is addressed by its own path.
-/

namespace HeatingPortal.Caller

open Plant Text Web

/-! ### Reading ids -/

section

variable {kind : Kind} {text : String} {entity : Entity}

/-- An entity is read from the literals of its id between blanks. -/
lemma read?_eq_some_iff :
    Entity.read? kind text = some entity ↔
      entity.kind = kind ∧ IsPaddedLiteral text.toList entity.id.toInt := by
  rw [← trimmedInt64?_eq_some_iff, Entity.read?, Option.map_eq_some_iff]
  constructor
  · rintro ⟨id, hid, rfl⟩
    exact ⟨rfl, hid⟩
  · rintro ⟨rfl, hid⟩
    exact ⟨entity.id, hid, rfl⟩

lemma read?_eq_none_iff :
    Entity.read? kind text = none ↔ ∀ id : Int64, ¬IsPaddedLiteral text.toList id.toInt := by
  rw [Entity.read?, Option.map_eq_none_iff, Option.eq_none_iff_forall_ne_some]
  exact forall_congr' fun id => not_congr trimmedInt64?_eq_some_iff

end

/-! ### Addressing -/

/-- What comes of a text as an address. -/
inductive Addressed (context : EntityContext) (text : String) : Except Error Entity → Prop
  | visible {entity : Entity} (hkind : entity.kind = context.kind)
      (hliteral : IsPaddedLiteral text.toList entity.id.toInt) (hmem : entity.id ∈ context.ids) :
      Addressed context text (.ok entity)
  | unknown {entity : Entity} (hkind : entity.kind = context.kind)
      (hliteral : IsPaddedLiteral text.toList entity.id.toInt) (hmem : entity.id ∉ context.ids) :
      Addressed context text (.error (.unknownEntity entity))
  | malformed (hnone : ∀ id : Int64, ¬IsPaddedLiteral text.toList id.toInt) :
      Addressed context text (.error (.malformedId text))

section

variable {context : EntityContext} {text : String}

lemma address_of_unreadable (h : Entity.read? context.kind text = none) :
    context.address text = .error (.malformedId text) := by
  delta EntityContext.address
  rw [h]

lemma addressed_address (context : EntityContext) (text : String) :
    Addressed context text (context.address text) := by
  cases hread : Entity.read? context.kind text with
  | none =>
    rw [address_of_unreadable hread]
    exact .malformed (read?_eq_none_iff.mp hread)
  | some entity =>
    obtain ⟨hkind, hliteral⟩ := read?_eq_some_iff.mp hread
    by_cases hmem : entity.id ∈ context.ids
    · rw [address_of_read hread hmem]
      exact .visible hkind hliteral hmem
    · rw [address_of_not_mem hread hmem]
      exact .unknown hkind hliteral hmem

/-- The judgment determines what comes of a text. -/
lemma address_eq_iff {result : Except Error Entity} :
    context.address text = result ↔ Addressed context text result := by
  constructor
  · rintro rfl
    exact addressed_address context text
  · intro h
    cases h with
    | visible hkind hliteral hmem =>
      exact address_of_read (read?_eq_some_iff.mpr ⟨hkind, hliteral⟩) hmem
    | unknown hkind hliteral hmem =>
      exact address_of_not_mem (read?_eq_some_iff.mpr ⟨hkind, hliteral⟩) hmem
    | malformed hnone => exact address_of_unreadable (read?_eq_none_iff.mpr hnone)

end

/-! ### Paths -/

/-- The last part of a path. -/
def lastPart (path : String) : String :=
  String.ofList ((pieces '/' path.toList).getLastD [])

/-- The path of an entity ends with its written id. -/
lemma lastPart_path (entity : Entity) : lastPart entity.path = ofInt64 entity.id := by
  have hcollection : '/' ∉ entity.kind.collection.toList := by
    cases entity.kind <;> decide
  have hid : '/' ∉ (ofInt64 entity.id).toList := by
    intro hmem
    have hcode := toNat_of_mem_ofInteger hmem
    simp at hcode
  have hpath : entity.path.toList =
      entity.kind.collection.toList ++ '/' :: (ofInt64 entity.id).toList := by
    simp [Entity.path]
  rw [lastPart, hpath, pieces_append_cons hcollection, pieces_of_not_mem hid]
  simp

lemma path_injective : Function.Injective Entity.path := by
  intro entity other h
  apply entityLocation_injective
  rw [entityLocation, entityLocation, h]

lemma mem_ids_of_visible {context : EntityContext} {entity : Entity}
    (h : entity ∈ context.visible) : entity.kind = context.kind ∧ entity.id ∈ context.ids := by
  obtain ⟨id, hid, rfl⟩ := List.mem_map.mp h
  exact ⟨rfl, hid⟩

/-- Addressing is exact and undoes the writing of paths. A text addresses the entity of whose id
it is a literal, perhaps between blanks, if that id is listed; it is an unknown entity if it is
not, and the text as it stands is malformed if it is a literal of no 64-bit word. The last part
of the path of a visible entity addresses it, and no two entities have one path. -/
theorem address_exact (context : EntityContext) (text : String) :
    (∀ entity, context.address text = .ok entity ↔ entity.kind = context.kind ∧
      IsPaddedLiteral text.toList entity.id.toInt ∧ entity.id ∈ context.ids) ∧
    (∀ entity, context.address text = .error (.unknownEntity entity) ↔
      entity.kind = context.kind ∧ IsPaddedLiteral text.toList entity.id.toInt ∧
      entity.id ∉ context.ids) ∧
    (∀ shown, context.address text = .error (.malformedId shown) ↔
      shown = text ∧ ∀ id : Int64, ¬IsPaddedLiteral text.toList id.toInt) ∧
    (∀ entity ∈ context.visible, context.address (lastPart entity.path) = .ok entity) ∧
    ∀ entity other : Entity, entity.path = other.path → entity = other := by
  refine ⟨fun entity => ?_, fun entity => ?_, fun shown => ?_, fun entity hvisible => ?_, ?_⟩
  · rw [address_eq_iff]
    refine ⟨fun h => ?_, fun ⟨hkind, hliteral, hmem⟩ => .visible hkind hliteral hmem⟩
    cases h with
    | visible hkind hliteral hmem => exact ⟨hkind, hliteral, hmem⟩
  · rw [address_eq_iff]
    refine ⟨fun h => ?_, fun ⟨hkind, hliteral, hmem⟩ => .unknown hkind hliteral hmem⟩
    cases h with
    | unknown hkind hliteral hmem => exact ⟨hkind, hliteral, hmem⟩
  · rw [address_eq_iff]
    constructor
    · intro h
      cases h with
      | malformed hnone => exact ⟨rfl, hnone⟩
    · rintro ⟨rfl, hnone⟩
      exact .malformed hnone
  · obtain ⟨hkind, hmem⟩ := mem_ids_of_visible hvisible
    rw [lastPart_path, address_eq_iff]
    exact .visible hkind (isPaddedLiteral_ofInt64 entity.id) hmem
  · exact fun entity other h => path_injective h

/-- The least of all ids is addressed with zeros in front and between an em space and a tab, and
by its path; the word below it is malformed. -/
theorem address_exact_least :
    let context : EntityContext := ⟨.tank, [0, Int64.minValue], none⟩
    let entity : Entity := ⟨.tank, Int64.minValue⟩
    let padded := "\u2003-009223372036854775808\t"
    let below := "-9223372036854775809"
    IsPaddedLiteral padded.toList entity.id.toInt ∧ entity ∈ context.visible ∧
      context.address padded = .ok entity ∧ context.address (lastPart entity.path) = .ok entity ∧
      context.address below = .error (.malformedId below) := by
  intro context entity padded below
  have hliteral : IsPaddedLiteral padded.toList entity.id.toInt :=
    trimmedInt64?_eq_some_iff.mp (by decide +kernel)
  have hnone (id : Int64) : ¬IsPaddedLiteral below.toList id.toInt := by
    have hunread : trimmedInt64? below = none := by decide +kernel
    rw [← trimmedInt64?_eq_some_iff, hunread]
    exact nofun
  have hvisible : entity ∈ context.visible := by decide
  obtain ⟨hvisited, -, -, hpath, -⟩ := address_exact context padded
  obtain ⟨-, -, hmalformed, -, -⟩ := address_exact context below
  exact ⟨hliteral, hvisible, (hvisited entity).mpr ⟨rfl, hliteral, by decide⟩,
    hpath entity hvisible, (hmalformed below).mpr ⟨rfl, hnone⟩⟩

end HeatingPortal.Caller
