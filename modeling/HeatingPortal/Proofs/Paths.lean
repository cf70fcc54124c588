import HeatingPortal.Proofs.Contexts
import HeatingPortal.Proofs.Integers
import HeatingPortal.Web.Portal

/-!
# Paths of entities

The location of an entity has two parts: the collection of its kind and its id in decimal.
Reading that location finds the entity again. The parts hold no character that a target, a path
or an escape treats in a way of its own, so routing and decoding leave them as they are.
-/

namespace HeatingPortal

/-! ### Pieces -/

namespace Text

section

variable {α : Type} [DecidableEq α] {separator : α} {part : List α}

lemma pieces_of_not_mem (h : separator ∉ part) : pieces separator part = [part] := by
  induction part with
  | nil => rfl
  | cons x rest ih =>
    obtain ⟨hx, hrest⟩ := List.ne_and_not_mem_of_not_mem_cons h
    simp only [pieces, ih hrest, if_neg (Ne.symm hx)]

lemma pieces_append_cons (h : separator ∉ part) (rest : List α) :
    pieces separator (part ++ separator :: rest) = part :: pieces separator rest := by
  induction part with
  | nil =>
    rw [List.nil_append, pieces]
    cases hrest : pieces separator rest with
    | nil => exact absurd hrest (pieces_ne_nil separator rest)
    | cons piece later => simp
  | cons x part ih =>
    obtain ⟨hx, hpart⟩ := List.ne_and_not_mem_of_not_mem_cons h
    simp only [List.cons_append, pieces, ih hpart, if_neg (Ne.symm hx)]

/-- Parts without separators are the pieces of what they are joined to. -/
lemma pieces_intercalate {parts : List (List α)} (hne : parts ≠ [])
    (h : ∀ part ∈ parts, separator ∉ part) :
    pieces separator ([separator].intercalate parts) = parts := by
  induction parts with
  | nil => exact absurd rfl hne
  | cons part rest ih =>
    obtain ⟨hpart, hrest⟩ := List.forall_mem_cons.mp h
    cases rest with
    | nil => rw [List.intercalate_singleton, pieces_of_not_mem hpart]
    | cons second rest =>
      rw [List.intercalate_cons_cons, List.append_assoc, List.singleton_append,
        pieces_append_cons hpart, ih (List.cons_ne_nil _ _) hrest]

end

/-! ### Decoding ASCII -/

/-- Bytes without a percent sign hold no escape. -/
lemma percentDecode_of_not_mem {bytes : List UInt8} (h : 0x25 ∉ bytes) :
    percentDecode bytes = bytes := by
  fun_induction percentDecode bytes with
  | case1 => rfl
  | case2 | case3 => exact absurd List.mem_cons_self h
  | case4 b rest _ ih => rw [ih (List.ne_and_not_mem_of_not_mem_cons h).2]

lemma utf8EncodeChar_of_ascii {c : Char} (h : c.toNat < 128) :
    String.utf8EncodeChar c = [UInt8.ofNat c.toNat] :=
  if_pos (Nat.le_of_lt_succ h)

lemma encode_of_ascii {text : String} (h : ∀ c ∈ text.toList, c.toNat < 128) :
    encode text = text.toList.map fun c => UInt8.ofNat c.toNat := by
  rw [encode, List.map_eq_flatMap, List.flatMap_def, List.flatMap_def]
  exact congrArg _ (List.map_congr_left fun c hmem => utf8EncodeChar_of_ascii (h c hmem))

lemma toNat_ofNat_of_ascii {c : Char} (h : c.toNat < 128) :
    (UInt8.ofNat c.toNat).toNat = c.toNat := by
  rw [UInt8.toNat_ofNat', Nat.mod_eq_of_lt (by omega)]

lemma decodeFrom_of_ascii {cs : List Char} (h : ∀ c ∈ cs, c.toNat < 128) :
    decodeFrom none (cs.map fun c => UInt8.ofNat c.toNat) = cs.map some := by
  induction cs with
  | nil => rfl
  | cons c rest ih =>
    obtain ⟨hc, hrest⟩ := List.forall_mem_cons.mp h
    have hlead : lead? (UInt8.ofNat c.toNat) = some ⟨0, 0, 0, c.toNat⟩ := by
      rw [lead?, if_pos, toNat_ofNat_of_ascii hc]
      rw [UInt8.lt_iff_toNat_lt, toNat_ofNat_of_ascii hc]
      exact hc
    have hnext : nextByte none (UInt8.ofNat c.toNat) = ([some c], none) := by
      simp only [nextByte, beginSequence, hlead, if_true, Char.ofNat_toNat]
    rw [List.map_cons, decodeFrom, hnext, ih hrest]
    rfl

/-- An ASCII text without percent signs is what its bytes decode to. -/
lemma decode?_percentDecode_encode {text : String}
    (hascii : ∀ c ∈ text.toList, c.toNat < 128) (hpercent : '%' ∉ text.toList) :
    decode? (percentDecode (encode text)) = some text := by
  have hescapes : 0x25 ∉ encode text := by
    rw [encode_of_ascii hascii, List.mem_map]
    rintro ⟨c, hmem, hc⟩
    have hcode : c.toNat = '%'.toNat := by
      rw [← toNat_ofNat_of_ascii (hascii c hmem), hc]
      rfl
    exact hpercent (Char.toNat_inj.mp hcode ▸ hmem)
  have hall (cs : List Char) : (cs.map some).mapM id = some cs := by
    induction cs with
    | nil => rfl
    | cons c rest ih => simp [ih]
  rw [percentDecode_of_not_mem hescapes, encode_of_ascii hascii, decode?,
    decodeFrom_of_ascii hascii, hall, Option.map_some, String.ofList_toList]

end Text

/-! ### Targets -/

namespace Web

open Caller Plant Settings Text

variable {entity : Entity}

lemma collectionKind?_collection (kind : Kind) :
    collectionKind? kind.collection.toList = some kind := by
  cases kind <;> decide

lemma pathOf_slash {path : List Char} (h : ∀ c ∈ path, endsPath c = false) :
    pathOf (String.ofList ('/' :: path)) = '/' :: path := by
  have hkept : beforeQuery ('/' :: path) = '/' :: path := by
    have hnone : ∀ c ∈ '/' :: path, (!endsPath c) = true := by
      simpa [endsPath] using h
    exact List.takeWhile_eq_self_iff.mpr hnone
  rw [pathOf, String.toList_ofList, afterAuthority?_slash]
  exact hkept

lemma entityLocation_eq (entity : Entity) :
    entityLocation entity = String.ofList
      ('/' :: (entity.kind.collection.toList ++ '/' :: (ofInt64 entity.id).toList)) := by
  rw [← String.toList_inj]
  simp [entityLocation, Entity.path]

/-- The location of an entity is routed to the written id of its kind. -/
lemma ofTarget?_entityLocation (entity : Entity) :
    Route.ofTarget? (entityLocation entity) =
      some (.entity entity.kind (ofInt64 entity.id)) := by
  have hcollection : ∀ c ∈ entity.kind.collection.toList, c ≠ '/' ∧ endsPath c = false := by
    cases entity.kind <;> simp [Kind.collection, endsPath]
  have hid : ∀ c ∈ (ofInt64 entity.id).toList, c ≠ '/' ∧ endsPath c = false := by
    intro c hmem
    have hcode := toNat_of_mem_ofInteger hmem
    constructor
    · rintro rfl
      simp at hcode
    · simp only [endsPath, Bool.or_eq_false_iff, decide_eq_false_iff_not]
      constructor <;> (rintro rfl; simp at hcode)
  have hpath : pathOf (entityLocation entity) =
      [] ++ '/' :: (entity.kind.collection.toList ++ '/' :: (ofInt64 entity.id).toList) := by
    rw [entityLocation_eq, pathOf_slash]
    · rfl
    · simp only [List.mem_append, List.mem_cons]
      rintro c (hc | rfl | hc)
      · exact (hcollection c hc).2
      · rfl
      · exact (hid c hc).2
  -- Neither part holds a slash, so these are all the pieces.
  have hparts : pieces '/' (pathOf (entityLocation entity)) =
      [[], entity.kind.collection.toList, (ofInt64 entity.id).toList] := by
    rw [hpath, pieces_append_cons List.not_mem_nil, pieces_append_cons, pieces_of_not_mem]
    · exact fun hmem => (hid '/' hmem).1 rfl
    · exact fun hmem => (hcollection '/' hmem).1 rfl
  have hapi : entity.kind.collection.toList ≠ "api".toList := by
    cases entity.kind <;> decide
  have hnonempty : (ofInt64 entity.id).toList.isEmpty = false :=
    List.isEmpty_eq_false_iff.mpr (ofInteger_ne_nil entity.id.toInt)
  rw [Route.ofTarget?, hparts]
  simp only [Route.ofParts?, hapi, false_and, if_false, hnonempty, collectionKind?_collection,
    Option.map_some, String.ofList_toList, Bool.false_eq_true]

lemma decode_entity (kind : Kind) (id : Int64) :
    (Route.entity kind (ofInt64 id)).decode = .ok (.entity kind (ofInt64 id)) := by
  have hcode : ∀ c ∈ (ofInt64 id).toList, c.toNat = 45 ∨ 48 ≤ c.toNat ∧ c.toNat ≤ 57 :=
    fun c hmem => toNat_of_mem_ofInteger hmem
  have hdecoded : decode? (percentDecode (encode (ofInt64 id))) = some (ofInt64 id) := by
    apply decode?_percentDecode_encode
    · intro c hmem
      have := hcode c hmem
      omega
    · intro hmem
      have := hcode '%' hmem
      simp at this
  simp only [Route.decode, hdecoded]

/-- Reading the location of an entity is accepted. -/
lemma accept_of_entityLocation {request : Request} (hget : request.method = .get)
    (htarget : request.target = entityLocation entity) :
    Portal.accept request = .ok (.entity entity.kind (ofInt64 entity.id)) := by
  simp only [Portal.accept, htarget, ofTarget?_entityLocation, hget, Route.allows, if_true]
  rw [decode_entity]
  rfl

/-- Every entity has a location of its own. -/
lemma entityLocation_injective : Function.Injective entityLocation := by
  intro entity other h
  have hroute : Route.ofTarget? (entityLocation entity) =
      Route.ofTarget? (entityLocation other) := by
    rw [h]
  rw [ofTarget?_entityLocation, ofTarget?_entityLocation, Option.some.injEq,
    Route.entity.injEq] at hroute
  obtain ⟨hkind, hid⟩ := hroute
  have hread : trimmedInt64? (ofInt64 entity.id) = trimmedInt64? (ofInt64 other.id) := by
    rw [hid]
  rw [trimmedInt64?_ofInt64, trimmedInt64?_ofInt64, Option.some.injEq] at hread
  cases entity
  cases other
  simp_all

lemma ofTarget?_root : Route.ofTarget? "/" = some .system := by
  decide

lemma entityLocation_ne_root (entity : Entity) : entityLocation entity ≠ "/" := by
  intro h
  have hroute := ofTarget?_entityLocation entity
  rw [h, ofTarget?_root] at hroute
  cases hroute

/-- Where the entities of a kind are listed. -/
def collectionLocation (kind : Kind) : String :=
  "/" ++ kind.collection

/-- Reading the location of a collection is accepted. -/
lemma accept_of_collectionLocation {request : Request} {kind : Kind}
    (hget : request.method = .get) (htarget : request.target = collectionLocation kind) :
    Portal.accept request = .ok (.entities kind) := by
  have hroute : Route.ofTarget? (collectionLocation kind) = some (.entities kind) := by
    cases kind <;> decide
  simp only [Portal.accept, htarget, hroute, hget, Route.allows, if_true]
  rfl

lemma accept_of_root {request : Request} (hget : request.method = .get)
    (htarget : request.target = "/") : Portal.accept request = .ok .system := by
  simp only [Portal.accept, htarget, ofTarget?_root, hget, Route.allows, if_true]
  rfl

end Web

/-! ### Addresses -/

namespace Caller

open Plant Settings Text Web

variable {context : EntityContext} {entity : Entity}

lemma read?_ofInt64 (entity : Entity) :
    Entity.read? entity.kind (ofInt64 entity.id) = some entity := by
  rw [Entity.read?, trimmedInt64?_ofInt64, Option.map_some]

lemma address_of_read {text : String} (hread : Entity.read? context.kind text = some entity)
    (hmem : entity.id ∈ context.ids) : context.address text = .ok entity := by
  delta EntityContext.address
  rw [hread]
  dsimp only
  rw [if_pos (List.contains_iff_mem.mpr hmem)]

lemma address_of_not_mem {text : String} (hread : Entity.read? context.kind text = some entity)
    (hmem : entity.id ∉ context.ids) :
    context.address text = .error (.unknownEntity entity) := by
  delta EntityContext.address
  rw [hread]
  dsimp only
  rw [if_neg (by simpa using hmem)]

/-- However an entity was addressed, its written id addresses it too. -/
lemma address_ofInt64 {text : String} (h : context.address text = .ok entity) :
    context.address (ofInt64 entity.id) = .ok entity := by
  obtain ⟨hread, hmem⟩ := read_of_address h
  apply address_of_read _ hmem
  rw [← kind_of_read hread, read?_ofInt64]

lemma addressed_of_context_error {settings : Settings} {caller : Identity} {kind : Kind}
    {error : Error} (h : EntityContext.of settings caller kind = .error error) (id : String) :
    addressed settings caller kind id = .error error := by
  simp only [addressed, h, bind, Except.bind]

lemma addressed_of_address_error {settings : Settings} {caller : Identity} {kind : Kind}
    {id : String} {error : Error}
    (hcontext : EntityContext.of settings caller kind = .ok context)
    (h : context.address id = .error error) :
    addressed settings caller kind id = .error error := by
  simp only [addressed, hcontext, h, bind, Except.bind]

lemma addressed_of_context {settings : Settings} {caller : Identity} {kind : Kind} {id : String}
    (hcontext : EntityContext.of settings caller kind = .ok context)
    (hentity : context.address id = .ok entity) :
    addressed settings caller kind id = .ok (context, entity) := by
  simp only [addressed, hcontext, hentity, bind, Except.bind, pure, Except.pure]

end Caller

end HeatingPortal
