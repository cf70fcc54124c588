import HeatingPortal.Command.Report
import HeatingPortal.Proofs.LoadedSettings
import HeatingPortal.Proofs.Paths
import HeatingPortal.Proofs.WorkingPlant

/-!
# Reachable pages

What a caller can reach is told in three places: by the report on the settings, by the lists of
the collections, and by every page that is there or is not. The report asks whether a context
resolves, a list shows the entities of the context, and a page looks for its id in the context;
on a plant that works and has the entities they agree.
-/

namespace HeatingPortal

open Caller Plant Settings Text Web

/-! ### The report -/

namespace Command

variable {settings : Settings} {caller : Identity} {kind : Kind} {context : EntityContext}

/-- Whether a location is that of an entity of a kind. -/
def isLocationOf (kind : Kind) (location : String) : Bool :=
  (collectionLocation kind ++ "/").toList.isPrefixOf location.toList

lemma isLocationOf_entityLocation (kind : Kind) (entity : Entity) :
    isLocationOf kind (entityLocation entity) = decide (entity.kind = kind) := by
  obtain ⟨found, id⟩ := entity
  rw [isLocationOf, entityLocation_eq]
  cases kind <;> cases found <;> simp [collectionLocation, Kind.collection, List.isPrefixOf]

lemma isLocationOf_root (kind : Kind) : isLocationOf kind "/" = false := by
  cases kind <;> decide

lemma mem_reachableMode_iff {location : String} :
    location ∈ reachableMode settings caller ↔
      location = "/" ∧ ∃ modes, systemModes settings caller = .ok modes := by
  unfold reachableMode
  cases systemModes settings caller <;> simp

lemma reachableEntities_of_context (h : EntityContext.of settings caller kind = .ok context) :
    reachableEntities settings caller kind = context.visible.map entityLocation := by
  rw [reachableEntities, h]

lemma reachableEntities_of_error {error : Error}
    (h : EntityContext.of settings caller kind = .error error) :
    reachableEntities settings caller kind = [] := by
  rw [reachableEntities, h]

lemma mem_visible_iff {entity : Entity}
    (h : EntityContext.of settings caller kind = .ok context) :
    entity ∈ context.visible ↔ entity.kind = kind ∧ entity.id ∈ context.ids := by
  obtain ⟨rfl, -, -⟩ := resolved_of_context h
  obtain ⟨found, id⟩ := entity
  simp [EntityContext.visible, and_comm, eq_comm]

/-- The reachable locations of a kind are those of its entities. -/
lemma exists_entity_of_mem {location : String}
    (hmem : location ∈ reachableEntities settings caller kind) :
    ∃ entity : Entity, entity.kind = kind ∧ location = entityLocation entity := by
  cases hcontext : EntityContext.of settings caller kind with
  | error error =>
    rw [reachableEntities_of_error hcontext] at hmem
    cases hmem
  | ok context =>
    rw [reachableEntities_of_context hcontext] at hmem
    obtain ⟨entity, hentity, rfl⟩ := List.mem_map.mp hmem
    exact ⟨entity, ((mem_visible_iff hcontext).mp hentity).1, rfl⟩

lemma filter_reachableEntities (settings : Settings) (caller : Identity) (kind found : Kind) :
    (reachableEntities settings caller found).filter (isLocationOf kind) =
      if found = kind then reachableEntities settings caller found else [] := by
  split_ifs with h
  · rw [List.filter_eq_self]
    intro location hmem
    obtain ⟨entity, hkind, rfl⟩ := exists_entity_of_mem hmem
    simp [isLocationOf_entityLocation, hkind, h]
  · rw [List.filter_eq_nil_iff]
    intro location hmem
    obtain ⟨entity, hkind, rfl⟩ := exists_entity_of_mem hmem
    simp [isLocationOf_entityLocation, hkind, h]

/-- Of all that is reachable, the locations of a kind are those that were reported for it. -/
lemma filter_reachable (settings : Settings) (caller : Identity) (kind : Kind) :
    (reachable settings caller).filter (isLocationOf kind) =
      reachableEntities settings caller kind := by
  have hmode : (reachableMode settings caller).filter (isLocationOf kind) = [] := by
    rw [List.filter_eq_nil_iff]
    intro location hmem
    obtain ⟨rfl, -⟩ := mem_reachableMode_iff.mp hmem
    simp [isLocationOf_root]
  rw [reachable, List.filter_append, hmode, List.nil_append]
  simp only [Kind.all, List.flatMap_cons, List.flatMap_nil, List.filter_append,
    filter_reachableEntities, List.append_nil]
  cases kind <;> simp

lemma root_mem_reachable_iff :
    "/" ∈ reachable settings caller ↔ ∃ modes, systemModes settings caller = .ok modes := by
  rw [reachable, List.mem_append, mem_reachableMode_iff, List.mem_flatMap]
  refine ⟨?_, fun h => .inl ⟨rfl, h⟩⟩
  rintro (⟨-, h⟩ | ⟨kind, -, hmem⟩)
  · exact h
  · obtain ⟨entity, -, hlocation⟩ := exists_entity_of_mem hmem
    exact absurd hlocation.symm (entityLocation_ne_root entity)

/-- An entity is reachable when its kind has a context where its id is listed. -/
lemma entityLocation_mem_reachable_iff {entity : Entity} :
    entityLocation entity ∈ reachable settings caller ↔
      ∃ context, EntityContext.of settings caller entity.kind = .ok context ∧
        entity.id ∈ context.ids := by
  have hlocation : isLocationOf entity.kind (entityLocation entity) = true := by
    simp [isLocationOf_entityLocation]
  have hfilter : entityLocation entity ∈ reachable settings caller ↔
      entityLocation entity ∈ reachableEntities settings caller entity.kind := by
    rw [← filter_reachable, List.mem_filter, and_iff_left hlocation]
  rw [hfilter]
  cases hcontext : EntityContext.of settings caller entity.kind with
  | error error =>
    rw [reachableEntities_of_error hcontext]
    simp
  | ok context =>
    rw [reachableEntities_of_context hcontext,
      List.mem_map_of_injective entityLocation_injective, mem_visible_iff hcontext]
    simp

end Command

/-! ### The pages -/

namespace Web

open Command

/-- The list that a document is, if it is one. -/
def Document.list? : Document → Option ListPage
  | entities page => some page
  | _ => none

/-- The locations that a response lists, if it is a list. -/
def Response.listed? (response : Response) : Option (List String) :=
  response.document.list?.map fun page =>
    page.entities.map fun listed => entityLocation listed.entity

variable {world : World} {request : Request}

section

variable (portal : Portal) (hsound : portal.settings.Sound) (hworks : world.plant.Works)
  (hget : request.method = .get)

include hsound hworks hget

/-- The page of the system mode is there when it is reported. -/
lemma status_of_root (htarget : request.target = "/") :
    (world.serve portal request).1.1.status =
      if "/" ∈ reachable portal.settings (portal.caller request) then 200 else 404 := by
  have hroute := accept_of_root hget htarget
  cases hmodes : systemModes portal.settings (portal.caller request) with
  | error error =>
    obtain rfl := disabled_of_systemModes hsound hmodes
    rw [response_of_stops portal world hget hroute (Task.stops_ofExcept_bind hmodes _ _), if_neg]
    · rfl
    · rw [root_mem_reachable_iff, hmodes]
      simp
  | ok modes =>
    obtain ⟨visible, hsensors⟩ := exists_sensors hsound (portal.caller request)
    obtain ⟨readings, warnings, hyields⟩ := exists_yields_showSystemMode hworks hmodes hsensors
    rw [response_of_yields portal world hget hroute hyields,
      if_pos (root_mem_reachable_iff.mpr ⟨modes, hmodes⟩)]
    rfl

/-- The list of a kind has the locations that are reported, or is not there
and none is reported. -/
lemma listed?_of_collectionLocation {kind : Kind}
    (hholds : ∀ context,
      EntityContext.of portal.settings (portal.caller request) kind = .ok context →
        ∀ entity ∈ context.visible, (world.plant.device? entity).isSome = true)
    (htarget : request.target = collectionLocation kind) :
    let answer := (world.serve portal request).1.1
    let locations :=
      (reachable portal.settings (portal.caller request)).filter (isLocationOf kind)
    answer.status = 200 ∧ answer.listed? = some locations ∨
      answer.status = 404 ∧ locations = [] := by
  intro answer locations
  have hroute := accept_of_collectionLocation hget htarget
  have hlocations : locations =
      reachableEntities portal.settings (portal.caller request) kind := filter_reachable _ _ _
  rw [hlocations]
  cases hcontext : EntityContext.of portal.settings (portal.caller request) kind with
  | error error =>
    obtain rfl := disabled_of_context hsound hcontext
    have hanswer : answer = .ofError (.disabled kind.idKeys.standard) :=
      response_of_stops portal world hget hroute (Task.stops_ofExcept_bind hcontext _ _)
    rw [hanswer]
    exact .inr ⟨rfl, reachableEntities_of_error hcontext⟩
  | ok context =>
    obtain ⟨entities, hentities, hyields⟩ :=
      exists_yields_listEntities hworks hcontext (hholds context hcontext)
    have hanswer : answer = _ := response_of_yields portal world hget hroute hyields
    rw [hanswer, reachableEntities_of_context hcontext, ← hentities, List.map_map]
    exact .inl ⟨rfl, rfl⟩

/-- The page of an entity is there when its location is reported. -/
lemma status_of_entityLocation {entity : Entity}
    (hholds : ∀ context,
      EntityContext.of portal.settings (portal.caller request) entity.kind = .ok context →
        ∀ entity ∈ context.visible, (world.plant.device? entity).isSome = true)
    (htarget : request.target = entityLocation entity) :
    (world.serve portal request).1.1.status =
      if entityLocation entity ∈ reachable portal.settings (portal.caller request) then 200
      else 404 := by
  have hroute := accept_of_entityLocation hget htarget
  have hstops {error : Error} (h : addressed portal.settings (portal.caller request) entity.kind
      (ofInt64 entity.id) = .error error) :
      (world.serve portal request).1.1 = .ofError error :=
    response_of_stops portal world hget hroute (Task.stops_ofExcept_bind h _ _)
  cases hcontext : EntityContext.of portal.settings (portal.caller request) entity.kind with
  | error error =>
    obtain rfl := disabled_of_context hsound hcontext
    rw [hstops (addressed_of_context_error hcontext _), if_neg]
    · rfl
    · rw [entityLocation_mem_reachable_iff, hcontext]
      simp
  | ok context =>
    obtain ⟨hkind, -, -⟩ := resolved_of_context hcontext
    have hread : Entity.read? context.kind (ofInt64 entity.id) = some entity := by
      rw [hkind, read?_ofInt64]
    by_cases hmem : entity.id ∈ context.ids
    · obtain ⟨device, hdevice⟩ := Option.isSome_iff_exists.mp
        (hholds context hcontext entity ((mem_visible_iff hcontext).mpr ⟨rfl, hmem⟩))
      have haddressed := addressed_of_context hcontext (address_of_read hread hmem)
      rw [response_of_yields portal world hget hroute
        (yields_showEntity hworks haddressed hdevice),
        if_pos (entityLocation_mem_reachable_iff.mpr ⟨context, hcontext, hmem⟩)]
      rfl
    · rw [hstops (addressed_of_address_error hcontext (address_of_not_mem hread hmem)), if_neg]
      · rfl
      · rw [entityLocation_mem_reachable_iff, hcontext]
        simpa using hmem

end

end Web

end HeatingPortal
