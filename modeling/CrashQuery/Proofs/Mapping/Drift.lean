import CrashQuery.Proofs.Mapping.Declared

/-!
# Paths that mappings have and catalogs do not

The paths of a mapping are read from its properties: a property with properties of its own stands
for theirs, and every other one for itself (`Mapping.pathsOf_eq`). In the mapping of a catalog the
sections have properties and the fields have none, whatever they are called, so that the paths that
are read are the storage paths of the fields (`Mapping.mem_pathsOfType_render`). It does not matter
how many indices carry the mapping, nor whether there is a key above it. `Mapping.paths_render` says
so for the paths of a whole response, and `Mapping.missingFields_render` that comparing them with
another catalog finds the storage paths that this one does not have.
-/

namespace CrashQuery.Mapping

/-- The paths at a property that is an object are those of its properties, if it has any. -/
theorem pathsBelow_eq (path : String) (fields : List (String × Json)) :
    pathsBelow path fields =
      match Entries.find? "properties" fields with
      | some properties => pathsInside path properties
      | none => [path] := by
  induction fields with
  | nil => rfl
  | cons e rest ih =>
    obtain ⟨key, value⟩ := e
    rw [pathsBelow, Entries.find?]
    by_cases hkey : key = "properties"
    · rw [if_pos hkey, if_pos hkey.symm]
    · rw [if_neg hkey, if_neg (Ne.symm hkey), ih]

/-- The paths at a property are those of its properties, or its own where it has none. -/
theorem pathsOf_eq (path : String) (property : Json) :
    pathsOf path property =
      match property.field "properties" with
      | .obj properties => pathsOfAll (some path) properties
      | _ => [path] := by
  cases property with
  | obj fields =>
    rw [pathsOf, pathsBelow_eq, Json.field, Json.get?]
    cases Entries.find? "properties" fields with
    | none => rfl
    | some properties =>
      rw [Option.getD_some]
      cases properties <;> simp only [pathsInside]
  | _ => simp only [pathsOf, Json.field, Json.get?, Option.getD_none]

/-- A path of properties is one of each of them. -/
theorem mem_pathsOfAll {path : Option String} {properties : List (String × Json)} {p : String} :
    p ∈ pathsOfAll path properties ↔ ∃ e ∈ properties, p ∈ pathsOf (extend path e.1) e.2 := by
  induction properties with
  | nil => simp [pathsOfAll]
  | cons e rest ih =>
    obtain ⟨name, property⟩ := e
    simp [pathsOfAll, ih]

variable {catalog : Catalog} {doctype : String}

/-- Fields have no properties, not even those with sub-fields. -/
theorem properties_ofField (f : Field) : (ofField f).field "properties" = .null := by
  unfold ofField
  split
  · simp [Json.field_object, Entries.find?_ofList_cons]
  · cases f.kind <;>
      simp [typeOf, Json.field, Json.get?, Json.object, Entries.find?, Entries.find?_ofList_cons]

/-- A field stands for its own path. -/
theorem pathsOf_ofField (path : String) (f : Field) : pathsOf path (ofField f) = [path] := by
  rw [pathsOf_eq, properties_ofField]

/-- The paths of a section are those of its fields, also where some of these share a storage
name. -/
theorem mem_pathsOf_ofOrigin {origin : Origin} {path p : String} :
    p ∈ pathsOf path (ofOrigin catalog origin) ↔
      ∃ f ∈ catalog.fields, f.origin = origin ∧ path ++ "." ++ f.storageName = p := by
  rw [pathsOf_eq, properties_ofOrigin]
  unfold Json.object
  simp only
  rw [mem_pathsOfAll]
  constructor
  · rintro ⟨e, he, hp⟩
    obtain ⟨f, hf, rfl⟩ := List.mem_map.1 (Entries.mem_of_mem_ofList he)
    obtain ⟨hf, horigin⟩ := List.mem_filter.1 hf
    rw [pathsOf_ofField, List.mem_singleton] at hp
    exact ⟨f, hf, beq_iff_eq.1 horigin, hp.symm⟩
  · rintro ⟨f, hf, horigin, rfl⟩
    have hname : f.storageName ∈ Entries.keys (Entries.ofList
        ((catalog.fields.filter fun f => f.origin == origin).map fun f =>
          (f.storageName, ofField f))) := by
      rw [Entries.mem_keys_ofList, List.map_map]
      exact List.mem_map.2 ⟨f, List.mem_filter.2 ⟨hf, beq_iff_eq.2 horigin⟩, rfl⟩
    obtain ⟨e, he, hkey⟩ := List.mem_map.1 hname
    -- The property may be that of another field, which has the same path.
    obtain ⟨g, -, rfl⟩ := List.mem_map.1 (Entries.mem_of_mem_ofList he)
    refine ⟨_, he, ?_⟩
    rw [pathsOf_ofField, List.mem_singleton, ← hkey]
    rfl

/-- The sections of a mapping are those of stored reports. -/
theorem mem_sections {e : String × Json} : e ∈ Entries.ofList (sections catalog) ↔
    ∃ origin : Origin, e = (origin.name, ofOrigin catalog origin) := by
  constructor
  · intro he
    obtain ⟨origin, -, rfl⟩ := List.mem_map.1 (Entries.mem_of_mem_ofList he)
    exact ⟨origin, rfl⟩
  · rintro ⟨origin, rfl⟩
    rw [Entries.mem_iff_find? Entries.sorted_ofList]
    cases origin <;> simp [sections, Entries.find?_ofList_cons, Origin.name]

/-- The paths that the mapping of a catalog declares are the storage paths of its fields. -/
theorem mem_pathsOfType_render {p : String} :
    p ∈ pathsOfType ((render catalog doctype).field doctype) ↔
      p ∈ catalog.fields.map Field.storagePath := by
  unfold pathsOfType
  rw [properties_render]
  unfold Json.object
  simp only
  rw [mem_pathsOfAll, List.mem_map]
  constructor
  · rintro ⟨e, he, hp⟩
    obtain ⟨origin, rfl⟩ := mem_sections.1 he
    obtain ⟨f, hf, rfl, rfl⟩ := mem_pathsOf_ofOrigin.1 hp
    exact ⟨f, hf, rfl⟩
  · rintro ⟨f, hf, rfl⟩
    exact ⟨_, mem_sections.2 ⟨f.origin, rfl⟩, mem_pathsOf_ofOrigin.2 ⟨f, hf, rfl, rfl⟩⟩

/-- Whether an index carries the mapping of a type of reports: under the key for it, whatever else
the index has, or without this key, which the type of reports must not have as its name then. -/
inductive Carries (mapping : Json) (doctype : String) : Json → Prop
  /-- The mapping stands under the key. -/
  | under {index : Json} : index.get? "mappings" = some mapping → Carries mapping doctype index
  /-- The mapping is all that the index has. -/
  | itself : doctype ≠ "mappings" → Carries mapping doctype mapping

/-- An index that carries the mapping of a catalog has its types. -/
theorem Carries.typesOf_eq {index : Json} (h : Carries (render catalog doctype) doctype index) :
    typesOf index = render catalog doctype := by
  unfold typesOf
  cases h with
  | under hkey =>
    rw [hkey]
    rfl
  | itself hname =>
    have hnone : (render catalog doctype).get? "mappings" = none := by
      unfold render Json.get?
      simp only
      rw [Entries.find?, if_neg (Ne.symm hname), Entries.find?_nil]
    rw [hnone]
    rfl

/-- An index that carries the mapping of a catalog declares the storage paths of its fields. -/
theorem Carries.mem_pathsOfIndex {index : Json}
    (h : Carries (render catalog doctype) doctype index) {p : String} :
    p ∈ pathsOfIndex index ↔ p ∈ catalog.fields.map Field.storagePath := by
  have hpaths : pathsOfIndex index = pathsOfType ((render catalog doctype).field doctype) := by
    unfold pathsOfIndex
    rw [h.typesOf_eq]
    simp [render, Json.field, Json.get?, Entries.find?]
  rw [hpaths, mem_pathsOfType_render]

section Response

variable {indices : List (String × Json)} (hne : indices ≠ [])
  (h : ∀ i ∈ indices, Carries (render catalog doctype) doctype i.2)

include hne h

/-- The paths that are declared where all indices carry the mapping of a catalog are those that the
catalog knows. -/
theorem paths_eq_storagePaths : paths (.obj indices) = catalog.storagePaths := by
  unfold paths Catalog.storagePaths
  refine Entries.sortStrings_congr fun p => ?_
  rw [List.mem_flatMap]
  constructor
  · rintro ⟨i, hi, hp⟩
    exact (h i hi).mem_pathsOfIndex.1 hp
  · intro hp
    obtain ⟨i, hi⟩ := List.exists_mem_of_ne_nil indices hne
    exact ⟨i, hi, (h i hi).mem_pathsOfIndex.2 hp⟩

/-- Where all indices carry the mapping of a catalog, the storage paths of the catalog are read back
from them, sorted, and those of them are missing that another catalog does not have; none is for the
catalog itself. -/
theorem missingFields_render (known : Catalog) :
    paths (.obj indices) = catalog.storagePaths ∧
      (missingFields known (.obj indices)).Pairwise (· < ·) ∧
      (∀ p, p ∈ missingFields known (.obj indices) ↔
        (∃ f ∈ catalog.fields, f.storagePath = p) ∧ ∀ g ∈ known.fields, g.storagePath ≠ p) ∧
      missingFields catalog (.obj indices) = [] := by
  have hpaths := paths_eq_storagePaths hne h
  have hmem : ∀ (c : Catalog) p, p ∈ c.storagePaths ↔ ∃ f ∈ c.fields, f.storagePath = p := by
    intro c p
    unfold Catalog.storagePaths
    rw [Entries.mem_sortStrings, List.mem_map]
  unfold missingFields
  rw [hpaths]
  refine ⟨rfl, (Entries.pairwise_sortStrings _).filter _, ?_, ?_⟩
  · intro p
    rw [List.mem_filter, hmem]
    refine and_congr_right fun _ => ?_
    simp [hmem]
  · rw [List.filter_eq_nil_iff]
    intro p hp
    simp [hp]

end Response

/-- A catalog with storage names that mappings have for other things, one of them twice. -/
def wordsCatalog : Catalog where
  version := 1
  fields :=
    [⟨"title", "properties", .processed, .text, true, false, [], none⟩,
      ⟨"title_words", "properties", .processed, .text, false, false, [], none⟩,
      ⟨"number", "fields.full", .processed, .integer, true, false, [], none⟩]
  faultless := by decide

/-- Two indices, one with a key above the mapping, in which the reports have another such name. -/
theorem missingFields_render_words :
    let mapping := render wordsCatalog "properties"
    let indices := [("a", Json.obj [("mappings", mapping)]), ("b", mapping)]
    (∀ i ∈ indices, Carries mapping "properties" i.2) ∧
      paths (.obj indices) = ["processed_crash.fields.full", "processed_crash.properties"] ∧
      "processed_crash.properties" ∈ missingFields titlesCatalog (.obj indices) ∧
      missingFields wordsCatalog (.obj indices) = [] := by
  intro mapping indices
  have hcarries : ∀ i ∈ indices, Carries mapping "properties" i.2 := by
    intro i hi
    rcases List.mem_cons.1 hi with rfl | hi
    · exact .under rfl
    · rw [List.mem_singleton.1 hi]
      exact .itself (by decide)
  obtain ⟨hpaths, -, hmissing, hnone⟩ :=
    missingFields_render (List.cons_ne_nil _ _) hcarries titlesCatalog
  exact ⟨hcarries, hpaths.trans (by decide +kernel), (hmissing _).2 (by decide), hnone⟩

end CrashQuery.Mapping
