import CrashQuery.Mapping
import CrashQuery.Proofs.Query.Paths

/-!
# What the mapping of a catalog declares

The mapping that a catalog implies has one property under each storage name of a section. Where
several fields of a catalog are stored under one name, it is that of the last of them
(`Mapping.propertyOf_render`), and a field that has a full version but is stored under the name of
the full version has one sub-field instead of two. `Mapping.IsKept` says that neither takes anything
from a field, and `Mapping.declares_render_iff` that the mapping declares just such fields. What is
declared has the types that queries rely on (`Mapping.Declares.typed`), so that the mapping of a
catalog that keeps all its fields gives a type to every path of every query
(`Service.declares_mapping`). The built-in catalog is such a one (`Mapping.isKept_builtin`); in
`Mapping.titlesCatalog` a field loses its full version to one that comes behind it.
-/

namespace CrashQuery

/-- The last field with the storage name in the section. -/
def Catalog.lastByStorage (c : Catalog) (origin : Origin) (name : String) : Option Field :=
  (c.fields.filter fun f => f.origin == origin && f.storageName == name).getLast?

namespace Mapping

/-- The property that a mapping has for a storage name in a section. -/
def propertyOf (mapping : Json) (doctype : String) (origin : Origin) (name : String) :
    Option Json :=
  ((((mapping.field doctype).field "properties").field origin.name).field "properties").get? name

/-- The type of a property with sub-fields. -/
def multiType : Json := .str "multi_field"

/-- Whether a property is one for a field: it has the type of the values, or a sub-field of this
type under the storage name, and beside it another one for the full version if the field has
one. -/
def IsFor (property : Json) (f : Field) : Prop :=
  (property = typeOf f.kind ∧ f.hasFull = false) ∨
    property.field "type" = multiType ∧
      (property.field "fields").get? f.storageName = some (typeOf f.kind) ∧
      (f.hasFull = true → (property.field "fields").get? Field.fullName = some fullType)

/-- Whether a mapping declares a field under its section and its storage name. -/
def Declares (mapping : Json) (doctype : String) (f : Field) : Prop :=
  ∃ property, propertyOf mapping doctype f.origin f.storageName = some property ∧ IsFor property f

/-- The type of what exact comparisons with a field go to. -/
def exactTypeOf (f : Field) : Json := if f.hasFull then fullType else typeOf f.kind

/-- Whether a mapping gives a type to a path. A property with sub-fields has the type of the one
that is named as itself, and each sub-field has its type one step further. -/
inductive HasType (mapping : Json) (doctype : String) : String → Json → Prop
  /-- The type of a property. -/
  | property {origin : Origin} {name : String} {type : Json} :
    propertyOf mapping doctype origin name = some type → type.field "type" ≠ multiType →
    HasType mapping doctype (origin.name ++ "." ++ name) type
  /-- The type of a property with sub-fields. -/
  | itself {origin : Origin} {name : String} {property type : Json} :
    propertyOf mapping doctype origin name = some property → property.field "type" = multiType →
    (property.field "fields").get? name = some type →
    HasType mapping doctype (origin.name ++ "." ++ name) type
  /-- The type of a sub-field. -/
  | sub {origin : Origin} {name part : String} {property type : Json} :
    propertyOf mapping doctype origin name = some property → property.field "type" = multiType →
    (property.field "fields").get? part = some type →
    HasType mapping doctype (origin.name ++ "." ++ name ++ "." ++ part) type

variable {catalog : Catalog} {doctype : String} {f g : Field}

/-- The sections of the mapping of a catalog. -/
def sections (catalog : Catalog) : List (String × Json) :=
  [Origin.processed, Origin.raw].map fun o => (o.name, ofOrigin catalog o)

/-- The mapping of a catalog has its sections as properties of the type of reports. -/
theorem properties_render (catalog : Catalog) (doctype : String) :
    ((render catalog doctype).field doctype).field "properties" =
      Json.object (sections catalog) := by
  have htype : (render catalog doctype).field doctype = Json.object
      [("_all", .obj [("enabled", .bool false)]),
        ("properties", Json.object (sections catalog))] := by
    simp [render, sections, Json.field, Json.get?, Entries.find?]
  rw [htype]
  simp [Json.field_object, Entries.find?_ofList_cons]

/-- A section has a property for each field in it, under its storage name. -/
theorem properties_ofOrigin (catalog : Catalog) (origin : Origin) :
    (ofOrigin catalog origin).field "properties" = Json.object
      ((catalog.fields.filter fun f => f.origin == origin).map fun f =>
        (f.storageName, ofField f)) := by
  simp [ofOrigin, Json.field_object, Entries.find?_ofList_cons]

/-- The mapping of a catalog has the property of the last field under each storage name. -/
theorem propertyOf_render (catalog : Catalog) (doctype : String) (origin : Origin) (name : String) :
    propertyOf (render catalog doctype) doctype origin name =
      (catalog.lastByStorage origin name).map ofField := by
  have hsection : (((render catalog doctype).field doctype).field "properties").field origin.name =
      ofOrigin catalog origin := by
    rw [properties_render]
    cases origin <;> simp [sections, Json.field_object, Entries.find?_ofList_cons, Origin.name]
  have hfilter : (catalog.fields.filter fun f => f.origin == origin && f.storageName == name) =
      (catalog.fields.filter fun f => f.origin == origin).filter
        fun f => f.storageName == name := by
    rw [List.filter_filter]
    exact List.filter_congr fun f _ => Bool.and_comm _ _
  unfold propertyOf Catalog.lastByStorage
  rw [hsection, properties_ofOrigin, hfilter]
  refine (Entries.find?_ofList _ _).trans ?_
  rw [List.filter_map, List.getLast?_map, Option.map_map]
  rfl

/-- A field that is found last is stored where it was looked for. -/
theorem stored_of_lastByStorage {origin : Origin} {name : String}
    (h : catalog.lastByStorage origin name = some g) :
    g ∈ catalog.fields ∧ g.origin = origin ∧ g.storageName = name := by
  obtain ⟨hmem, hstored⟩ := List.mem_filter.1 (List.mem_of_getLast? h)
  simpa [hmem] using hstored

/-- Some field is the last one under the storage name of a field. -/
theorem exists_lastByStorage (hf : f ∈ catalog.fields) :
    ∃ g, catalog.lastByStorage f.origin f.storageName = some g := by
  have hmem : f ∈ catalog.fields.filter fun g =>
      g.origin == f.origin && g.storageName == f.storageName := by
    simp [hf]
  exact ⟨_, List.getLast?_eq_some_getLast (List.ne_nil_of_mem hmem)⟩

/-- The values of a field have no sub-fields. -/
theorem type_typeOf (kind : Kind) : (typeOf kind).field "type" ≠ multiType := by
  cases kind <;>
    simp [typeOf, multiType, Json.field, Json.get?, Json.object, Entries.find?,
      Entries.find?_ofList_cons]

/-- Values are not typed as full versions are. -/
theorem typeOf_ne_fullType (kind : Kind) : typeOf kind ≠ fullType := by
  intro h
  have hindex := congrArg (Json.field "index") h
  cases kind <;>
    simp [typeOf, fullType, Json.field, Json.get?, Json.object, Entries.find?,
      Entries.find?_ofList_cons] at hindex

/-- Kinds have the same type exactly when they are the same or both textual. -/
theorem typeOf_eq_iff {kind other : Kind} : typeOf kind = typeOf other ↔
    kind = other ∨ kind.isTextual = true ∧ other.isTextual = true := by
  constructor
  · intro h
    have htype := congrArg (Json.field "type") h
    have hformat := congrArg (Json.field "format") h
    cases kind <;> cases other <;>
      simp [typeOf, Kind.isTextual, Json.field, Json.get?, Json.object, Entries.find?,
        Entries.find?_ofList_cons] at htype hformat ⊢
  · have htext : ∀ kind : Kind, kind.isTextual = true →
        typeOf kind = .obj [("type", .str "string")] := by
      intro kind hkind
      cases kind <;> first | rfl | cases hkind
    rintro (rfl | ⟨hkind, hother⟩)
    · rfl
    · rw [htext kind hkind, htext other hother]

/-- The property of a field with a full version has sub-fields. -/
theorem type_ofField (h : f.hasFull = true) : (ofField f).field "type" = multiType := by
  simp [ofField, h, multiType, Json.field_object, Entries.find?_ofList_cons]

/-- The sub-fields of a field with a full version are the one for its values, unless it has the name
of the other one, and the one for their full version. -/
theorem fields_ofField (h : f.hasFull = true) (name : String) :
    ((ofField f).field "fields").get? name =
      if name = Field.fullName then some fullType
      else if name = f.storageName then some (typeOf f.kind) else none := by
  have hfields : (ofField f).field "fields" =
      Json.object [(f.storageName, typeOf f.kind), (Field.fullName, fullType)] := by
    simp [ofField, h, Json.field_object, Entries.find?_ofList_cons]
  rw [hfields]
  unfold Json.object Json.get?
  simp only [Entries.find?_ofList_cons, Entries.ofList_nil, Entries.find?_nil, Option.none_or]
  split <;> rfl

/-- The property of a field is one for another field under its storage name exactly when their
values have the same type, a full version is not lost, and a full version has a name of its own. -/
theorem isFor_ofField_iff (hname : g.storageName = f.storageName) : IsFor (ofField g) f ↔
    typeOf g.kind = typeOf f.kind ∧ (f.hasFull = true → g.hasFull = true) ∧
      (g.hasFull = true → f.storageName ≠ Field.fullName) := by
  unfold IsFor
  cases hg : g.hasFull with
  | false =>
    have hproperty : ofField g = typeOf g.kind := by simp [ofField, hg]
    simp [hproperty, type_typeOf]
  | true =>
    have hproperty : ofField g ≠ typeOf f.kind := by
      intro hsame
      refine type_typeOf f.kind ?_
      rw [← hsame, type_ofField hg]
    by_cases hfull : f.storageName = Field.fullName
    · simp [hproperty, fields_ofField hg, hfull, (typeOf_ne_fullType f.kind).symm]
    · simp [hproperty, type_ofField hg, fields_ofField hg, hname, hfull]

/-- Whether the mapping of a catalog keeps what a field asks for: the last field that is stored
under its name has values of the same type, has a full version if this one does, and is not stored
under the name of the full version if it has one. -/
def IsKept (catalog : Catalog) (f : Field) : Prop :=
  ∀ g, catalog.lastByStorage f.origin f.storageName = some g →
    (g.kind = f.kind ∨ g.kind.isTextual = true ∧ f.kind.isTextual = true) ∧
      (f.hasFull = true → g.hasFull = true) ∧ (g.hasFull = true → f.storageName ≠ Field.fullName)

/-- The mapping of a catalog declares just those of its fields that it keeps. -/
theorem declares_render_iff (hf : f ∈ catalog.fields) :
    Declares (render catalog doctype) doctype f ↔ IsKept catalog f := by
  obtain ⟨g, hg⟩ := exists_lastByStorage hf
  obtain ⟨-, -, hname⟩ := stored_of_lastByStorage hg
  have hdeclares : Declares (render catalog doctype) doctype f ↔ IsFor (ofField g) f := by
    unfold Declares
    rw [propertyOf_render, hg]
    simp
  rw [hdeclares, isFor_ofField_iff hname, typeOf_eq_iff]
  constructor
  · intro hlast g' hg'
    obtain rfl : g = g' := Option.some.inj (hg.symm.trans hg')
    exact hlast
  · exact fun hkept => hkept g hg

/-- What is declared for a field has the type of its values at its storage path, and that of exact
comparisons at its exact path. -/
theorem Declares.typed {mapping : Json} (h : Declares mapping doctype f) :
    HasType mapping doctype f.storagePath (typeOf f.kind) ∧
      HasType mapping doctype f.exactPath (exactTypeOf f) := by
  obtain ⟨property, hproperty, ⟨rfl, hfull⟩ | ⟨htype, hitself, hsub⟩⟩ := h
  · have hvalues : HasType mapping doctype f.storagePath (typeOf f.kind) :=
      .property hproperty (type_typeOf f.kind)
    unfold Field.exactPath exactTypeOf
    simp only [hfull, Bool.false_eq_true, if_false]
    exact ⟨hvalues, hvalues⟩
  · have hvalues : HasType mapping doctype f.storagePath (typeOf f.kind) :=
      .itself hproperty htype hitself
    refine ⟨hvalues, ?_⟩
    unfold Field.exactPath exactTypeOf
    split
    · next hfull => exact .sub hproperty htype (hsub hfull)
    · exact hvalues

/-- Whether a path is that of a field of a catalog, and a mapping gives it the type of the field. -/
def IsTyped (mapping : Json) (doctype : String) (catalog : Catalog) (path : String) : Prop :=
  ∃ f ∈ catalog.fields,
    path = f.storagePath ∧ HasType mapping doctype path (typeOf f.kind) ∨
      path = f.exactPath ∧ HasType mapping doctype path (exactTypeOf f)

end Mapping

open Mapping

/-- The mapping of a catalog declares just the fields that it keeps, with their types at the paths
that queries have for them. If it keeps all of them, it gives all paths of every query the types of
their fields. -/
theorem Service.declares_mapping (s : Service) (doctype : String) :
    (∀ f ∈ s.catalog.fields,
      (Declares (render s.catalog doctype) doctype f ↔ IsKept s.catalog f) ∧
      (IsKept s.catalog f →
        HasType (render s.catalog doctype) doctype f.storagePath (typeOf f.kind) ∧
          HasType (render s.catalog doctype) doctype f.exactPath (exactTypeOf f))) ∧
    ((∀ f ∈ s.catalog.fields, IsKept s.catalog f) →
      ∀ raw r body, s.prepare raw = .ok (r, body) → ∃ q : Query, body = q.toJson ∧
        q.OnPaths (IsTyped (render s.catalog doctype) doctype s.catalog)) := by
  have htyped : ∀ f ∈ s.catalog.fields, IsKept s.catalog f →
      HasType (render s.catalog doctype) doctype f.storagePath (typeOf f.kind) ∧
        HasType (render s.catalog doctype) doctype f.exactPath (exactTypeOf f) :=
    fun f hf hkept => ((declares_render_iff hf).2 hkept).typed
  refine ⟨fun f hf => ⟨declares_render_iff hf, htyped f hf⟩, ?_⟩
  intro hall raw r body hprepare
  refine onPaths_of_prepare (fun f hf => ?_) hprepare
  obtain ⟨hstorage, hexact⟩ := htyped f hf (hall f hf)
  exact ⟨⟨f, hf, Or.inl ⟨rfl, hstorage⟩⟩, ⟨f, hf, Or.inr ⟨rfl, hexact⟩⟩⟩

/-- The mapping of the built-in catalog keeps all fields. -/
theorem Mapping.isKept_builtin : ∀ f ∈ Catalog.builtin.fields, IsKept Catalog.builtin f := by
  have hlast : ∀ f ∈ Catalog.builtin.fields,
      (f.hasFull = true → f.storageName ≠ Field.fullName) ∧
        Catalog.builtin.lastByStorage f.origin f.storageName = some f := by
    decide +kernel
  intro f hf g hg
  obtain ⟨hnamed, hself⟩ := hlast f hf
  obtain rfl : f = g := Option.some.inj (hself.symm.trans hg)
  exact ⟨Or.inl rfl, fun hfull => hfull, hnamed⟩

/-- The mapping of the built-in catalog declares all fields, and gives a type to all paths of every
query. -/
theorem Service.declares_builtin :
    (∀ f ∈ Catalog.builtin.fields,
      Declares (render Catalog.builtin "crash_reports") "crash_reports" f) ∧
    ∀ raw r body, sampleService.prepare raw = .ok (r, body) → ∃ q : Query, body = q.toJson ∧
      q.OnPaths (IsTyped (render Catalog.builtin "crash_reports") "crash_reports"
        Catalog.builtin) := by
  obtain ⟨hfields, hqueries⟩ := declares_mapping sampleService "crash_reports"
  exact ⟨fun f hf => (hfields f hf).1.2 (isKept_builtin f hf), hqueries isKept_builtin⟩

namespace Mapping

/-- A title with a full version. -/
def titleField : Field := ⟨"title", "title", .processed, .text, true, false, [], none⟩

/-- The words of the title, stored under the same name. -/
def wordsField : Field := ⟨"title_words", "title", .processed, .text, false, false, [], none⟩

/-- A catalog with two fields of one storage name. -/
def titlesCatalog : Catalog where
  version := 1
  fields := [titleField, wordsField]
  faultless := by decide

/-- The only property is that of the words. -/
theorem property_titles {origin : Origin} {name : String} {property : Json}
    (h : propertyOf (render titlesCatalog "crash_reports") "crash_reports" origin name =
      some property) : origin = .processed ∧ name = "title" ∧ property = typeOf .text := by
  rw [propertyOf_render] at h
  obtain ⟨g, hg, rfl⟩ := Option.map_eq_some_iff.1 h
  obtain ⟨hmem, horigin, hname⟩ := stored_of_lastByStorage hg
  have htitle : g.origin = .processed ∧ g.storageName = "title" := by
    rcases List.mem_cons.1 hmem with rfl | hmem
    · exact ⟨rfl, rfl⟩
    · rw [List.mem_singleton.1 hmem]
      exact ⟨rfl, rfl⟩
  rw [horigin, hname] at htitle
  obtain ⟨rfl, rfl⟩ := htitle
  have hwords : titlesCatalog.lastByStorage .processed "title" = some wordsField := by decide
  obtain rfl := Option.some.inj (hwords.symm.trans hg)
  exact ⟨rfl, rfl, rfl⟩

/-- Where a field without a full version comes behind one that has it, the mapping has no full
version, and the path of exact comparisons has no type. -/
theorem not_declares_title : titleField ∈ titlesCatalog.fields ∧
    ¬ Declares (render titlesCatalog "crash_reports") "crash_reports" titleField ∧
    titleField.exactPath = "processed_crash.title.full" ∧
    ∀ type, ¬ HasType (render titlesCatalog "crash_reports") "crash_reports"
      titleField.exactPath type := by
  refine ⟨List.mem_cons_self, ?_, by decide, ?_⟩
  · rintro ⟨property, hproperty, hfor⟩
    obtain ⟨-, -, rfl⟩ := property_titles hproperty
    rcases hfor with ⟨-, hfull⟩ | ⟨htype, -⟩
    · cases hfull
    · exact type_typeOf .text htype
  · intro type h
    generalize hpath : titleField.exactPath = path at h
    cases h with
    | property hproperty _ =>
      obtain ⟨rfl, rfl, -⟩ := property_titles hproperty
      revert hpath
      decide
    | itself hproperty hmulti _ =>
      obtain ⟨-, -, rfl⟩ := property_titles hproperty
      exact type_typeOf .text hmulti
    | sub hproperty hmulti _ =>
      obtain ⟨-, -, rfl⟩ := property_titles hproperty
      exact type_typeOf .text hmulti

end Mapping

end CrashQuery
