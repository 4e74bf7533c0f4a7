import CrashQuery.Catalog.Positions
import CrashQuery.Json.Reader

/-!
# Field catalogs

A catalog is a list of valid field definitions with distinct public names, and the positions that
these have in it by their names. `Catalog.ofFields` checks a list and names the first fault it
meets, `Catalog.lookup` finds a field by its public name, and `Catalog.byStorage` the first one with
a storage name; both go by the positions. `lookup_eq_find?` and `byStorage_eq_find?` say that they
find what a search through the list finds.
-/

namespace CrashQuery

open Json (Written)

/-- The searchable fields. -/
structure Catalog where
  /-- The version of the definitions. -/
  version : Nat
  /-- The definitions in order. -/
  fields : List Field
  /-- Where the definitions stand. -/
  positions : Positions := (Positions.noteAll {} 0 fields).toOption.getD {}
  /-- The names have allowed lengths, the public ones are distinct, and the positions are theirs. -/
  faultless : (Positions.noteAll {} 0 fields).toOption = some positions

namespace Catalog

/-- The catalog of the fields, or the first fault in them. -/
def ofFields (version : Nat) (fields : List Field) : Except SettingsFault Catalog :=
  match h : Positions.noteAll {} 0 fields with
  | .ok positions => .ok { version, fields, positions, faultless := by rw [h]; rfl }
  | .error fault => .error fault

/-- The field with the public name. -/
def lookup (c : Catalog) (name : String) : Option Field :=
  (c.positions.byName.lookup name).bind fun i => c.fields[i]?

/-- Whether a field has the public name. -/
def isKnown (c : Catalog) (name : String) : Bool := (c.positions.byName.lookup name).isSome

/-- The first field with the storage name in the section. -/
def byStorage (c : Catalog) (origin : Origin) (name : String) : Option Field :=
  (c.positions.byPlace.lookup (origin, name)).bind fun i => c.fields[i]?

/-- The fields to count by, in order. -/
def facetable (c : Catalog) : List Field := c.fields.filter Field.isFacetable

/-- The storage paths of all fields, sorted. -/
def storagePaths (c : Catalog) : List String :=
  Entries.sortStrings (c.fields.map Field.storagePath)

/-- The list with the field in the place of the one with its public name, or at the end. -/
def replaceIn (f : Field) : List Field → List Field
  | [] => [f]
  | g :: rest => if g.publicName = f.publicName then f :: rest else g :: replaceIn f rest

/-- The catalog with one field replaced or added. -/
def withOverride (c : Catalog) (f : Field) : Except SettingsFault Catalog :=
  ofFields c.version (replaceIn f c.fields)

/-- The greatest version number. -/
def maxVersion : Nat := 4294967295

/-- Reads the version and the fields of a definition set. -/
def ofWritten? (w : Written) : Option (Nat × List Field) := do
  match ← w.slots? ["version", "fields"] with
  | [version, fields] =>
    let version ← Written.required? (Written.nat? maxVersion) version
    let fields ← Written.required? (Written.listOf? Field.ofWritten?) fields
    some (version, fields)
  | _ => none

/-- The catalog that a text defines. -/
def ofText (text : String) : Except SettingsFault Catalog :=
  match (Written.ofText? text).bind ofWritten? with
  | some (version, fields) => ofFields version fields
  | none => .error .malformedFields

/-- The positions of a catalog are noted of its fields. -/
theorem noteAll_fields (c : Catalog) : Positions.noteAll {} 0 c.fields = .ok c.positions := by
  have hnoted := c.faultless
  cases h : Positions.noteAll {} 0 c.fields with
  | error fault => simp [h, Except.toOption] at hnoted
  | ok positions =>
    rw [h] at hnoted
    rw [Option.some.inj hnoted]

/-- The names in a catalog have the positions of the first fields that bear them. -/
theorem indexes_positions (c : Catalog) : c.positions.Indexes c.fields :=
  Positions.indexes_nil.noteAll c.noteAll_fields

/-- A field is looked up by its public name as if the list were searched. -/
theorem lookup_eq_find? (c : Catalog) (name : String) :
    c.lookup name = c.fields.find? fun f => f.publicName == name := by
  rw [lookup, c.indexes_positions.byName, List.find?_eq_bind_findIdx?_getElem?]

/-- A field is looked up by its place as if the list were searched. -/
theorem byStorage_eq_find? (c : Catalog) (origin : Origin) (name : String) :
    c.byStorage origin name = c.fields.find? fun f => f.place == (origin, name) := by
  rw [byStorage, c.indexes_positions.byPlace, List.find?_eq_bind_findIdx?_getElem?]

/-- A public name is known exactly when it is that of a field. -/
theorem isKnown_eq_isSome_lookup (c : Catalog) (name : String) :
    c.isKnown name = (c.lookup name).isSome := by
  rw [lookup_eq_find?, isKnown, c.indexes_positions.byName, List.findIdx?_isSome,
    List.isSome_find?]

/-- The fields of a catalog are valid. -/
theorem isValid_of_mem (c : Catalog) {f : Field} (hf : f ∈ c.fields) : f.isValid = true :=
  (Positions.exists_noteAll_iff.1 ⟨c.positions, c.noteAll_fields⟩).1 f hf

/-- The public names in a catalog are distinct. -/
theorem nodup_publicName (c : Catalog) : (c.fields.map Field.publicName).Nodup :=
  (Positions.exists_noteAll_iff.1 ⟨c.positions, c.noteAll_fields⟩).2.1

/-- The field that is found by a public name is the one that bears it. -/
theorem lookup_eq_some_iff {c : Catalog} {name : String} {f : Field} :
    c.lookup name = some f ↔ f ∈ c.fields ∧ f.publicName = name := by
  rw [lookup_eq_find?]
  constructor
  · intro h
    have hname := List.find?_some h
    exact ⟨List.mem_of_find?_eq_some h, beq_iff_eq.1 hname⟩
  · rintro ⟨hmem, rfl⟩
    -- Public names are distinct, so no field in front has this one.
    obtain ⟨before, after, hfields⟩ := List.append_of_mem hmem
    have hnodup := c.nodup_publicName
    rw [hfields, List.map_append, List.map_cons, List.nodup_append] at hnodup
    obtain ⟨-, -, hothers⟩ := hnodup
    refine List.find?_eq_some_iff_append.2 ⟨beq_self_eq_true _, before, after, hfields, ?_⟩
    intro g hg
    have hne := hothers _ (List.mem_map_of_mem hg) _ List.mem_cons_self
    simpa using hne

end Catalog

end CrashQuery
