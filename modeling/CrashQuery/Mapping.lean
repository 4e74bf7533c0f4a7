import CrashQuery.Catalog

/-!
# Index mappings

A mapping tells the backend the type of every field. `Mapping.render` gives the mapping that a
catalog implies, `Mapping.paths` lists the paths that mappings declare, and `Mapping.missingFields`
those of them that a catalog does not know.
-/

namespace CrashQuery.Mapping

/-- The type of values of a kind. -/
def typeOf : Kind → Json
  | .text | .term => .obj [("type", .str "string")]
  | .integer => .obj [("type", .str "long")]
  | .boolean => .obj [("type", .str "boolean")]
  | .date => Json.object [("type", .str "date"), ("format", .str "yyyy-MM-dd")]
  | .datetime => Json.object [("type", .str "date"), ("format", .str "dateOptionalTime")]

/-- The type of the untokenized sub-field. -/
def fullType : Json := Json.object [("type", .str "string"), ("index", .str "not_analyzed")]

/-- The mapping of a field. -/
def ofField (f : Field) : Json :=
  if f.hasFull then
    Json.object
      [("type", .str "multi_field"),
        ("fields", Json.object [(f.storageName, typeOf f.kind), (Field.fullName, fullType)])]
  else typeOf f.kind

/-- The mapping of a section of stored reports. -/
def ofOrigin (catalog : Catalog) (origin : Origin) : Json :=
  let fields := catalog.fields.filter fun f => f.origin == origin
  Json.object
    [("type", .str "object"), ("dynamic", .bool true),
      ("properties", Json.object (fields.map fun f => (f.storageName, ofField f)))]

/-- The mapping of reports of the given type. -/
def render (catalog : Catalog) (doctype : String) : Json :=
  let sections := [Origin.processed, Origin.raw].map fun o => (o.name, ofOrigin catalog o)
  .obj [(doctype, Json.object
    [("_all", .obj [("enabled", .bool false)]), ("properties", Json.object sections)])]

/-- A path with one more step. -/
def extend (path : Option String) (name : String) : String :=
  match path with
  | some p => p ++ "." ++ name
  | none => name

mutual

/-- The paths at a property: those of its own properties, or its path if it has none. -/
def pathsOf (path : String) : Json → List String
  | .obj fields => pathsBelow path fields
  | _ => [path]

/-- The paths at a property with the given fields. -/
def pathsBelow (path : String) : List (String × Json) → List String
  | [] => [path]
  | (key, value) :: rest =>
    if key = "properties" then pathsInside path value else pathsBelow path rest

/-- The paths of the properties of a property, or its path if it has none. -/
def pathsInside (path : String) : Json → List String
  | .obj properties => pathsOfAll (some path) properties
  | _ => [path]

/-- The paths of all properties. -/
def pathsOfAll (path : Option String) : List (String × Json) → List String
  | [] => []
  | (name, spec) :: rest => pathsOf (extend path name) spec ++ pathsOfAll path rest

end

/-- The paths that the mapping of one type of reports declares. -/
def pathsOfType (type : Json) : List String :=
  match type.field "properties" with
  | .obj properties => pathsOfAll none properties
  | _ => []

/-- The types of an index, with or without a key above them. -/
def typesOf (index : Json) : Json := (index.get? "mappings").getD index

/-- The paths that the mapping of an index declares. -/
def pathsOfIndex (index : Json) : List String :=
  match typesOf index with
  | .obj types => types.flatMap fun t => pathsOfType t.2
  | _ => []

/-- The paths that the mappings of all indices declare, sorted. -/
def paths (response : Json) : List String :=
  match response with
  | .obj indices => Entries.sortStrings (indices.flatMap fun i => pathsOfIndex i.2)
  | _ => []

/-- The paths that are declared but not known to the catalog, sorted. -/
def missingFields (catalog : Catalog) (response : Json) : List String :=
  let known := catalog.storagePaths
  (paths response).filter fun p => !known.contains p

end CrashQuery.Mapping
