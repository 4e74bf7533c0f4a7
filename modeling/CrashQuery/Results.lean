import CrashQuery.Catalog

/-!
# Search results

A backend response is turned into results: reports are flattened and their stored fields renamed to
public names, and counts are read from either of the two layouts that backends use. What is stored
in the processed section wins over the raw section, and both win over keys outside the sections.
-/

namespace CrashQuery

/-- How often a value occurs. -/
structure Bucket where
  /-- The value. -/
  term : Json
  /-- The number of occurrences. -/
  count : Nat

/-- The results of a search. -/
structure Results where
  /-- How many reports match. -/
  total : Nat
  /-- The reports of the page, by public names. -/
  hits : List (Entries Json)
  /-- The counts by name. -/
  facets : Entries (List Bucket)

namespace Results

/-- The results where there is nothing to search in. -/
def empty : Results := ⟨0, [], []⟩

/-- The section and the field that a dotted key names. -/
def splitDotted? (key : String) : Option (Origin × String) :=
  match Text.splitOnce? '.' key with
  | some (head, name) => (Origin.ofName? head).map fun o => (o, name)
  | none => none

/-- The fields of a section that one key of a stored report holds. -/
def sectionFields (origin : Origin) (key : String) (value : Json) : List (String × Json) :=
  match Origin.ofName? key with
  | some o => if o = origin then (value.fields?).getD [] else []
  | none =>
    match splitDotted? key with
    | some (o, name) => if o = origin then [(name, value)] else []
    | none => []

/-- The fields of a section of a stored report, in key order. -/
def storedIn (origin : Origin) (source : List (String × Json)) : List (String × Json) :=
  source.flatMap fun (key, value) => sectionFields origin key value

/-- Whether a key is outside the sections. -/
def isPlain (key : String) : Bool :=
  (Origin.ofName? key).isNone && (splitDotted? key).isNone

/-- The public name of a stored field, which is its storage name where the catalog has none. -/
def publicName (catalog : Catalog) (origin : Origin) (name : String) : String :=
  match catalog.byStorage origin name with
  | some f => f.publicName
  | none => name

/-- Writes the fields of a section over a report. -/
def writeSection (catalog : Catalog) (origin : Origin) (source : List (String × Json))
    (report : Entries Json) : Entries Json :=
  (storedIn origin source).foldl
    (fun r f => Entries.insert (publicName catalog origin f.1) f.2 r) report

/-- A stored report by public names, with all its fields. -/
def flatten (catalog : Catalog) (source : List (String × Json)) : Entries Json :=
  -- Read from the last line: what is written later wins.
  writeSection catalog .processed source <|
    writeSection catalog .raw source <| Entries.ofList <| source.filter fun f => isPlain f.1

/-- A hit by public names; if columns are given, only those are kept. -/
def ofHit (catalog : Catalog) (columns : List String) (hit : Json) : Entries Json :=
  match (hit.get? "_source").getD hit with
  | .obj source =>
    let report := flatten catalog source
    if columns.isEmpty then report else report.filter fun f => columns.contains f.1
  | _ => []

mutual

/-- The number of hits: a number, or the value in an object; null is none. -/
def totalOf : Json → Except DatabaseFault Nat
  | .null => .ok 0
  | .int (.ofNat n) => .ok n
  | .obj fields => totalOfFields fields
  | other => .error (.invalidTotal other)

/-- The number of hits in the fields of an object. -/
def totalOfFields : List (String × Json) → Except DatabaseFault Nat
  | [] => .ok 0
  | (key, value) :: rest => if key = "value" then totalOf value else totalOfFields rest

end

/-- The counts in a list of objects with the given keys for value and number. -/
def buckets (termKey countKey : String) (items : List Json) : List Bucket :=
  items.map fun item => ⟨item.field termKey, ((item.field countKey).nat?).getD 0⟩

/-- The counts under one name, of which there are none if they are not a list. -/
def bucketsIn (listKey termKey countKey : String) (facet : Json) : List Bucket :=
  buckets termKey countKey (((facet.field listKey).items?).getD [])

/-- The counts of a response; those of the older layout win. -/
def facetsOf (response : Json) : Entries (List Bucket) :=
  let read := fun (key listKey termKey countKey : String) =>
    ((response.field key).fields?.getD []).map fun f =>
      (f.1, bucketsIn listKey termKey countKey f.2)
  Entries.ofList <|
    read "aggregations" "buckets" "key" "doc_count" ++ read "facets" "terms" "term" "count"

/-- The reports among the hits. -/
def hitsOf (catalog : Catalog) (columns : List String) :
    Json → Except DatabaseFault (List (Entries Json))
  | .arr items => .ok (items.map (ofHit catalog columns))
  | .null => .ok []
  | other => .error (.hitsNotList other)

/-- The results in a backend response. -/
def ofResponse (catalog : Catalog) (columns : List String) (response : Json) :
    Except DatabaseFault Results :=
  match response.get? "hits" with
  | some (.obj hits) => do
    let total ← totalOf (Json.field "total" (.obj hits))
    let reports ← hitsOf catalog columns (Json.field "hits" (.obj hits))
    return ⟨total, reports, facetsOf response⟩
  | _ => .error .noHits

/-- A count as a JSON object. -/
def bucketJson (b : Bucket) : Json := Json.object [("term", b.term), ("count", .nat b.count)]

/-- The results as a JSON object. -/
def toJson (r : Results) : Json :=
  Json.object
    [("total", .nat r.total), ("hits", .arr (r.hits.map .obj)),
      ("facets", .obj (r.facets.map fun f => (f.1, .arr (f.2.map bucketJson))))]

end Results

end CrashQuery
