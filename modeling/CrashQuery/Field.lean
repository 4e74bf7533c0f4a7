import CrashQuery.Entries
import CrashQuery.Json.Record

/-!
# Searchable fields

A field has a public name, under which requests use it, and a storage name in one of the two
sections of a stored crash report. Its kind decides which operators it takes, and a field with a
full version has an untokenized sub-field beside it, to which exact comparisons go.
-/

namespace CrashQuery

open Json (Written)

/-- The section of a crash report that a field is stored in. -/
inductive Origin where
  /-- What the crashed program sent. -/
  | raw
  /-- What processing found out. -/
  | processed
  deriving DecidableEq

namespace Origin

/-- The key of the section. -/
def name : Origin → String
  | .raw => "raw_crash"
  | .processed => "processed_crash"

/-- The section with the given key. -/
def ofName? (text : String) : Option Origin :=
  if text = name .raw then some .raw
  else if text = name .processed then some .processed
  else none

/-- A section is found by its key. -/
@[simp]
theorem ofName?_name (o : Origin) : ofName? o.name = some o := by
  cases o <;> decide

end Origin

/-- What the values of a field are. -/
inductive Kind where
  /-- Free text. -/
  | text
  /-- One of few names. -/
  | term
  /-- A whole number. -/
  | integer
  /-- A truth value. -/
  | boolean
  /-- A date. -/
  | date
  /-- A date with the time of day. -/
  | datetime
  deriving DecidableEq

namespace Kind

/-- The word for the kind in field definitions. -/
def name : Kind → String
  | .text => "string"
  | .term => "enum"
  | .integer => "integer"
  | .boolean => "boolean"
  | .date => "date"
  | .datetime => "datetime"

/-- Every kind. -/
def all : List Kind := [.text, .term, .integer, .boolean, .date, .datetime]

/-- The kind with the given name. -/
def ofName? (text : String) : Option Kind := all.find? fun k => k.name == text

/-- Whether the values have an order, so that range operators make sense. -/
def isOrdered : Kind → Bool
  | .integer | .date | .datetime => true
  | _ => false

/-- Whether the values are texts, so that wildcard operators make sense. -/
def isTextual : Kind → Bool
  | .text | .term => true
  | _ => false

/-- Whether the values are dates. -/
def isTemporal : Kind → Bool
  | .date | .datetime => true
  | _ => false

/-- A kind is found by its name. -/
@[simp]
theorem ofName?_name (k : Kind) : ofName? k.name = some k := by
  cases k <;> decide

end Kind

/-- The definition of a searchable field. -/
structure Field where
  /-- The name in requests and in results. -/
  publicName : String
  /-- The name in its section of a stored report. -/
  storageName : String
  /-- The section. -/
  origin : Origin
  /-- What its values are. -/
  kind : Kind
  /-- Whether an untokenized sub-field stands beside it. -/
  hasFull : Bool := false
  /-- Whether results can be counted by its values. -/
  isFacetable : Bool := false
  /-- The permissions needed to see it, sorted. -/
  permissions : List String := []
  /-- What it means. -/
  description : Option String := none
  deriving DecidableEq

namespace Field

/-- The name of the untokenized sub-field. -/
def fullName : String := "full"

/-- The path of the field in a stored report. -/
def storagePath (f : Field) : String := f.origin.name ++ "." ++ f.storageName

/-- The path that exact comparisons go to: the untokenized sub-field where there is one. -/
def exactPath (f : Field) : String :=
  if f.hasFull then f.storagePath ++ "." ++ fullName else f.storagePath

/-- The greatest length of a name. -/
def maxNameLength : Nat := 100

/-- Whether a name has an allowed length. -/
def isName (text : String) : Bool := decide (1 ≤ text.length ∧ text.length ≤ maxNameLength)

/-- The key of the public name in field definitions. -/
def publicNameKey : String := "public_name"

/-- The key of the storage name in field definitions. -/
def storageNameKey : String := "storage_name"

/-- The keys of the names that have no allowed length. -/
def faultyNames (f : Field) : List String :=
  (if isName f.publicName then [] else [publicNameKey]) ++
    if isName f.storageName then [] else [storageNameKey]

/-- Whether both names have an allowed length. -/
def isValid (f : Field) : Bool := isName f.publicName && isName f.storageName

/-- The keys of a field definition, in order. -/
def keys : List String :=
  [publicNameKey, storageNameKey, "namespace", "data_type", "has_full_version", "is_facetable",
    "permissions", "description"]

/-- Reads a field definition. -/
def ofWritten? (w : Written) : Option Field := do
  match ← w.slots? keys with
  | [publicName, storageName, origin, kind, hasFull, isFacetable, permissions, description] =>
    let publicName ← Written.required? Written.string? publicName
    let storageName ← Written.required? Written.string? storageName
    let origin ← Written.required? (Written.choice? Origin.ofName?) origin
    let kind ← Written.required? (Written.choice? Kind.ofName?) kind
    let hasFull ← Written.orElse? false Written.bool? hasFull
    let isFacetable ← Written.orElse? false Written.bool? isFacetable
    let permissions ← Written.orElse? [] (Written.listOf? Written.string?) permissions
    let description ← Written.orElse? none (Written.optional? Written.string?) description
    some
      { publicName, storageName, origin, kind, hasFull, isFacetable, description
        permissions := Entries.sortStrings permissions }
  | _ => none

/-- The definition as a JSON object. -/
def toJson (f : Field) : Json :=
  Json.object
    [(publicNameKey, .str f.publicName), (storageNameKey, .str f.storageName),
      ("namespace", .str f.origin.name), ("data_type", .str f.kind.name),
      ("has_full_version", .bool f.hasFull), ("is_facetable", .bool f.isFacetable),
      ("permissions", Json.strings f.permissions),
      ("description", Json.ofOption Json.str f.description)]

end Field

end CrashQuery
