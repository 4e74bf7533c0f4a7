import CrashQuery.Request.Window

/-!
# Normalized requests

A raw request is normalized against a catalog: parameters that begin with an underscore steer
paging, counting, sorting and output, and every other parameter names a field and gives conditions
on it. `Request.ofRaw` fails for the first faulty parameter in the order of the keys, then for the
first required field without a condition, then for a window that is too wide.
-/

namespace CrashQuery

open Calendar (Instant)

/-- A page of results. -/
structure Page where
  /-- How many results come before it. -/
  offset : Nat := 0
  /-- How many results it has. -/
  size : Nat := 100
  deriving DecidableEq

/-- A field that results are sorted by. -/
structure SortKey where
  /-- The public name. -/
  name : String
  /-- Whether the greatest value comes first. -/
  descending : Bool
  deriving DecidableEq

/-- A request whose parameters have been given a meaning. -/
structure Request where
  /-- The conditions on fields. -/
  conditions : List Condition
  /-- The time that it is about. -/
  window : Window
  /-- The page of results. -/
  page : Page
  /-- The names of the fields to count by. -/
  facets : List String
  /-- How many counts are wanted for each of them. -/
  facetSize : Option Nat
  /-- Whether the compiled query is wanted and not its results. -/
  wantsQuery : Bool
  /-- The fields to sort by. -/
  sort : List SortKey
  /-- The fields to keep in results; all if there are none. -/
  columns : List String

namespace Request

/-- The parameter with the number of results to pass over. -/
def offsetKey : String := "_results_offset"

/-- The parameter with the number of results. -/
def sizeKey : String := ArgumentFault.resultsNumberKey

/-- The parameter with the fields to count by. -/
def facetsKey : String := "_facets"

/-- The parameter with the number of counts. -/
def facetSizeKey : String := "_facets_size"

/-- The parameter that asks for the compiled query. -/
def wantsQueryKey : String := "_return_query"

/-- The parameter with the fields to sort by. -/
def sortKey : String := "_sort"

/-- The parameter with the fields to keep. -/
def columnsKey : String := "_columns"

/-- Whether a parameter steers the request and names no field. -/
def isMeta (key : String) : Bool := key.toList.head? == some '_'

/-- The public name that a parameter stands for; some have other spellings. -/
def resolveAlias (key : String) : String :=
  match key with
  | "products" => "product"
  | "versions" => "version"
  | "platforms" => "platform"
  | "build" => "build_id"
  | "channel" => "release_channel"
  | "release_channels" => "release_channel"
  | "os" => "platform"
  | _ => key

/-- What is wrong with a parameter. -/
def keyFault? (catalog : Catalog) (maxResults : Nat) (key : String) (values : List String) :
    Option ArgumentFault :=
  if key = sizeKey then
    match lastNumber? values with
    | some size => if maxResults < size then some (.tooManyResults maxResults) else none
    | none => none
  else if isMeta key then none
  else if catalog.isKnown (resolveAlias key) then none
  else some (.unknownField key)

/-- The fields and raw values that the parameters stand for, in order. -/
def fieldValues (catalog : Catalog) (raw : RawRequest) : List (Field × String) :=
  raw.flatMap fun (key, values) =>
    if isMeta key then []
    else
      match catalog.lookup (resolveAlias key) with
      | some field => values.map fun v => (field, v)
      | none => []

/-- The conditions that the parameters give. -/
def conditionsOf (catalog : Catalog) (now : Instant) (raw : RawRequest) : List Condition :=
  (fieldValues catalog raw).foldl (fun conditions p => Condition.addRaw now conditions p.1 p.2) []

/-- The page that the parameters ask for. -/
def pageOf (raw : RawRequest) : Page :=
  let usual : Page := {}
  ⟨(lastNumber? (raw.valuesOf offsetKey)).getD usual.offset,
    (lastNumber? (raw.valuesOf sizeKey)).getD usual.size⟩

/-- The sort key that a part of the parameter stands for; a hyphen reverses the order. -/
def sortKeyOf (part : String) : SortKey :=
  match part.toList with
  | '-' :: name => ⟨String.ofList name, true⟩
  | _ => ⟨part, false⟩

/-- The parts of all values of a parameter. -/
def listOf (raw : RawRequest) (key : String) : List String :=
  (raw.valuesOf key).flatMap commaList

/-- The first required field without a condition. -/
def missingField? (required : List String) (conditions : List Condition) : Option String :=
  (required.map resolveAlias).find? fun name => !conditions.any fun c => c.name == name

/-- The meaning of a raw request. -/
def ofRaw (catalog : Catalog) (options : RequestOptions) (raw : RawRequest) :
    Except Failure Request := do
  if let some fault := raw.findSome? fun (key, values) =>
      keyFault? catalog options.maxResults key values then
    throw (.error (.badArgument fault))
  -- Dropped operands are no conditions, so that a required field can be missing all the same.
  let conditions := conditionsOf catalog options.now raw
  if let some name := missingField? options.required conditions then
    throw (.error (.missingArgument name))
  let (window, conditions) ← Window.complete catalog options conditions
  return {
    conditions, window
    page := pageOf raw
    facets := listOf raw facetsKey
    facetSize := lastNumber? (raw.valuesOf facetSizeKey)
    wantsQuery := lastBool (raw.valuesOf wantsQueryKey)
    sort := (listOf raw sortKey).map sortKeyOf
    columns := listOf raw columnsKey }

/-- The conditions on the field with the public name. -/
def conditionsOn (r : Request) (name : String) : List Condition :=
  r.conditions.filter fun c => c.name == name

end Request

end CrashQuery
