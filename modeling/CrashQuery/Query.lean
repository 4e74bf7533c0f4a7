import CrashQuery.Filter
import CrashQuery.Request.Normal
import CrashQuery.Version.Resolution

/-!
# Compiled queries

A normalized request and the rules for its versions are compiled into a query: filters that all must
accept, wildcard clauses of which one must match, clauses that must not match, counts and sort
order. `Query.toJson` is the body that the backend receives.
-/

namespace CrashQuery

open Text

/-- A pattern that a value is matched with. -/
structure Wildcard where
  /-- The path of the value. -/
  path : String
  /-- The pattern, in which a star stands for any characters. -/
  pattern : String
  deriving DecidableEq

/-- A count of results by the values of a field. -/
structure Facet where
  /-- The name of the count. -/
  name : String
  /-- The path of the values. -/
  path : String
  /-- How many counts are wanted. -/
  size : Nat
  deriving DecidableEq

/-- A path that results are sorted by. -/
structure SortOrder where
  /-- The path. -/
  path : String
  /-- Whether the greatest value comes first. -/
  descending : Bool
  deriving DecidableEq

/-- A request as the backend understands it. -/
structure Query where
  /-- The filters that must accept a report. -/
  filters : List Filter
  /-- The clauses of which one must match, if there are any. -/
  wildcards : List Wildcard
  /-- The clauses that must not match. -/
  excluded : List Wildcard
  /-- The counts. -/
  facets : List Facet
  /-- The sort order. -/
  sort : List SortOrder
  /-- The page of results. -/
  page : Page

namespace Wildcard

/-- The clause as it is sent to the backend. -/
def toJson (w : Wildcard) : Json :=
  .obj [("wildcard", .obj [(w.path, .str w.pattern)])]

/-- The pattern that looks for the text in the way of the operator. -/
def patternOf (operator : Operator) (text : String) : String :=
  match operator with
  | .contains => "*" ++ text ++ "*"
  | .startsWith => text ++ "*"
  | _ => "*" ++ text

end Wildcard

namespace Condition

/-- A value as JSON of the kind of the field; a value that does not fit the kind is a string. -/
def typedValue (kind : Kind) (value : String) : Json :=
  match kind with
  | .integer =>
    match readInt64? value.toList with
    | some i => .int i
    | none => .str value
  | .boolean =>
    if value = "true" then .bool true else if value = "false" then .bool false else .str value
  | _ => .str value

/-- The bound of a range operator. -/
def boundOf : Operator → Bound
  | .greater => .above
  | .atLeast => .atLeast
  | .less => .below
  | _ => .atMost

/-- The test for one of the values at the path. -/
def termFilter (field : Field) (path : String) (values : List String) :
    Except ArgumentFault Filter :=
  match values with
  | [] => .error (.noUsableValue field.publicName)
  | [v] => .ok (.term path (typedValue field.kind v))
  | vs => .ok (.terms path (vs.map (typedValue field.kind)))

/-- The test for all bounds. -/
def rangeFilter (c : Condition) : Except ArgumentFault Filter :=
  if !c.field.kind.isOrdered then .error (.unsupportedOperator c.operator c.name)
  else if c.values.isEmpty then .error (.noUsableValue c.name)
  else
    .ok <| Filter.all <| c.values.map fun v =>
      .range c.field.storagePath (boundOf c.operator) (typedValue c.field.kind v)

/-- The clauses of a wildcard condition. -/
def wildcardClauses (c : Condition) : Except ArgumentFault (List Wildcard) :=
  if !c.field.kind.isTextual then .error (.unsupportedOperator c.operator c.name)
  else if c.values.isEmpty then .error (.noUsableValue c.name)
  else .ok (c.values.map fun v => ⟨c.field.exactPath, Wildcard.patternOf c.operator v⟩)

/-- The test of a condition without wildcards, before it is negated. -/
def plainFilter (c : Condition) : Except ArgumentFault Filter :=
  match c.operator with
  | .any => termFilter c.field c.field.storagePath c.values
  | .equal => termFilter c.field c.field.exactPath c.values
  | .isNull => .ok (.missing c.field.storagePath)
  | _ => rangeFilter c

/-- What a condition contributes to a query. -/
inductive Fragment where
  /-- A filter. -/
  | filter (f : Filter)
  /-- Clauses of which one must match. -/
  | wildcards (clauses : List Wildcard)
  /-- Clauses that must not match. -/
  | excluded (clauses : List Wildcard)

/-- Compiles a condition. -/
def compile (c : Condition) : Except ArgumentFault Fragment :=
  if c.operator.isWildcard then
    c.wildcardClauses.map fun clauses =>
      if c.negated then .excluded clauses else .wildcards clauses
  else c.plainFilter.map fun f => .filter (if c.negated then f.negate else f)

end Condition

namespace VersionRule

/-- The fields that reports of a version are found by. -/
structure Fields where
  /-- The product. -/
  product : Field
  /-- The version. -/
  version : Field
  /-- The channel. -/
  channel : Field
  /-- The build. -/
  build : Field

/-- The fields in a catalog. -/
def Fields.find (catalog : Catalog) : Except ArgumentFault Fields := do
  let field := fun name =>
    match catalog.lookup name with
    | some f => Except.ok f
    | none => .error (ArgumentFault.unknownField name)
  let product ← field "product"
  let version ← field versionField
  let channel ← field "release_channel"
  let build ← field "build_id"
  return { product, version, channel, build }

/-- The tests on the channel. -/
def channelFilters (channel : Field) : Option ChannelRule → List Filter
  | none => []
  | some (.only name) => [.term channel.storagePath (.str name)]
  | some (.exclude names) => [(Filter.terms channel.storagePath (names.map .str)).negate]

/-- The tests on the build. -/
def buildFilters (build : Field) : Option (List String) → List Filter
  | none => []
  | some ids => [.terms build.storagePath (ids.map (Condition.typedValue build.kind))]

/-- The filter for one version. -/
def filter (fields : Fields) (rule : VersionRule) : Filter :=
  .and <|
    [.term fields.product.storagePath (.str rule.product),
      .term fields.version.storagePath (.str rule.version)] ++
    channelFilters fields.channel rule.channel ++ buildFilters fields.build rule.buildIds

end VersionRule

namespace Query

/-- The counts that are asked for. -/
def compileFacets (catalog : Catalog) (maxTerms : Nat) (requested : Option Nat)
    (names : List String) : Except ArgumentFault (List Facet) :=
  names.mapM fun name =>
    match catalog.lookup name with
    | none => .error (.unknownFacet name)
    | some f =>
      if f.isFacetable then
        .ok ⟨f.publicName, f.exactPath, min (requested.getD maxTerms) maxTerms⟩
      else .error (.notFacetable name)

/-- The sort order that is asked for. -/
def compileSort (catalog : Catalog) (keys : List SortKey) :
    Except ArgumentFault (List SortOrder) :=
  keys.mapM fun key =>
    match catalog.lookup key.name with
    | none => .error (.unknownField key.name)
    | some f => .ok ⟨f.exactPath, key.descending⟩

/-- The filters for the versions, of which one must accept; none without versions. -/
def compileVersions (catalog : Catalog) (rules : List VersionRule) :
    Except ArgumentFault (List Filter) :=
  if rules.isEmpty then .ok []
  else (VersionRule.Fields.find catalog).map fun fields =>
    [Filter.any (rules.map (VersionRule.filter fields))]

/-- The filters among the fragments. -/
def filtersOf (fragments : List Condition.Fragment) : List Filter :=
  fragments.filterMap fun
    | .filter f => some f
    | _ => none

/-- The clauses of which one must match. -/
def wildcardsOf (fragments : List Condition.Fragment) : List Wildcard :=
  fragments.flatMap fun
    | .wildcards clauses => clauses
    | _ => []

/-- The clauses that must not match. -/
def excludedOf (fragments : List Condition.Fragment) : List Wildcard :=
  fragments.flatMap fun
    | .excluded clauses => clauses
    | _ => []

/-- Compiles a request; counts are checked first, then the sort order, then the conditions. -/
def compile (catalog : Catalog) (maxTerms : Nat) (request : Request) (rules : List VersionRule) :
    Except ArgumentFault Query := do
  let facets ← compileFacets catalog maxTerms request.facetSize request.facets
  let sort ← compileSort catalog request.sort
  let fragments ← request.conditions.mapM Condition.compile
  let versions ← compileVersions catalog rules
  return {
    filters := filtersOf fragments ++ versions
    wildcards := wildcardsOf fragments
    excluded := excludedOf fragments
    facets, sort
    page := request.page }

/-- The query that matches everything. -/
def matchAll : Json := .obj [("match_all", .obj [])]

/-- The filters as they are sent to the backend. -/
def filterJson (filters : List Filter) : Json :=
  if filters.isEmpty then matchAll else .obj [("and", .arr (Filter.toJsonAll filters))]

/-- The wildcard clauses as they are sent to the backend. -/
def clausesJson (wildcards excluded : List Wildcard) : Json :=
  if wildcards.isEmpty && excluded.isEmpty then matchAll
  else
    let positive : List (String × Json) :=
      if wildcards.isEmpty then [("must", .arr [matchAll])]
      else [("should", .arr (wildcards.map Wildcard.toJson)), ("minimum_should_match", .nat 1)]
    let negative : List (String × Json) :=
      if excluded.isEmpty then [] else [("must_not", .arr (excluded.map Wildcard.toJson))]
    .obj [("bool", Json.object (positive ++ negative))]

/-- A count as it is sent to the backend; it is taken over the filtered reports. -/
def facetJson (filter : Json) (f : Facet) : Json :=
  Json.object
    [("terms", Json.object [("field", .str f.path), ("size", .nat f.size)]),
      ("facet_filter", filter)]

/-- A sort path as it is sent to the backend. -/
def sortJson (s : SortOrder) : Json :=
  .obj [(s.path, .obj [("order", .str (if s.descending then "desc" else "asc"))])]

/-- The body that the backend receives. -/
def toJson (q : Query) : Json :=
  -- The counts repeat the filter of the query.
  let filter := filterJson q.filters
  let clauses := clausesJson q.wildcards q.excluded
  Json.object <|
    [("query", .obj [("filtered", Json.object [("query", clauses), ("filter", filter)])]),
      ("size", .nat q.page.size), ("from", .nat q.page.offset)] ++
    (if q.facets.isEmpty then []
      else [("facets", Json.object (q.facets.map fun f => (f.name, facetJson filter f)))]) ++
    (if q.sort.isEmpty then [] else [("sort", .arr (q.sort.map sortJson))])

end Query

end CrashQuery
