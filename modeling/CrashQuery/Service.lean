import CrashQuery.Catalog.Builtin
import CrashQuery.Index
import CrashQuery.Mapping
import CrashQuery.Query
import CrashQuery.Results
import CrashQuery.Run
import CrashQuery.Settings

/-!
# The search service

A search normalizes a request, resolves its versions, compiles it, runs the query over the indices
of its window or over given ones, and formats the response. Nothing is asked of the backend before
the request has been compiled.
-/

namespace CrashQuery

open Calendar (Instant)

/-- Reads a file, or says why it cannot be read. -/
abbrev FileReader := String → Except String String

/-- What a service searches with. The clock is read once for a search, so that all of it has the
same present. -/
structure Service where
  /-- The settings. -/
  settings : Settings
  /-- The searchable fields. -/
  catalog : Catalog
  /-- What is known about versions. -/
  versions : VersionSource
  /-- What the clock shows. -/
  now : Instant

/-- What a search gives. -/
inductive SearchOutcome where
  /-- Its results. -/
  | results (r : Results)
  /-- The compiled query and the indices that it would be asked of. -/
  | query (indices : List String) (body : Json)

namespace SearchOutcome

/-- The outcome as a JSON object. -/
def toJson : SearchOutcome → Json
  | .results r => r.toJson
  | .query indices body =>
    Json.object [("indices", Json.strings indices), ("query", body)]

/-- The results, if there are any. -/
def results? : SearchOutcome → Option Results
  | .results r => some r
  | .query _ _ => none

end SearchOutcome

namespace Service

/-- The catalog that the settings name. -/
def loadCatalog (settings : Settings) (files : FileReader) : Except SettingsFault Catalog :=
  match settings.fieldsPath with
  | none => .ok Catalog.builtin
  | some path =>
    match files path with
    | .ok text => Catalog.ofText text
    | .error reason => .error (.unreadableFields path reason)

/-- The version table that the settings name. -/
def loadVersions (settings : Settings) (files : FileReader) : Except SettingsFault VersionTable :=
  match settings.versionsPath with
  | none => .ok VersionTable.empty
  | some path =>
    match files path with
    | .ok text => VersionTable.ofText text
    | .error reason => .error (.unreadableVersions path reason)

/-- The most seconds for which a cache keeps its names: a thousand years of 365 days. -/
def maxCacheSeconds : Nat := 1000 * 365 * 86400

/-- The cache that a service starts with: an empty one with the bounds of the settings, unless
nothing is to be remembered. -/
def freshCache (settings : Settings) (evicts : Eviction) : Except Failure (Option MissingCache) :=
  if settings.cacheSeconds = 0 then .ok none
  else if maxCacheSeconds < settings.cacheSeconds then
    .error (.abort (.lifetimeTooLong settings.cacheSeconds))
  else .ok (some (.bounded settings.cacheCapacity settings.cacheSeconds evicts))

/-- Settings that are refused, as a failure. -/
def orRefuse {α : Type} : Except SettingsFault α → Except Failure α
  | .ok a => .ok a
  | .error fault => .error (.error (.invalidConfiguration fault))

/-- The service of the settings, with the cache that it starts with. Which names a full cache gives
up is not for the settings to say. -/
def create (settings : Settings) (files : FileReader) (now : Instant)
    (evicts : Eviction := fun _ _ => none) : Except Failure (Service × Option MissingCache) := do
  orRefuse settings.check
  let catalog ← orRefuse (loadCatalog settings files)
  let versions ← orRefuse (loadVersions settings files)
  let cache ← freshCache settings evicts
  return ({ settings, catalog, versions := .table versions, now }, cache)

/-- What the settings fix for all requests. -/
def options (s : Service) : RequestOptions where
  now := s.now
  defaultDays := s.settings.defaultDays
  maxDays := s.settings.maxDays
  maxResults := s.settings.maxResults
  required := s.settings.required

/-- Takes the versions out of a request and resolves them. -/
def resolveVersions (s : Service) (request : Request) :
    Except Failure (Request × List VersionRule) := do
  let keys := VersionRule.keysOf request.conditions
  let request := { request with conditions := VersionRule.remaining request.conditions }
  if keys.isEmpty then return (request, [])
  let known ← s.versions.findAll keys
  return (request, VersionRule.resolveAll s.settings.restrictedChannels known keys)

/-- An argument that is refused, as a failure. -/
def refuse {α : Type} : Except ArgumentFault α → Except Failure α
  | .ok a => .ok a
  | .error fault => .error (.error (.badArgument fault))

/-- The request that raw parameters stand for, and the body of its query. -/
def prepare (s : Service) (raw : RawRequest) : Except Failure (Request × Json) := do
  let request ← Request.ofRaw s.catalog s.options raw
  let (request, rules) ← s.resolveVersions request
  let query ← refuse (Query.compile s.catalog s.settings.maxFacetTerms request rules)
  return (request, query.toJson)

/-- The indices of a request: those that are given, or those of its window. -/
def indicesOf (s : Service) (request : Request) (pinned : Option (List String)) :
    Except Failure (List String) :=
  match pinned with
  | some indices => .ok indices
  | none => Index.covering s.settings.indexPattern request.window.first request.window.last

/-- Missing indices are left out unless the caller has named the indices. -/
def policyFor (pinned : Option (List String)) : MissingPolicy :=
  if pinned.isSome then .fail else .heal

/-- The results of an execution. -/
def resultsOf (s : Service) (request : Request) :
    Except SearchError Execution → Except Failure SearchOutcome
  | .error e => .error (.error e)
  | .ok .empty => .ok (.results .empty)
  | .ok (.success response _) =>
    match Results.ofResponse s.catalog request.columns response with
    | .ok results => .ok (.results results)
    | .error fault => .error (.error (.database fault))

/-- A prepared search: its request, its body and its indices. -/
def plan (s : Service) (raw : RawRequest) (pinned : Option (List String)) :
    Except Failure (Request × Json × List String) := do
  let (request, body) ← s.prepare raw
  let indices ← s.indicesOf request pinned
  return (request, body, indices)

/-- A search of the given indices or of those of the window, for a caller who gives up after
`patience` milliseconds. -/
def run {σ : Type} (s : Service) (backend : Backend σ) (raw : RawRequest)
    (pinned : Option (List String)) (patience : Option Nat) (w : World σ) :
    Except Failure SearchOutcome × World σ :=
  match s.plan raw pinned with
  | .error failure => (.error failure, w)
  | .ok (request, body, indices) =>
    if request.wantsQuery then (.ok (.query indices body), w)
    else
      let (result, w) :=
        Run.execute backend s.settings.timeout (policyFor pinned) (.search body) patience indices w
      (s.resultsOf request result, w)

/-- A search of the indices of the window. -/
def search {σ : Type} (s : Service) (backend : Backend σ) (raw : RawRequest) (w : World σ) :
    Except Failure SearchOutcome × World σ :=
  s.run backend raw none none w

/-- A search of exactly the given indices. -/
def searchIn {σ : Type} (s : Service) (backend : Backend σ) (raw : RawRequest)
    (indices : List String) (w : World σ) : Except Failure SearchOutcome × World σ :=
  if indices.isEmpty then (.error (.error (.badArgument .noIndices)), w)
  else s.run backend raw (some indices) none w

/-- A search for a caller who gives up after `patience` milliseconds. -/
def searchWithin {σ : Type} (s : Service) (backend : Backend σ) (raw : RawRequest)
    (patience : Nat) (w : World σ) : Except Failure SearchOutcome × World σ :=
  -- Who has no patience at all is not even told of a faulty request.
  if patience = 0 then (.error (.error .cancelled), w) else s.run backend raw none (some patience) w

/-- The stored fields that the mappings of the indices declare and the catalog does not know; the
most recent indices are looked at if none are given. -/
def missingFields {σ : Type} (s : Service) (backend : Backend σ)
    (pinned : Option (List String)) (w : World σ) : Except Failure (List String) × World σ :=
  let indices : Except Failure (List String) :=
    match pinned with
    | some indices => .ok indices
    | none => Index.recent s.settings.indexPattern s.now s.settings.defaultDays
  match indices with
  | .error failure => (.error failure, w)
  | .ok indices =>
    let (result, w) :=
      Run.execute backend s.settings.timeout (policyFor pinned) .mapping none indices w
    match result with
    | .error e => (.error (.error e), w)
    | .ok .empty => (.ok [], w)
    | .ok (.success response _) => (.ok (Mapping.missingFields s.catalog response), w)

/-- The mapping that the catalog implies, perhaps with one field replaced or added. -/
def mapping (s : Service) (overwrite : Option Field) : Except SettingsFault Json :=
  match overwrite with
  | none => .ok (Mapping.render s.catalog s.settings.doctype)
  | some f => (s.catalog.withOverride f).map fun c => Mapping.render c s.settings.doctype

end Service

end CrashQuery
