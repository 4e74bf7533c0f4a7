import CrashQuery.Http.Message
import CrashQuery.Service

/-!
# The HTTP interface

Searching over HTTP: a table of routes, each with its method, and the answer of each route. Paths
are compared as they are written. `respond` answers a request, and gives the interface and the
world as they are afterwards; a computation that has no result has no response either.
-/

namespace CrashQuery.Http

open Json (Written)

/-- The routes. -/
inductive Route where
  /-- Whether the service is there. -/
  | health
  /-- A search. -/
  | search
  /-- The stored fields that the catalog does not know. -/
  | missingFields
  /-- The mapping that the catalog implies. -/
  | mapping
  /-- The catalog. -/
  | fields
  /-- Reading the catalog anew. -/
  | reload
  deriving DecidableEq

namespace Route

/-- The route of a path. -/
def ofPath? : String → Option Route
  | "/health" | "/health/live" => some .health
  | "/api/search" => some .search
  | "/api/search/missing_fields" => some .missingFields
  | "/api/search/mapping" => some .mapping
  | "/api/search/fields" => some .fields
  | "/api/search/fields/reload" => some .reload
  | _ => none

/-- Whether a route has the method. What can be got can also be asked for without its body. -/
def allows (route : Route) (method : String) : Bool :=
  match route with
  | .health | .search | .missingFields | .fields => method = "GET" || method = "HEAD"
  | .mapping | .reload => method = "POST"

end Route

/-- What answers requests. -/
structure Interface where
  /-- The service. -/
  service : Service
  /-- The milliseconds that a search may take. -/
  patience : Nat := 60000
  /-- The seconds since the start. -/
  uptime : Nat := 0

/-- What an operation gives: a value, a fault to be answered, or no result. -/
inductive Outcome (α : Type) where
  /-- A value. -/
  | value (a : α)
  /-- A fault. -/
  | fault (f : Fault)
  /-- No result. -/
  | abort (a : Abort)

namespace Outcome

/-- The outcome of a search. -/
def ofExcept {α : Type} : Except Failure α → Outcome α
  | .ok a => .value a
  | .error (.error e) => .fault (.ofSearchError e)
  | .error (.abort a) => .abort a

/-- The response with the JSON of a value, or to a fault. -/
def toResponse {α : Type} (json : α → Json) : Outcome α → Except Abort Response
  | .value a => .ok (.ok (json a))
  | .fault f => .ok (.ofFault f)
  | .abort a => .error a

end Outcome

namespace Interface

/-- The number of the program. -/
def version : String := "0.4.0"

/-- The most bytes of a body that is read. -/
def maxBodyBytes : Nat := 2 * 1024 * 1024

/-- That the service is there. -/
def health (i : Interface) : Json :=
  Json.object
    [("status", .str "healthy"), ("version", .str version), ("uptime_seconds", .nat i.uptime),
      ("catalog_version", .nat i.service.catalog.version)]

/-- A catalog as a JSON object. -/
def catalogJson (c : Catalog) : Json :=
  Json.object [("version", .nat c.version), ("fields", .arr (c.fields.map Field.toJson))]

/-- The missing fields and their number. -/
def missingJson (names : List String) : Json :=
  Json.object [("hits", Json.strings names), ("total", .nat names.length)]

/-- The indices that a query pins, if it names any list of them; no answer where it names two. -/
def pinnedIndices? (query : List Char) : Option (Option (List String)) :=
  match (queryPairs query).filter fun p => p.1 = "indices" with
  | [] => some none
  | [(_, list)] => some (some (Request.commaList list))
  | _ => none

/-- Whether a body has nothing but blanks. -/
def isBlankBody (body : String) : Bool :=
  body.toList.all fun c => c = ' ' || c = '\t' || c = '\n' || c = '\r' || c = '\x0c'

/-- The field that a request for a mapping replaces or adds. -/
def overwriteOf? (body : String) : Option (Option Field) := do
  let written ← Written.ofText? body
  match ← written.slots? ["overwrite"] with
  | [slot] => Written.orElse? none (Written.optional? Field.ofWritten?) slot
  | _ => none

/-- The mapping that a request asks for. -/
def mapping (i : Interface) (body : String) : Except Fault Json := do
  let overwrite ←
    if isBlankBody body then pure none
    else
      match overwriteOf? body with
      | some overwrite => pure overwrite
      | none => throw ⟨.badArgument, "invalid mapping request: malformed text"⟩
  -- The names are checked before the catalog looks at the field, with an answer of their own.
  match overwrite with
  | some f => if f.faultyNames ≠ [] then throw ⟨.validation, "overwrite: name length"⟩
  | none => pure ()
  match i.service.mapping overwrite with
  | .ok json => return json
  | .error fault => throw (.ofSearchError (.invalidConfiguration fault))

/-- The catalog of the file that the settings name, read anew. -/
def reload (i : Interface) (files : FileReader) : Except Fault Catalog :=
  match i.service.settings.fieldsPath with
  | none => .ok Catalog.builtin
  | some path =>
    match files path with
    | .error reason => .error ⟨.io, reason⟩
    | .ok text =>
      match Catalog.ofText text with
      | .ok catalog => .ok catalog
      | .error fault => .error (.ofSearchError (.invalidConfiguration fault))

/-- The interface with another catalog. -/
def withCatalog (i : Interface) (catalog : Catalog) : Interface :=
  { i with service := { i.service with catalog } }

/-- The answer of a route. -/
def answer {σ : Type} (i : Interface) (backend : Backend σ) (files : FileReader) (route : Route)
    (r : Request) (w : World σ) : Except Abort Response × Interface × World σ :=
  match route with
  | .health => (.ok (.ok i.health), i, w)
  | .search =>
    let raw := RawRequest.ofPairs (queryPairs r.query)
    let (outcome, w) := i.service.searchWithin backend raw i.patience w
    ((Outcome.ofExcept outcome).toResponse SearchOutcome.toJson, i, w)
  | .missingFields =>
    match pinnedIndices? r.query with
    | none => (.ok (.bare 400), i, w)
    | some pinned =>
      let (names, w) := i.service.missingFields backend pinned w
      ((Outcome.ofExcept names).toResponse missingJson, i, w)
  | .mapping =>
    if maxBodyBytes < r.body.utf8ByteSize then (.ok (.bare 413), i, w)
    else
      match i.mapping r.body with
      | .ok json => (.ok (.ok json), i, w)
      | .error fault => (.ok (.ofFault fault), i, w)
  | .fields => (.ok (.ok (catalogJson i.service.catalog)), i, w)
  | .reload =>
    match i.reload files with
    | .ok catalog => (.ok (.ok (catalogJson catalog)), i.withCatalog catalog, w)
    | .error fault => (.ok (.ofFault fault), i, w)

/-- The response without its body, where only its status is asked for. -/
def bodyFor (method : String) (response : Response) : Response :=
  if method = "HEAD" then { response with body := none } else response

/-- The response to a request. A request for the options of any path is granted. -/
def respond {σ : Type} (i : Interface) (backend : Backend σ) (files : FileReader) (r : Request)
    (w : World σ) : Except Abort Response × Interface × World σ :=
  if r.method = "OPTIONS" then (.ok (.bare 200), i, w)
  else
    match Route.ofPath? r.path with
    | none => (.ok (.bare 404), i, w)
    | some route =>
      if route.allows r.method then
        let (response, i, w) := i.answer backend files route r w
        (response.map (bodyFor r.method), i, w)
      else (.ok (.bare 405), i, w)

end Interface

end CrashQuery.Http
