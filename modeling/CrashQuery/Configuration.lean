import CrashQuery.Configuration.Environment
import CrashQuery.Settings
import CrashQuery.Toml.Document

/-!
# The configuration of the program

Where the program listens, what it logs, and the settings of the search. A configuration is put
together in layers: the defaults, a file, and the variables of the environment, each of which
changes only what it names. What is then missing has its default again.
-/

namespace CrashQuery

/-- Where the program listens. -/
structure Listener where
  /-- The host. -/
  host : String := "0.0.0.0"
  /-- The number of the TCP socket on that host. -/
  socket : Nat := 8080
  /-- The seconds that a request may take. -/
  timeoutSeconds : Nat := 60

/-- What the program logs. -/
structure Logging where
  /-- The least level. -/
  level : String := "info"
  /-- Whether lines are JSON. -/
  asJson : Bool := false
  /-- The name of the program. -/
  service : String := "crash-search"

/-- The configuration of the program. -/
structure Configuration where
  /-- Where it listens. -/
  listener : Listener := {}
  /-- The settings of the search. -/
  settings : Settings := {}
  /-- What it logs. -/
  logging : Logging := {}

namespace Configuration

/-! ## Reading records -/

/-- A field of a record, or its default. -/
def orElse? {α : Type} (default : α) (read : Value → Option α) : Option Value → Option α
  | some v => read v
  | none => some default

/-- The greatest number of a TCP socket. -/
def maxSocket : Nat := 65535

/-- The keys of a listener, in order. -/
def listenerKeys : List String := ["host", "http_port", "request_timeout_secs"]

/-- Reads a listener. -/
def listener? (v : Value) : Option Listener := do
  let d : Listener := {}
  match ← v.slots? listenerKeys with
  | [host, socket, timeoutSeconds] =>
    some {
      host := ← orElse? d.host Value.text? host
      socket := ← orElse? d.socket (Value.natUpTo? maxSocket) socket
      timeoutSeconds := ← orElse? d.timeoutSeconds Value.nat? timeoutSeconds }
  | _ => none

/-- The keys of the logging, in order. -/
def loggingKeys : List String := ["log_level", "json_logs", "service_name"]

/-- Reads the logging. -/
def logging? (v : Value) : Option Logging := do
  let d : Logging := {}
  match ← v.slots? loggingKeys with
  | [level, asJson, service] =>
    some {
      level := ← orElse? d.level Value.text? level
      asJson := ← orElse? d.asJson Value.bool? asJson
      service := ← orElse? d.service Value.text? service }
  | _ => none

/-- Reads the settings of the search. -/
def settings? (v : Value) : Option Settings := do
  let d : Settings := {}
  match ← v.slots? Settings.keys with
  | [backendUrl, indexPattern, doctype, defaultDays, maxDays, maxFacetTerms, maxResults,
      timeoutSeconds, restrictedChannels, required, fieldsPath, versionsPath, cacheSeconds,
      cacheCapacity] =>
    some {
      backendUrl := ← orElse? d.backendUrl Value.text? backendUrl
      indexPattern := ← orElse? d.indexPattern Value.text? indexPattern
      doctype := ← orElse? d.doctype Value.text? doctype
      defaultDays := ← orElse? d.defaultDays Value.int? defaultDays
      maxDays := ← orElse? d.maxDays Value.int? maxDays
      maxFacetTerms := ← orElse? d.maxFacetTerms Value.nat? maxFacetTerms
      maxResults := ← orElse? d.maxResults Value.nat? maxResults
      timeoutSeconds := ← orElse? d.timeoutSeconds Value.nat? timeoutSeconds
      restrictedChannels := ← orElse? d.restrictedChannels Value.texts? restrictedChannels
      required := ← orElse? d.required Value.texts? required
      fieldsPath := ← orElse? d.fieldsPath Value.optional? fieldsPath
      versionsPath := ← orElse? d.versionsPath Value.optional? versionsPath
      cacheSeconds := ← orElse? d.cacheSeconds Value.nat? cacheSeconds
      cacheCapacity := ← orElse? d.cacheCapacity Value.nat? cacheCapacity }
  | _ => none

/-- Reads a configuration. -/
def ofValue? (v : Value) : Option Configuration := do
  match ← v.slots? ["server", "search", "observability"] with
  | [server, search, observability] =>
    some {
      listener := ← orElse? {} listener? server
      settings := ← orElse? {} settings? search
      logging := ← orElse? {} logging? observability }
  | _ => none

/-! ## Writing records -/

/-- A natural number as a value. -/
def natValue (n : Nat) : Value := .int n

/-- Texts as a value. -/
def textsValue (texts : List String) : Value := .list (texts.map .text)

/-- A table with the entries that have a value. -/
def tableOf (entries : List (String × Option Value)) : Value :=
  .table (Entries.ofList (entries.filterMap fun e => e.2.map fun v => (e.1, v)))

/-- The settings of the search as a table. -/
def settingsValue (s : Settings) : Value :=
  tableOf
    [("backend_url", some (.text s.backendUrl)), ("index_pattern", some (.text s.indexPattern)),
      ("doctype", some (.text s.doctype)), ("default_window_days", some (.int s.defaultDays)),
      ("max_window_days", some (.int s.maxDays)),
      ("max_facet_terms", some (natValue s.maxFacetTerms)),
      ("max_results_number", some (natValue s.maxResults)),
      ("request_timeout_secs", some (natValue s.timeoutSeconds)),
      ("restricted_channels", some (textsValue s.restrictedChannels)),
      ("required_params", some (textsValue s.required)),
      ("fields_path", s.fieldsPath.map .text), ("versions_path", s.versionsPath.map .text),
      ("missing_index_cache_ttl_secs", some (natValue s.cacheSeconds)),
      ("missing_index_cache_capacity", some (natValue s.cacheCapacity))]

/-- A configuration as a table. -/
def toValue (c : Configuration) : Value :=
  tableOf
    [("server", some <| tableOf
        [("host", some (.text c.listener.host)), ("http_port", some (natValue c.listener.socket)),
          ("request_timeout_secs", some (natValue c.listener.timeoutSeconds))]),
      ("search", some (settingsValue c.settings)),
      ("observability", some <| tableOf
        [("log_level", some (.text c.logging.level)), ("json_logs", some (.bool c.logging.asJson)),
          ("service_name", some (.text c.logging.service))])]

/-- A configuration as a JSON object. -/
def toJson (c : Configuration) : Json :=
  Json.object
    [("server", Json.object
        [("host", .str c.listener.host), ("http_port", .nat c.listener.socket),
          ("request_timeout_secs", .nat c.listener.timeoutSeconds)]),
      ("search", c.settings.toJson),
      ("observability", Json.object
        [("log_level", .str c.logging.level), ("json_logs", .bool c.logging.asJson),
          ("service_name", .str c.logging.service)])]

/-! ## Layers -/

/-- Why a configuration cannot be loaded. -/
inductive LoadFault where
  /-- The file is no document. -/
  | malformed
  /-- A value does not have the type of its field. -/
  | unfitting
  /-- A path leads to no place. -/
  | abort (a : Abort)

/-- The entries of a file, of which a missing one has none. -/
def fileEntries : Option String → Except LoadFault (Entries Value)
  | none => .ok []
  | some text =>
    match Toml.ofText? text with
    | some entries => .ok entries
    | none => .error .malformed

/-- The table that the layers make: the defaults, a file and the environment. -/
def layered (file environment : Entries Value) : Except Abort Value := do
  -- The defaults are a table too, so that a file can change one entry of a record.
  let root ← ({} : Configuration).toValue.assignAll file
  root.assignAll environment

/-- The configuration of the file, if there is one, and of the variables of the environment. -/
def load (file : Option String) (vars : List (String × String)) :
    Except LoadFault Configuration := do
  let root ← (layered (← fileEntries file) (Environment.entries vars)).mapError .abort
  match ofValue? root with
  | some c => return c
  | none => throw .unfitting

/-- The address that the program listens at. -/
def bindAddress (c : Configuration) : String := c.listener.host ++ ":" ++ toString c.listener.socket

end Configuration

end CrashQuery
