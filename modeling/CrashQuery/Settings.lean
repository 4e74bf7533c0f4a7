import CrashQuery.Calendar.Pattern
import CrashQuery.Error
import CrashQuery.Json.Record

/-!
# Search settings

The settings of the search, their defaults, and the checks that they must pass.
-/

namespace CrashQuery

open Json (Written)
open Text (minInt64 maxInt64 maxWord64)

/-- The settings of the search. -/
structure Settings where
  /-- Where the backend is reached. -/
  backendUrl : String := "http://localhost:9200"
  /-- The pattern of index names. -/
  indexPattern : String := "socorro_%y%m%d"
  /-- The type of reports in the mapping. -/
  doctype : String := "crash_reports"
  /-- The days of a window without a lower bound. -/
  defaultDays : Int := 7
  /-- The most days of a window. -/
  maxDays : Int := 365
  /-- The most counts under one name. -/
  maxFacetTerms : Nat := 50
  /-- The most results of one request. -/
  maxResults : Nat := 1000
  /-- The seconds that a call to the backend may take. -/
  timeoutSeconds : Nat := 30
  /-- The channels of pre-releases. -/
  restrictedChannels : List String := ["beta", "aurora", "nightly"]
  /-- The fields that every request must have a condition on. -/
  required : List String := []
  /-- The file with the field definitions. -/
  fieldsPath : Option String := none
  /-- The file with the version table. -/
  versionsPath : Option String := none
  /-- The seconds for which missing indices are remembered. -/
  cacheSeconds : Nat := 300
  /-- How many missing indices are remembered. -/
  cacheCapacity : Nat := 1024

namespace Settings

/-- Checks a pattern for index names. -/
def checkPattern (pattern : String) : Except SettingsFault Unit :=
  if pattern.isEmpty then .error .emptyPattern
  else if Calendar.Pattern.isValid pattern then .ok ()
  else .error (.invalidPattern pattern)

/-- The first fault of the settings. -/
def check (s : Settings) : Except SettingsFault Unit := do
  checkPattern s.indexPattern
  if s.defaultDays ≤ 0 then throw (.notPositive "default_window_days")
  if s.maxDays < s.defaultDays then throw .windowTooNarrow
  if s.maxFacetTerms = 0 then throw (.notPositive "max_facet_terms")
  if s.maxResults = 0 then throw (.notPositive "max_results_number")
  if s.timeoutSeconds = 0 then throw (.notPositive "request_timeout_secs")

/-- The milliseconds that a call to the backend may take. -/
def timeout (s : Settings) : Nat := s.timeoutSeconds * 1000

/-- The keys of the settings, in order. -/
def keys : List String :=
  ["backend_url", "index_pattern", "doctype", "default_window_days", "max_window_days",
    "max_facet_terms", "max_results_number", "request_timeout_secs", "restricted_channels",
    "required_params", "fields_path", "versions_path", "missing_index_cache_ttl_secs",
    "missing_index_cache_capacity"]

/-- Reads settings; those that are not given have their defaults. -/
def ofWritten? (w : Written) : Option Settings := do
  let d : Settings := {}
  let int := Written.int? minInt64 maxInt64
  let nat := Written.nat? maxWord64
  let texts := Written.listOf? Written.string?
  let path := Written.optional? Written.string?
  match ← w.slots? keys with
  | [backendUrl, indexPattern, doctype, defaultDays, maxDays, maxFacetTerms, maxResults,
      timeoutSeconds, restrictedChannels, required, fieldsPath, versionsPath, cacheSeconds,
      cacheCapacity] =>
    some {
      backendUrl := ← Written.orElse? d.backendUrl Written.string? backendUrl
      indexPattern := ← Written.orElse? d.indexPattern Written.string? indexPattern
      doctype := ← Written.orElse? d.doctype Written.string? doctype
      defaultDays := ← Written.orElse? d.defaultDays int defaultDays
      maxDays := ← Written.orElse? d.maxDays int maxDays
      maxFacetTerms := ← Written.orElse? d.maxFacetTerms nat maxFacetTerms
      maxResults := ← Written.orElse? d.maxResults nat maxResults
      timeoutSeconds := ← Written.orElse? d.timeoutSeconds nat timeoutSeconds
      restrictedChannels := ← Written.orElse? d.restrictedChannels texts restrictedChannels
      required := ← Written.orElse? d.required texts required
      fieldsPath := ← Written.orElse? d.fieldsPath path fieldsPath
      versionsPath := ← Written.orElse? d.versionsPath path versionsPath
      cacheSeconds := ← Written.orElse? d.cacheSeconds nat cacheSeconds
      cacheCapacity := ← Written.orElse? d.cacheCapacity nat cacheCapacity }
  | _ => none

/-- The settings as a JSON object. -/
def toJson (s : Settings) : Json :=
  Json.object
    [("backend_url", .str s.backendUrl), ("index_pattern", .str s.indexPattern),
      ("doctype", .str s.doctype), ("default_window_days", .int s.defaultDays),
      ("max_window_days", .int s.maxDays), ("max_facet_terms", .nat s.maxFacetTerms),
      ("max_results_number", .nat s.maxResults),
      ("request_timeout_secs", .nat s.timeoutSeconds),
      ("restricted_channels", Json.strings s.restrictedChannels),
      ("required_params", Json.strings s.required),
      ("fields_path", Json.ofOption Json.str s.fieldsPath),
      ("versions_path", Json.ofOption Json.str s.versionsPath),
      ("missing_index_cache_ttl_secs", .nat s.cacheSeconds),
      ("missing_index_cache_capacity", .nat s.cacheCapacity)]

end Settings

end CrashQuery
