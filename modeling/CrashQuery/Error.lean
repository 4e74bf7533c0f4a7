import CrashQuery.Backend.Fault
import CrashQuery.Calendar.Writing
import CrashQuery.Json.Writer
import CrashQuery.Operator
import CrashQuery.Text.Quoted

/-!
# Errors of a search

A search is refused for a cause, of one of six kinds; `SearchError.message` is its text. Apart from
errors there are five ways in which a computation has no result at all, the cases of `Abort`.
-/

namespace CrashQuery

open Text (intText quoted)

/-- Why an argument of a request is refused. -/
inductive ArgumentFault where
  /-- No field has this public name. -/
  | unknownField (name : String)
  /-- No field to count by has this public name. -/
  | unknownFacet (name : String)
  /-- The field is not one to count by. -/
  | notFacetable (name : String)
  /-- More results are asked for than the limit allows. -/
  | tooManyResults (limit : Nat)
  /-- The field does not take the operator. -/
  | unsupportedOperator (operator : Operator) (name : String)
  /-- The field is compared with nothing. -/
  | noUsableValue (name : String)
  /-- The dates from the first to the last day are more than so many days. -/
  | windowTooWide (first last : Int) (days : Int)
  /-- No index is named. -/
  | noIndices

namespace ArgumentFault

/-- The request parameter with the number of results. -/
def resultsNumberKey : String := "_results_number"

/-- The cause in words. -/
def detail : ArgumentFault → String
  | .unknownField name => "Unknown field: " ++ name
  | .unknownFacet name => "Unknown facet field: " ++ name
  | .notFacetable name => "Field is not facetable: " ++ name
  | .tooManyResults limit => resultsNumberKey ++ " cannot exceed " ++ toString limit
  | .unsupportedOperator operator name =>
    "Operator " ++ operator.glyph ++ " is not supported on field " ++ name
  | .noUsableValue name => "No usable value for field " ++ name
  | .windowTooWide first last days =>
    "date range " ++ Calendar.dayText first ++ " to " ++ Calendar.dayText last ++
      " is wider than " ++ intText days ++ " days"
  | .noIndices => "at least one index is required"

end ArgumentFault

/-- What is wrong with what the backend or the version source answered. -/
inductive DatabaseFault where
  /-- A call failed. -/
  | call (fault : BackendFault)
  /-- An index was reported missing that was not asked for. -/
  | unrequestedIndex (name : String)
  /-- The response has no hits. -/
  | noHits
  /-- The hits of the response are not a list. -/
  | hitsNotList (found : Json)
  /-- The response has no readable number of hits. -/
  | invalidTotal (found : Json)
  /-- The version source failed. -/
  | versions (detail : String)

namespace DatabaseFault

/-- The cause in words. -/
def detail : DatabaseFault → String
  | .call fault => fault.message
  | .unrequestedIndex name =>
    "backend reported missing index " ++ name ++ " which was not requested"
  | .noHits => "backend response has no hits section"
  | .hitsNotList found => "hits.hits is not a list: " ++ found.render
  | .invalidTotal found => "invalid hit total " ++ found.render
  | .versions detail => detail

end DatabaseFault

/-- What is wrong with the settings, the field definitions or the version table. -/
inductive SettingsFault where
  /-- The names of a field have no allowed length. -/
  | invalidField (name : String)
  /-- Two fields have one public name. -/
  | duplicateField (name : String)
  /-- The field definitions cannot be read from their text. -/
  | malformedFields
  /-- The field definitions cannot be read from their file. -/
  | unreadableFields (path reason : String)
  /-- The version table cannot be read from its text. -/
  | malformedVersions
  /-- The version table cannot be read from its file. -/
  | unreadableVersions (path reason : String)
  /-- The index pattern is empty. -/
  | emptyPattern
  /-- The index pattern has a percent sign that introduces nothing known. -/
  | invalidPattern (pattern : String)
  /-- The setting must be positive. -/
  | notPositive (setting : String)
  /-- The widest window is narrower than the default one. -/
  | windowTooNarrow

namespace SettingsFault

/-- The cause in words. -/
def detail : SettingsFault → String
  | .invalidField name => "field " ++ quoted name ++ " is invalid: name length"
  | .duplicateField name => "duplicate public field name " ++ quoted name
  | .malformedFields => "invalid field definition set: malformed text"
  | .unreadableFields path reason =>
    "cannot read field definitions from " ++ path ++ ": " ++ reason
  | .malformedVersions => "invalid version info table: malformed text"
  | .unreadableVersions path reason => "cannot read version info from " ++ path ++ ": " ++ reason
  | .emptyPattern => "index_pattern must not be empty"
  | .invalidPattern pattern =>
    "index_pattern " ++ quoted pattern ++ " contains an invalid format specifier"
  | .notPositive setting => setting ++ " must be positive"
  | .windowTooNarrow => "max_window_days must cover default_window_days"

end SettingsFault

/-- Why a search has no result. -/
inductive SearchError where
  /-- A parameter that every request must have is missing. -/
  | missingArgument (name : String)
  /-- A parameter is refused. -/
  | badArgument (fault : ArgumentFault)
  /-- An index that the caller named does not exist. -/
  | indexNotFound (name : String)
  /-- The backend or the version source failed. -/
  | database (fault : DatabaseFault)
  /-- The caller gave up. -/
  | cancelled
  /-- The settings are refused. -/
  | invalidConfiguration (fault : SettingsFault)

/-- The kinds of search errors. -/
inductive ErrorKind where
  /-- A parameter is missing. -/
  | missingArgument
  /-- A parameter is refused. -/
  | badArgument
  /-- Something that the caller named does not exist. -/
  | resourceNotFound
  /-- The backend failed. -/
  | database
  /-- The caller gave up. -/
  | cancelled
  /-- The settings are refused. -/
  | invalidConfiguration
  deriving DecidableEq

namespace SearchError

/-- The kind of an error. -/
def kind : SearchError → ErrorKind
  | .missingArgument _ => .missingArgument
  | .badArgument _ => .badArgument
  | .indexNotFound _ => .resourceNotFound
  | .database _ => .database
  | .cancelled => .cancelled
  | .invalidConfiguration _ => .invalidConfiguration

/-- The cause of an error in words, without its kind. -/
def detail : SearchError → String
  | .missingArgument name => name
  | .badArgument fault => fault.detail
  | .indexNotFound name => "index " ++ name
  | .database fault => fault.detail
  | .cancelled => ""
  | .invalidConfiguration fault => fault.detail

/-- The text of an error: its kind and its cause. -/
def message (e : SearchError) : String :=
  match e.kind with
  | .missingArgument => "Missing argument: " ++ e.detail
  | .badArgument => "Bad argument: " ++ e.detail
  | .resourceNotFound => "Resource not found: " ++ e.detail
  | .database => "Database error: " ++ e.detail
  | .cancelled => "Search cancelled"
  | .invalidConfiguration => "Invalid configuration: " ++ e.detail

end SearchError

/-- Why a computation ends without a result. -/
inductive Abort where
  /-- A number of days is more than a span of time can have. -/
  | spanTooLong (days : Int)
  /-- A date lies outside the calendar. -/
  | outsideCalendar
  /-- A day does not have what the pattern asks for. -/
  | unwritablePattern (pattern : String)
  /-- Missing indices are to be remembered for more seconds than a cache can keep them. -/
  | lifetimeTooLong (seconds : Nat)
  /-- A list has no place at an index, before its first item or after more than it can hold. -/
  | noPlace (index : Int)

/-- An error or an abort. -/
inductive Failure where
  /-- The search is refused or fails. -/
  | error (e : SearchError)
  /-- The computation ends without a result. -/
  | abort (a : Abort)

end CrashQuery
