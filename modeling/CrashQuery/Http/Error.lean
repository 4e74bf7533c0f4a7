import CrashQuery.Error

/-!
# Errors of the HTTP interface

What a request over HTTP can fail of, with the status and the code that it is answered with.
-/

namespace CrashQuery.Http

/-- The kinds of errors. -/
inductive FaultKind where
  /-- A parameter is missing. -/
  | missingArgument
  /-- A parameter or a body is refused. -/
  | badArgument
  /-- Something that the caller named does not exist. -/
  | notFound
  /-- The search backend failed. -/
  | database
  /-- The contents of a body are refused. -/
  | validation
  /-- The settings are refused. -/
  | configuration
  /-- A file cannot be read. -/
  | io
  /-- A text is no JSON. -/
  | serialization
  /-- The time for the request is over. -/
  | cancelled
  /-- Something else went wrong. -/
  | internal
  deriving DecidableEq

namespace FaultKind

/-- The status of the response. -/
def status : FaultKind → Nat
  | .missingArgument | .badArgument | .validation => 400
  | .notFound => 404
  | .cancelled => 408
  | .database => 502
  | .configuration | .io | .serialization | .internal => 500

/-- The code in the response. -/
def code : FaultKind → String
  | .missingArgument => "MISSING_ARGUMENT"
  | .badArgument => "BAD_ARGUMENT"
  | .validation => "VALIDATION_ERROR"
  | .notFound => "NOT_FOUND"
  | .cancelled => "CANCELLED"
  | .database => "DATABASE_ERROR"
  | .configuration => "CONFIGURATION_ERROR"
  | .io => "IO_ERROR"
  | .serialization => "SERIALIZATION_ERROR"
  | .internal => "INTERNAL_ERROR"

/-- The text of an error of the kind with the given cause. -/
def message (kind : FaultKind) (detail : String) : String :=
  match kind with
  | .missingArgument => "Missing argument: " ++ detail
  | .badArgument => "Bad argument: " ++ detail
  | .validation => "Validation error: " ++ detail
  | .notFound => "Not found: " ++ detail
  | .cancelled => "Request cancelled"
  | .database => "Database error: " ++ detail
  | .configuration => "Configuration error: " ++ detail
  | .io => "IO error: " ++ detail
  | .serialization => "Serialization error: " ++ detail
  | .internal => "Internal error: " ++ detail

/-- Whether the caller is at fault. -/
def isClient (kind : FaultKind) : Bool := decide (400 ≤ kind.status ∧ kind.status < 500)

/-- The kind that a search error is answered as. -/
def ofErrorKind : ErrorKind → FaultKind
  | .missingArgument => .missingArgument
  | .badArgument => .badArgument
  | .resourceNotFound => .notFound
  | .database => .database
  | .cancelled => .cancelled
  | .invalidConfiguration => .configuration

end FaultKind

/-- An error of the HTTP interface. -/
structure Fault where
  /-- Its kind. -/
  kind : FaultKind
  /-- Its cause in words. -/
  detail : String

namespace Fault

/-- The text of the error. -/
def message (f : Fault) : String := f.kind.message f.detail

/-- A search error as it is answered. -/
def ofSearchError (e : SearchError) : Fault := ⟨.ofErrorKind e.kind, e.detail⟩

/-- A text that is no JSON. -/
def malformedJson : Fault := ⟨.serialization, "malformed text"⟩

/-- The body of the response. -/
def toJson (f : Fault) : Json :=
  .obj [("error", Json.object
    [("code", .str f.kind.code), ("message", .str f.message), ("status", .nat f.kind.status)])]

end Fault

end CrashQuery.Http
