import CrashQuery.Configuration
import CrashQuery.Http.Interface
import CrashQuery.Text.Blank

/-!
# The command line

The commands of the program, the arguments that spell them, and the requests over HTTP that they
stand for.
-/

namespace CrashQuery

/-- A command. -/
inductive Command where
  /-- A search with the given parameters. -/
  | search (params : List (String × String))
  /-- The stored fields that the catalog does not know. -/
  | missingFields (indices : Option String)
  /-- The mapping that the catalog implies, perhaps with a field replaced or added. -/
  | mapping (field : Option String)
  /-- The catalog. -/
  | fields
  /-- Reading the catalog anew. -/
  | reload
  /-- Whether the service is there. -/
  | health

/-- Why arguments spell no command. -/
inductive UsageFault where
  /-- There is no such command. -/
  | unknownCommand (name : String)
  /-- The command does not take the argument. -/
  | unexpected (argument : String)
  /-- A parameter has no name or no equals sign. -/
  | malformedParam (text : String)
  /-- No command is given. -/
  | noCommand

namespace UsageFault

/-- The fault in words. -/
def message : UsageFault → String
  | .unknownCommand name => "unknown command " ++ Text.quoted name
  | .unexpected argument => "unexpected argument " ++ Text.quoted argument
  | .malformedParam text => "expected KEY=VALUE, got " ++ Text.quoted text
  | .noCommand =>
    "commands: search [-p KEY=VALUE]... [-q], missing-fields [-i LIST], mapping [-f JSON], " ++
      "fields, reload-fields, health"

end UsageFault

namespace Command

/-- A parameter as it is written on the command line. -/
def param? (text : String) : Except UsageFault (String × String) :=
  match Text.splitOnce? '=' text with
  | some (key, value) =>
    let key := Text.trimmed key
    if key.isEmpty then .error (.malformedParam text) else .ok (key, value)
  | none => .error (.malformedParam text)

/-- The parameters of a search. -/
def searchParams? : List String → Except UsageFault (List (String × String))
  | [] => .ok []
  | flag :: rest =>
    if flag = "-q" ∨ flag = "--return-query" then do
      return (← searchParams? rest) ++ [("_return_query", "true")]
    else if flag = "-p" ∨ flag = "--param" then
      match rest with
      | text :: rest => do
        let p ← param? text
        return p :: (← searchParams? rest)
      | [] => .error (.unexpected flag)
    else .error (.unexpected flag)

/-- The value of the only option that a command takes. -/
def option? (short long : String) : List String → Except UsageFault (Option String)
  | [] => .ok none
  | [flag, value] => if flag = short ∨ flag = long then .ok (some value) else .error (.unexpected flag)
  | flag :: _ => .error (.unexpected flag)

/-- A command that takes no arguments. -/
def alone (command : Command) : List String → Except UsageFault Command
  | [] => .ok command
  | argument :: _ => .error (.unexpected argument)

/-- The command that arguments spell. -/
def ofArguments : List String → Except UsageFault Command
  | [] => .error .noCommand
  | "search" :: rest => (searchParams? rest).map search
  | "missing-fields" :: rest => (option? "-i" "--indices" rest).map missingFields
  | "mapping" :: rest => (option? "-f" "--field-json" rest).map mapping
  | "fields" :: rest => alone fields rest
  | "reload-fields" :: rest => alone reload rest
  | "health" :: rest => alone health rest
  | name :: _ => .error (.unknownCommand name)

/-- A request without a body. -/
def get (path : String) (pairs : List (String × String)) : Http.Request :=
  { method := "GET", path, query := Http.queryText pairs, body := "" }

/-- The request that a command stands for. -/
def toRequest : Command → Http.Request
  | .search params => get "/api/search" params
  | .missingFields indices =>
    get "/api/search/missing_fields" (indices.toList.map fun list => ("indices", list))
  | .mapping field =>
    let body := match field with
      | some text => "\x7b\"overwrite\":" ++ text ++ "\x7d"
      | none => ""
    { method := "POST", path := "/api/search/mapping", query := [], body }
  | .fields => get "/api/search/fields" []
  | .reload => { method := "POST", path := "/api/search/fields/reload", query := [], body := "" }
  | .health => get "/health" []

end Command

/-- The variables that set a value of the configuration. -/
def Configuration.variableNames : List String :=
  let names := fun (part : String) (keys : List String) =>
    keys.map fun key => "CRASH_SEARCH__" ++ part ++ "__" ++ key.toUpper
  names "SERVER" listenerKeys ++ names "SEARCH" Settings.keys ++
    names "OBSERVABILITY" loggingKeys

end CrashQuery
