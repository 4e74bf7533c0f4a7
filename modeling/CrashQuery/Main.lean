import CrashQuery.Backend.Store
import CrashQuery.Command

/-!
# The program

Reads the configuration, the files that it names and the time from the environment, and answers the
command on the command line. The program has no connection to a backend: it searches an empty
store, so that it shows the queries, the catalog and the mapping of a configuration.
-/

namespace CrashQuery.Program

/-- What the reading of a file gives. -/
def readWhole (path : String) : IO (String × Except String String) := do
  try
    return (path, .ok (← IO.FS.readFile path))
  catch e =>
    return (path, .error (toString e))

/-- The values of the variables that are set. -/
def readVariables : IO (List (String × String)) :=
  Configuration.variableNames.filterMapM fun name => do
    return (← IO.getEnv name).map fun value => (name, value)

/-- Says why a service cannot be created or a search has no result. -/
def explain : Failure → String
  | .error e => e.message
  | .abort _ => "The computation has no result"

/-- The configuration of the environment, or the default one. -/
def readConfiguration : IO Configuration := do
  let file ← match ← IO.getEnv "CONFIG_PATH" with
    | some path => do pure (← readWhole path).2.toOption
    | none => pure none
  match Configuration.load file (← readVariables) with
  | .ok c => return c
  | .error (.abort a) => throw (IO.userError (explain (.abort a)))
  | .error _ =>
    IO.eprintln "Failed to load configuration"
    IO.eprintln "Using default configuration"
    return {}

/-- The present, as a variable gives it. -/
def readNow : IO (Option Calendar.Instant) := do
  return Calendar.Instant.ofText? ((← IO.getEnv "CRASH_SEARCH_NOW").getD "1970-01-01")

/-- Answers a command at a time. -/
def run (command : Command) (now : Calendar.Instant) : IO UInt32 := do
  let c ← readConfiguration
  let paths := c.settings.fieldsPath.toList ++ c.settings.versionsPath.toList
  let files ← paths.mapM readWhole
  let reader : FileReader := fun path =>
    match files.find? fun f => f.1 == path with
    | some (_, text) => text
    | none => .error "No such file"
  match Service.create c.settings reader now with
  | .error f =>
    IO.eprintln (explain f)
    return 1
  | .ok (service, cache) =>
    let i : Http.Interface := { service, patience := c.listener.timeoutSeconds * 1000 }
    let world : World Store := { backend := {}, cache }
    match (i.respond Store.backend reader command.toRequest world).1 with
    | .error a =>
      IO.eprintln (explain (.abort a))
      return 1
    | .ok response =>
      IO.println ((response.body.getD .null).render)
      if response.status = 200 then return 0
      IO.eprintln ("request failed with HTTP " ++ toString response.status)
      return 1

end CrashQuery.Program

open CrashQuery Program in
/-- Answers the command on the command line. -/
def main (arguments : List String) : IO UInt32 := do
  match Command.ofArguments arguments, ← readNow with
  | .ok command, some now => run command now
  | .ok _, none =>
    IO.eprintln "CRASH_SEARCH_NOW is no time"
    return 2
  | .error fault, _ =>
    IO.eprintln fault.message
    return 2
