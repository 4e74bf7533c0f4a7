import CrashQuery.Backend.Fault
import CrashQuery.Json.Reader
import CrashQuery.Text.Split

/-!
# Missing indices

A backend reports a missing index by a response with status 404 whose body names the index: older
servers in double brackets within a message, newer ones in a structured error.
-/

namespace CrashQuery.BackendFault

open Text (dropStart?)

/-- The text between the brackets of a report that begins here. -/
def reportHere? (s : List Char) : Option (List Char) :=
  match dropStart? ['[', '['] s with
  | none => none
  | some s =>
    let inside := fun (c : Char) => c != '[' && c != ']'
    let name := s.takeWhile inside
    if name.isEmpty then none
    else (dropStart? "] missing]".toList (s.dropWhile inside)).map fun _ => name

/-- The index that the first report in a text names. -/
def reportIn? : List Char → Option (List Char)
  | [] => none
  | c :: s =>
    match reportHere? (c :: s) with
    | some name => some name
    | none => reportIn? s

/-- The index that a structured error names. -/
def structuredReport? (body : String) : Option String :=
  match Json.ofText? body with
  | none => none
  | some payload =>
    let error := payload.field "error"
    if (error.field "type").string? = some "index_not_found_exception" then
      (error.field "index").string?
    else none

/-- The index that a failure reports as missing, if that is what it does. -/
def missingIndex? : BackendFault → Option String
  | .status code body =>
    if code = 404 then
      match reportIn? body.toList with
      | some name => some (String.ofList name)
      | none => structuredReport? body
    else none
  | _ => none

end CrashQuery.BackendFault
