import CrashQuery.Configuration.Path
import CrashQuery.Text.Split

/-!
# Configuration from the environment

A variable whose name begins with the mark of the program sets the value at the path that the rest
of its name spells, with points for double underscores and without regard to case. Its text is read
as a truth value, a whole number or a number, in this order, and stays a text where it is none of
them; for a few keys it is a list between commas.
-/

namespace CrashQuery.Configuration.Environment

open Decimal (Extended)
open Text (lower splitAll)

/-- What the names of variables begin with. -/
def mark : List Char := "crash_search__".toList

/-- The keys whose variables are lists. -/
def listKeys : List String := ["search.restricted_channels", "search.required_params"]

/-- Puts points for double underscores. -/
def withPoints : List Char → List Char
  | '_' :: '_' :: s => '.' :: withPoints s
  | c :: s => c :: withPoints s
  | [] => []

/-- The key that the name of a variable stands for. -/
def keyOf? (name : String) : Option String :=
  (Text.dropStart? mark (lower name.toList)).map fun s => String.ofList (withPoints s)

/-- The value that the text of a variable stands for. -/
def valueOf (key text : String) : Value :=
  let s := text.toList
  if lower s = "true".toList then .bool true
  else if lower s = "false".toList then .bool false
  else
    match Text.readInt64? s, Extended.ofText? s with
    | some i, _ => .int i
    | none, some x => .float x
    | none, none =>
      if key ∈ listKeys then .list ((splitAll ',' s).map fun part => .text (String.ofList part))
      else .text text

/-- The entries that variables set, sorted by key. -/
def entries (vars : List (String × String)) : Entries Value :=
  Entries.ofList <| vars.filterMap fun v =>
    (keyOf? v.1).map fun key => (key, valueOf key v.2)

end CrashQuery.Configuration.Environment
