import CrashQuery.Json.Written
import CrashQuery.Text.Numeral

/-!
# Records in JSON

A record is an object of which the known fields are picked and the others passed over, or the array
of its fields in their order, in which the last ones may be left out. A known field must not be
repeated. `Written.slots?` gives the known fields in order; the readers of single values are strict:
a number that is to be whole has no fraction, and only an optional value may be null.
-/

namespace CrashQuery.Json

namespace Written

/-- The one value of a key, none where it is absent; no answer where the key is repeated. -/
def slot? (key : String) : List (Option String × Written) → Option (Option Written)
  | [] => some none
  | (k, value) :: rest =>
    match slot? key rest with
    | none => none
    | some found =>
      if k = some key then (if found.isSome then none else some (some value)) else some found

/-- The values of all keys. -/
def slotsOf? (fields : List (Option String × Written)) : List String → Option (List (Option Written))
  | [] => some []
  | key :: keys =>
    match slot? key fields, slotsOf? fields keys with
    | some s, some rest => some (s :: rest)
    | _, _ => none

/-- The fields of a record with the given keys, in their order. -/
def slots? (keys : List String) : Written → Option (List (Option Written))
  | .record fields => if fields.all fun f => f.1.isSome then slotsOf? fields keys else none
  | .list items =>
    if items.length ≤ keys.length then
      some (items.map some ++ List.replicate (keys.length - items.length) none)
    else none
  | _ => none

/-- A string. -/
def string? : Written → Option String
  | .text t => t
  | _ => none

/-- A truth value. -/
def bool? : Written → Option Bool
  | .bool b => some b
  | _ => none

/-- A whole number between two bounds. -/
def int? (low high : Int) : Written → Option Int
  | .number (some (.int i)) => if low ≤ i ∧ i ≤ high then some i else none
  | _ => none

/-- A natural number up to a bound. -/
def nat? (high : Nat) (w : Written) : Option Nat := (int? 0 high w).map Int.toNat

/-- A value that may be null. -/
def optional? {α : Type} (read : Written → Option α) : Written → Option (Option α)
  | .null => some none
  | w => (read w).map some

/-- Reads every item of a list. -/
def readAll? {α : Type} (read : Written → Option α) : List Written → Option (List α)
  | [] => some []
  | w :: rest =>
    match read w, readAll? read rest with
    | some a, some as => some (a :: as)
    | _, _ => none

/-- An array of values. -/
def listOf? {α : Type} (read : Written → Option α) : Written → Option (List α)
  | .list items => readAll? read items
  | _ => none

/-- An object whose values are of one kind, in the order of the text. -/
def mapOf? {α : Type} (read : Written → Option α) : Written → Option (List (String × α))
  | .record fields => entriesOf? fields
  | _ => none
where
  /-- Reads every field. -/
  entriesOf? : List (Option String × Written) → Option (List (String × α))
    | [] => some []
    | (some key, w) :: rest =>
      match read w, entriesOf? rest with
      | some a, some as => some ((key, a) :: as)
      | _, _ => none
    | (none, _) :: _ => none

/-- One of a few names, as a string or as the key of an object whose only value is null. -/
def choice? {α : Type} (ofName? : String → Option α) : Written → Option α
  | .text (some name) => ofName? name
  | .record [(some name, .null)] => ofName? name
  | _ => none

/-- A field that must be there. -/
def required? {α : Type} (read : Written → Option α) : Option Written → Option α
  | some w => read w
  | none => none

/-- A field with a default. -/
def orElse? {α : Type} (default : α) (read : Written → Option α) : Option Written → Option α
  | some w => read w
  | none => some default

end Written

end CrashQuery.Json
