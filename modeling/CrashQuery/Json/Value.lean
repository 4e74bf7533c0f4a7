import CrashQuery.Decimal.Binary64
import CrashQuery.Entries

/-!
# JSON values

Values of JSON with whole numbers and binary fractions apart. The fields of an object are sorted by
key; `Json.object` builds an object from fields in any order, the last one of a key counting.
-/

namespace CrashQuery

open Decimal (Binary64)

/-- A JSON value. -/
inductive Json where
  /-- The null value. -/
  | null
  /-- A truth value. -/
  | bool (value : Bool)
  /-- A whole number. -/
  | int (value : Int)
  /-- A number written with a fraction or an exponent, or beyond 64 bits. -/
  | float (value : Binary64)
  /-- A string. -/
  | str (text : String)
  /-- An array. -/
  | arr (items : List Json)
  /-- An object with its fields sorted by key. -/
  | obj (fields : List (String × Json))

namespace Json

instance : Inhabited Json := ⟨.null⟩

/-- The object with the given fields; of two fields with one key the later one counts. -/
def object (fields : List (String × Json)) : Json := .obj (Entries.ofList fields)

/-- A natural number as a value. -/
def nat (n : Nat) : Json := .int n

/-- An array of strings. -/
def strings (texts : List String) : Json := .arr (texts.map .str)

/-- A value, or null for none. -/
def ofOption {α : Type} (f : α → Json) : Option α → Json
  | some a => f a
  | none => .null

/-- The fields, if the value is an object. -/
def fields? : Json → Option (List (String × Json))
  | .obj fields => some fields
  | _ => none

/-- The items, if the value is an array. -/
def items? : Json → Option (List Json)
  | .arr items => some items
  | _ => none

/-- The text, if the value is a string. -/
def string? : Json → Option String
  | .str text => some text
  | _ => none

/-- The number, if the value is a whole number that is not negative. -/
def nat? : Json → Option Nat
  | .int (.ofNat n) => some n
  | _ => none

/-- The field of an object. -/
def get? (key : String) : Json → Option Json
  | .obj fields => Entries.find? key fields
  | _ => none

/-- The field of an object, or null where there is none. -/
def field (key : String) (value : Json) : Json := (value.get? key).getD .null

end Json

end CrashQuery
