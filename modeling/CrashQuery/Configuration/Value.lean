import CrashQuery.Decimal.Extended
import CrashQuery.Entries

/-!
# Configuration values

The values of a configuration before they are given their types. Sources write them in different
ways, so a value is converted to the type that is asked for: a text that spells a number is a
number, and every number has a text. `Value.put` merges a value into a table, deeply where both
are tables.
-/

namespace CrashQuery.Configuration

open Decimal (Extended)
open Text (intText lowered minInt64 maxInt64 maxWord64)

/-- A value that has been given no type. -/
inductive Value where
  /-- A place without a value. -/
  | nil
  /-- A truth value. -/
  | bool (b : Bool)
  /-- A whole number of 64 bits. -/
  | int (i : Int)
  /-- Any other number. -/
  | float (x : Extended)
  /-- A text. -/
  | text (s : String)
  /-- A list. -/
  | list (items : List Value)
  /-- A table with its entries sorted by key. -/
  | table (entries : List (String × Value))

namespace Value

/-- The entries, of which a value that is no table has none. -/
def entries : Value → Entries Value
  | .table es => es
  | _ => []

/-- The items, of which a value that is no list has none. -/
def items : Value → List Value
  | .list vs => vs
  | _ => []

/-! ## Conversions -/

/-- The value as a text. -/
def text? : Value → Option String
  | .text s => some s
  | .bool b => some (if b then "true" else "false")
  | .int i => some (intText i)
  | .float x => some x.text
  | _ => none

/-- The truth value that a word stands for. -/
def ofWord? (s : String) : Option Bool :=
  let word := lowered s
  if word = "true" ∨ word = "on" ∨ word = "yes" then some true
  else if word = "false" ∨ word = "off" ∨ word = "no" then some false
  else none

/-- The value as a truth value. -/
def bool? : Value → Option Bool
  | .bool b => some b
  | .int i => some (i ≠ 0)
  | .float x => some (!x.isZero)
  | .text s => if s = "1" then some true else if s = "0" then some false else ofWord? s
  | _ => none

/-- The value as a whole number between bounds, which a fraction is rounded into. -/
def between? (low high : Int) : Value → Option Int
  | .bool b => some (if b then 1 else 0)
  | .int i => if low ≤ i ∧ i ≤ high then some i else none
  | .float x => some (x.clamp low high)
  | .text s =>
    -- A word for a truth value counts as one or zero.
    match ofWord? s with
    | some b => some (if b then 1 else 0)
    | none =>
      if low < 0 then Text.readInt64? s.toList
      else (Text.readWord64? s.toList).map fun n => (n : Int)
  | _ => none

/-- The value as a whole number of 64 bits. -/
def int? (v : Value) : Option Int := v.between? minInt64 maxInt64

/-- The value as a natural number of 64 bits. -/
def nat? (v : Value) : Option Nat := (v.between? 0 maxWord64).map Int.toNat

/-- The value as a natural number that is no more than the bound. -/
def natUpTo? (bound : Nat) (v : Value) : Option Nat := v.nat?.filter (decide <| · ≤ bound)

/-- The value as a list of texts. -/
def texts? : Value → Option (List String)
  | .list vs => vs.mapM text?
  | _ => none

/-- The value as a text that may be missing. -/
def optional? : Value → Option (Option String)
  | .nil => some none
  | v => v.text?.map some

/-- The values of a record with the given keys, in their order: those of a table, or the items of
a list in the order of the keys. -/
def slots? (keys : List String) : Value → Option (List (Option Value))
  | .table es => some (keys.map fun k => Entries.find? k es)
  | .list vs => some ((List.range keys.length).map fun i => vs[i]?)
  | _ => none

/-! ## Merging -/

mutual

/-- Puts a value under a key of a table, in lower case; what is no table becomes one. A table is
merged into what is there. -/
def put (root : Value) (key : String) : Value → Value
  | .table es =>
    let old := (Entries.find? (lowered key) root.entries).getD (.table [])
    .table (Entries.insert (lowered key) (putAll old es) root.entries)
  | v => .table (Entries.insert (lowered key) v root.entries)

/-- Puts all entries into a table. -/
def putAll (root : Value) : List (String × Value) → Value
  | [] => root
  | (key, v) :: es => putAll (put root key v) es

end

end Value

end CrashQuery.Configuration
