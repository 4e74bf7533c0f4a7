import CrashQuery.Configuration.Value
import CrashQuery.Error

/-!
# Paths to configuration values

A key may be a path: names between points, each perhaps with indices in square brackets. A value
is placed at the end of a path; on the way, what is no table or no list is replaced by an empty
one, and lists are filled up with places without a value. Names count in lower case. A negative
index counts from the end, and there is no place before the first item.
-/

namespace CrashQuery.Configuration

/-- A step of a path. -/
inductive Step where
  /-- To an entry of a table. -/
  | key (name : String)
  /-- To an item of a list. -/
  | index (i : Int)
  deriving DecidableEq

namespace Step

/-- Whether the character may stand in a name. -/
def isNameChar (c : Char) : Bool := c.isAlphanum || c = '_' || c = '-' || c = ' '

/-- Reads a name. -/
def name? (s : List Char) : Option (String × List Char) :=
  let name := s.takeWhile isNameChar
  if name = [] then none else some (String.ofList name, s.dropWhile isNameChar)

/-- The text without the blanks it starts with. -/
def skipGap (s : List Char) : List Char := s.dropWhile fun c => c = ' ' || c = '\t'

/-- Reads an index and the bracket after it. -/
def index? (s : List Char) : Option (Int × List Char) :=
  let s := skipGap s
  let (sign, s) := match s with
    | '-' :: s => (['-'], s)
    | s => ([], s)
  match Text.readInt64? (sign ++ s.takeWhile Char.isDigit), skipGap (s.dropWhile Char.isDigit) with
  | some i, ']' :: s => some (i, s)
  | _, _ => none

/-- Reads the steps after the first one, within `fuel` steps. -/
def rest? : Nat → List Char → Option (List Step)
  | _, [] => some []
  | 0, _ => none
  | fuel + 1, '.' :: s =>
    match name? s with
    | some (name, s) => (rest? fuel s).map (key name :: ·)
    | none => none
  | fuel + 1, '[' :: s =>
    match index? s with
    | some (i, s) => (rest? fuel s).map (index i :: ·)
    | none => none
  | _ + 1, _ => none

/-- The path that a text spells; a text that spells none is one name. -/
def ofText (text : String) : List Step :=
  let s := text.toList
  let path? := do
    let (name, s) ← name? s
    return key name :: (← rest? s.length s)
  path?.getD [key text]

end Step

namespace Value

/-- The most items that a list can hold. -/
def maxItems : Nat := 16777216

/-- The place of an index in a list of so many items. -/
def placeOf (i : Int) (length : Nat) : Except Abort Nat :=
  let spot := if 0 ≤ i then i else length + i
  if 0 ≤ spot ∧ spot < maxItems then .ok spot.toNat else .error (.noPlace i)

/-- Sets the item at an index; missing items before it are places without a value. -/
def setItem (i : Nat) (v : Value) (vs : List Value) : List Value :=
  (vs ++ List.replicate (i + 1 - vs.length) Value.nil).set i v

/-- Places a value at the end of a path. -/
def place (new : Value) : List Step → Value → Except Abort Value
  | [], _ => .ok new
  | [.key name], root => .ok (root.put name new)
  | .key name :: steps, root => do
    let name := Text.lowered name
    let next ← place new steps ((Entries.find? name root.entries).getD .nil)
    return .table (Entries.insert name next root.entries)
  | .index i :: steps, root => do
    let spot ← placeOf i root.items.length
    let next ← place new steps (root.items[spot]?.getD .nil)
    return .list (setItem spot next root.items)

/-- Places a value at the path that a key spells. -/
def assign (root : Value) (key : String) (new : Value) : Except Abort Value :=
  place new (Step.ofText key) root

/-- Assigns all entries. -/
def assignAll (root : Value) (entries : List (String × Value)) : Except Abort Value :=
  entries.foldlM (fun root e => root.assign e.1 e.2) root

end Value

end CrashQuery.Configuration
