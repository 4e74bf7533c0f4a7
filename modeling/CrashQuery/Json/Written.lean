import CrashQuery.Json.Value

/-!
# JSON values as they were written

The tree of a JSON text before it is given a meaning: fields in the order of the text, repeated keys
kept, and a mark in place of a number that is too large and of a string that holds half of a
surrogate pair. `Written.toJson?` gives the value, and `Json.written` the tree of a value.
-/

namespace CrashQuery.Json

/-- A JSON value as it was written. -/
inductive Written where
  /-- The null value. -/
  | null
  /-- A truth value. -/
  | bool (value : Bool)
  /-- A number, or none if it is too large. -/
  | number (value : Option Json)
  /-- A string, or none if half of a surrogate pair stands alone in it. -/
  | text (value : Option String)
  /-- An array. -/
  | list (items : List Written)
  /-- An object with its fields as they were written. -/
  | record (fields : List (Option String × Written))

namespace Written

mutual

/-- How many arrays and objects are nested in each other. -/
def depth : Written → Nat
  | .list items => depthOfItems items + 1
  | .record fields => depthOfFields fields + 1
  | _ => 0

/-- The greatest depth among the items. -/
def depthOfItems : List Written → Nat
  | [] => 0
  | item :: rest => max (depth item) (depthOfItems rest)

/-- The greatest depth among the fields. -/
def depthOfFields : List (Option String × Written) → Nat
  | [] => 0
  | (_, value) :: rest => max (depth value) (depthOfFields rest)

end

/-- How deep a value that is read as a whole may be nested. -/
def maxDepth : Nat := 127

mutual

/-- The value of a tree without faults; of two fields with one key the later one counts. -/
def value? : Written → Option Json
  | .null => some .null
  | .bool b => some (.bool b)
  | .number n => n
  | .text t => t.map .str
  | .list items => (values? items).map .arr
  | .record fields => (entries? fields).map object

/-- The values of the items. -/
def values? : List Written → Option (List Json)
  | [] => some []
  | item :: rest =>
    match value? item, values? rest with
    | some j, some js => some (j :: js)
    | _, _ => none

/-- The values of the fields. -/
def entries? : List (Option String × Written) → Option (List (String × Json))
  | [] => some []
  | (some key, value) :: rest =>
    match value? value, entries? rest with
    | some j, some js => some ((key, j) :: js)
    | _, _ => none
  | (none, _) :: _ => none

end

/-- The value of a tree that has no fault and is not nested too deeply. -/
def toJson? (w : Written) : Option Json :=
  if w.depth ≤ maxDepth then w.value? else none

end Written

mutual

/-- The tree of a value. -/
def written : Json → Written
  | .null => .null
  | .bool b => .bool b
  | .int i => .number (some (.int i))
  | .float x => .number (some (.float x))
  | .str s => .text (some s)
  | .arr items => .list (writtenItems items)
  | .obj fields => .record (writtenFields fields)

/-- The trees of the items. -/
def writtenItems : List Json → List Written
  | [] => []
  | item :: rest => written item :: writtenItems rest

/-- The trees of the fields. -/
def writtenFields : List (String × Json) → List (Option String × Written)
  | [] => []
  | (key, value) :: rest => (some key, written value) :: writtenFields rest

end

end CrashQuery.Json
