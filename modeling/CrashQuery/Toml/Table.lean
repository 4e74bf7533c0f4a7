import CrashQuery.Configuration.Value
import CrashQuery.Toml.Moment

/-!
# Tables of TOML

The tables of a document while they are made. Whether an entry or a header may stand where it does
depends on how the tables on its way were made: a table is defined once, by its header, by the names
before a point, or as a value. Entries keep the order in which they were written, since a table
whose first name is `momentMark` stands for a date or a time; `Node.toValue?` forgets the order.
-/

namespace CrashQuery.Toml

open CrashQuery.Configuration (Value)

/-! ## Nodes -/

/-- How a table was made. -/
inductive Making where
  /-- By its header, or as the whole document. -/
  | header
  /-- By the header of a table inside it. -/
  | implied
  /-- By a key with points. -/
  | dotted
  /-- As a value in braces. -/
  | braced
  deriving DecidableEq

/-- What stands at a name. -/
inductive Node where
  /-- A truth value, a number or a text. -/
  | plain (v : Value)
  /-- A date or a time in its one form. -/
  | moment (text : String)
  /-- A list. -/
  | list (items : List Node)
  /-- A table with its entries in the order of the document. -/
  | table (making : Making) (entries : List (String × Node))
  /-- Tables with one header, the last one first. -/
  | tables (elements : List Node)

namespace Node

/-- What stands at a name among entries. -/
def find? (name : String) : List (String × Node) → Option Node
  | [] => none
  | (k, n) :: es => if name = k then some n else find? name es

/-- Sets what stands at a name, in its place or after all entries. -/
def set (name : String) (n : Node) : List (String × Node) → List (String × Node)
  | [] => [(name, n)]
  | (k, m) :: es => if name = k then (name, n) :: es else (k, m) :: set name n es

/-- Removes what stands at a name. -/
def erase (name : String) (es : List (String × Node)) : List (String × Node) :=
  es.filter fun e => e.1 != name

/-! ## Values -/

/-- The name that declares, as the first one of a table, that the table stands for a date or a
time, which the text at that name spells. -/
def momentMark : String := "$__toml_private_datetime"

/-- What stands at the mark of a date or a time, if the entries begin with it. -/
def marked? : List (String × Node) → Option Node
  | (name, n) :: _ => if name = momentMark then some n else none
  | [] => none

/-- The date or time that a text spells. -/
def spelled? : Node → Option Value
  | .plain (.text s) => (momentOfText? s).map .text
  | _ => none

mutual

/-- The value that a node becomes; a date or a time is a text. -/
def toValue? : Node → Option Value
  | .plain v => some v
  | .moment s => some (.text s)
  | .list ns => (itemValues? ns).map .list
  | .table _ es =>
    match marked? es with
    -- What else the table holds does not count.
    | some n => n.spelled?
    | none => (entryValues? es).map fun es => .table (Entries.ofList es)
  | .tables ns => (itemValues? ns).map fun vs => .list vs.reverse

/-- The values of entries. -/
def entryValues? : List (String × Node) → Option (List (String × Value))
  | [] => some []
  | (name, n) :: es =>
    match toValue? n, entryValues? es with
    | some v, some vs => some ((name, v) :: vs)
    | _, _ => none

/-- The values of items. -/
def itemValues? : List Node → Option (List Value)
  | [] => some []
  | n :: ns =>
    match toValue? n, itemValues? ns with
    | some v, some vs => some (v :: vs)
    | _, _ => none

end

end Node

/-! ## Tables in the making -/

/-- Changes the entries of the table at the end of a path, given how that table was made. Tables
that are missing on the way are made as `making` says; of tables with one header the last one is
meant. Nothing leads into a table in braces, and a key with points not into one with a header. -/
def changeAt (making : Making)
    (change : Making → List (String × Node) → Option (List (String × Node))) :
    List String → Making → List (String × Node) → Option (List (String × Node))
  | [], own, es => change own es
  | name :: path, _, es =>
    match Node.find? name es with
    | none =>
      (changeAt making change path making []).map fun sub =>
        Node.set name (.table making sub) es
    | some (.table own sub) =>
      if own = .braced ∨ making = .dotted ∧ own = .header then none
      else
        (changeAt making change path own sub).map fun sub => Node.set name (.table own sub) es
    | some (.tables (.table own sub :: ns)) =>
      (changeAt making change path own sub).map fun sub =>
        Node.set name (.tables (.table own sub :: ns)) es
    | some _ => none

/-- Adds an entry at a key; a name is not defined twice, and only a key with points made the table
that such a key adds to. -/
def addEntry (es : List (String × Node)) (key : List String) (n : Node) :
    Option (List (String × Node)) :=
  match key.getLast? with
  | none => none
  | some name =>
    let path := key.dropLast
    let change := fun own es =>
      -- A table that a header or a value made is closed to keys with points.
      if path ≠ [] ∧ own ≠ .dotted then none
      else if (Node.find? name es).isSome then none
      else some (Node.set name n es)
    changeAt .dotted change path .header es

/-- Adds entries in order. -/
def addEntries (es : List (String × Node)) (entries : List (List String × Node)) :
    Option (List (String × Node)) :=
  entries.foldlM (fun es e => addEntry es e.1 e.2) es

/-- A table that begins with a header: its key, whether it is one of many tables with that header,
and its entries. -/
structure Section where
  /-- Whether many tables may have the header. -/
  many : Bool
  /-- The key in the header. -/
  key : List String
  /-- The entries. -/
  entries : List (List String × Node)

/-- Adds the table of a header to the tables on its way. -/
def addSection (root : List (String × Node)) (part : Section) : Option (List (String × Node)) :=
  match part.key.getLast? with
  | none => none
  | some name =>
    let change := fun (_ : Making) es =>
      match part.many, Node.find? name es with
      | true, none =>
        (addEntries [] part.entries).map fun sub => Node.set name (.tables [.table .header sub]) es
      | true, some (.tables ns) =>
        (addEntries [] part.entries).map fun sub =>
          Node.set name (.tables (.table .header sub :: ns)) es
      | false, none =>
        (addEntries [] part.entries).map fun sub => Node.set name (.table .header sub) es
      | false, some (.table .implied sub) =>
        -- The header moves the table behind the others.
        (addEntries sub part.entries).map fun sub =>
          Node.set name (.table .header sub) (Node.erase name es)
      | _, _ => none
    changeAt .implied change part.key.dropLast .header root

end CrashQuery.Toml
