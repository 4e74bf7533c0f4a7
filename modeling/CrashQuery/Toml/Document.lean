import CrashQuery.Text.Split
import CrashQuery.Toml.Number
import CrashQuery.Toml.Table
import CrashQuery.Toml.Text

/-!
# TOML documents

A document is a list of statements: headers, and entries of the table that the last header opened.
It stands for a table of configuration values.
-/

namespace CrashQuery.Toml

open CrashQuery.Configuration (Value)

/-! ## Values -/

/-- The text without the blanks, line ends and comments it starts with, within `fuel` comments. -/
def skipLayout : Nat → List Char → List Char
  | 0, s => s
  | fuel + 1, s =>
    match skipLines s with
    | '#' :: s => skipLayout fuel (skipComment ('#' :: s))
    | s => s

/-- How deep lists and tables may stand in each other inside a value. -/
def maxDepth : Nat := 79

mutual

/-- Reads a value, within `fuel` steps, in which lists and tables stand in each other no deeper
than `depth`. -/
def value? : Nat → Nat → List Char → Option (Node × List Char)
  | 0, _, _ => none
  | fuel + 1, depth, s =>
    match s with
    | '"' :: _ | '\'' :: _ => (string? s).map fun p => (.plain (.text (String.ofList p.1)), p.2)
    | 't' :: 'r' :: 'u' :: 'e' :: s => some (.plain (.bool true), s)
    | 'f' :: 'a' :: 'l' :: 's' :: 'e' :: s => some (.plain (.bool false), s)
    | '[' :: s =>
      if depth = 0 then none
      else (items? fuel (depth - 1) s).map fun p => (.list p.1, p.2)
    | '\x7b' :: s =>
      if depth = 0 then none
      else
        match skipGap s with
        | '\x7d' :: s => some (.table .braced [], s)
        | s =>
          match pairs? fuel (depth - 1) s with
          | some (pairs, s) => (addEntries [] pairs).map fun es => (.table .braced es, s)
          | none => none
    | s =>
      if isMoment s then (moment? .strict s).map fun p => (.moment (String.ofList p.1), p.2)
      else (numeric? s).map fun p => (.plain p.1, p.2)

/-- Reads the items of a list up to its closing bracket, before which a comma may stand. -/
def items? : Nat → Nat → List Char → Option (List Node × List Char)
  | 0, _, _ => none
  | fuel + 1, depth, s =>
    match skipLayout s.length s with
    | ']' :: s => some ([], s)
    | s =>
      match value? fuel depth s with
      | none => none
      | some (v, s) =>
        match skipLayout s.length s with
        | ',' :: s => (items? fuel depth s).map fun p => (v :: p.1, p.2)
        | ']' :: s => some ([v], s)
        | _ => none

/-- Reads the entries of a table in braces up to its closing brace. -/
def pairs? : Nat → Nat → List Char → Option (List (List String × Node) × List Char)
  | 0, _, _ => none
  | fuel + 1, depth, s =>
    match key? s with
    | some (key, '=' :: s) =>
      match value? fuel depth (skipGap s) with
      | none => none
      | some (v, s) =>
        match skipGap s with
        | ',' :: s => (pairs? fuel depth s).map fun p => ((key, v) :: p.1, p.2)
        | '\x7d' :: s => some ([(key, v)], s)
        | _ => none
    | _ => none

end

/-! ## Statements -/

/-- A statement of a document. -/
inductive Statement where
  /-- A header, of one table or of one among many. -/
  | header (many : Bool) (key : List String)
  /-- An entry. -/
  | entry (key : List String) (value : Node)

/-- Reads a header after its opening brackets. -/
def header? (many : Bool) (s : List Char) : Option (Statement × List Char) :=
  match many, key? s with
  | true, some (key, ']' :: ']' :: s) => some (.header true key, s)
  | false, some (key, ']' :: s) => some (.header false key, s)
  | _, _ => none

/-- Reads an entry. -/
def entry? (s : List Char) : Option (Statement × List Char) :=
  match key? s with
  | some (key, '=' :: s) =>
    (value? (s.length + 1) maxDepth (skipGap s)).map fun p => (.entry key p.1, p.2)
  | _ => none

/-- Reads a statement. -/
def statement? : List Char → Option (Statement × List Char)
  | '[' :: '[' :: s => header? true s
  | '[' :: s => header? false s
  | s => entry? s

/-- Reads the statements of a document, each on lines of its own, within `fuel` of them. -/
def statements? : Nat → List Char → Option (List Statement)
  | 0, _ => none
  | fuel + 1, s =>
    match skipLayout s.length s with
    | [] => some []
    | s =>
      match statement? s with
      | none => none
      | some (statement, s) =>
        match endOfLine? s with
        | none => none
        | some s => (statements? fuel s).map (statement :: ·)

/-- The entries before the first header, and the sections. -/
def sections : List Statement → List (List String × Node) × List Section
  | [] => ([], [])
  | .entry key v :: rest =>
    let (entries, parts) := sections rest
    ((key, v) :: entries, parts)
  | .header many key :: rest =>
    let (entries, parts) := sections rest
    ([], ⟨many, key, entries⟩ :: parts)

/-- The mark of the encoding, with which a document may begin. -/
def byteOrderMark : List Char := ['\uFEFF']

/-- The entries of the table that a document stands for, if it is one. -/
def ofText? (text : String) : Option (Entries Value) := do
  let s := (Text.dropStart? byteOrderMark text.toList).getD text.toList
  let (entries, parts) := sections (← statements? (s.length + 1) s)
  let root ← addEntries [] entries
  match ← (Node.table .header (← parts.foldlM addSection root)).toValue? with
  | .table es => some es
  | _ => none

end CrashQuery.Toml
