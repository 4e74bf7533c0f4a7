import CrashQuery.Json.Numeral
import CrashQuery.Json.Written
import CrashQuery.Text.Hex

/-!
# Reading JSON text

The grammar of JSON over characters. `Written.ofText?` reads a whole text as a tree, and
`Json.ofText?` reads it as a value.
-/

namespace CrashQuery.Json

namespace Reader

open Text (hexNumber? takeDigits)

/-- The blanks between tokens. -/
def isGap (c : Char) : Bool := c = ' ' || c = '\n' || c = '\t' || c = '\r'

/-- The text without the blanks it starts with. -/
def skipGap (s : List Char) : List Char := s.dropWhile isGap

/-- The character that a one-letter escape stands for. -/
def shortEscape? (c : Char) : Option Char :=
  if c = '"' ∨ c = '\\' ∨ c = '/' then some c
  else if c = 'b' then some '\x08'
  else if c = 'f' then some '\x0c'
  else if c = 'n' then some '\n'
  else if c = 'r' then some '\r'
  else if c = 't' then some '\t'
  else none

/-- An element of a string: a character, or the 16-bit unit of a numbered escape. -/
inductive Element where
  /-- A character that stands for itself or is escaped by a letter. -/
  | char (c : Char)
  /-- A unit escaped by its number. -/
  | unit (n : Nat)

/-- Reads the elements of a string up to its closing quote. -/
def elements? : List Char → Option (List Element × List Char)
  | [] => none
  | '"' :: s => some ([], s)
  | '\\' :: 'u' :: a :: b :: c :: d :: s =>
    match hexNumber? [a, b, c, d], elements? s with
    | some n, some (es, rest) => some (.unit n :: es, rest)
    | _, _ => none
  | '\\' :: c :: s =>
    match shortEscape? c, elements? s with
    | some e, some (es, rest) => some (.char e :: es, rest)
    | _, _ => none
  | c :: s =>
    if c.toNat < 0x20 ∨ c = '\\' then none
    else
      match elements? s with
      | some (es, rest) => some (.char c :: es, rest)
      | none => none

/-- Whether the unit is the first half of a surrogate pair. -/
def isLead (n : Nat) : Bool := decide (0xD800 ≤ n ∧ n ≤ 0xDBFF)

/-- Whether the unit is the second half of a surrogate pair. -/
def isTrail (n : Nat) : Bool := decide (0xDC00 ≤ n ∧ n ≤ 0xDFFF)

/-- The characters of the elements, unless half of a surrogate pair stands alone. -/
def assemble? : List Element → Option (List Char)
  | [] => some []
  | .char c :: es => (assemble? es).map (c :: ·)
  | .unit n :: .unit m :: es =>
    if isLead n then
      if isTrail m then
        (assemble? es).map (Char.ofNat (0x10000 + (n - 0xD800) * 0x400 + (m - 0xDC00)) :: ·)
      else none
    else if isTrail n then none
    else (assemble? (.unit m :: es)).map (Char.ofNat n :: ·)
  | .unit n :: es =>
    if isLead n || isTrail n then none else (assemble? es).map (Char.ofNat n :: ·)

/-- Reads a string after its opening quote. -/
def string? (s : List Char) : Option (Option String × List Char) :=
  (elements? s).map fun p => ((assemble? p.1).map String.ofList, p.2)

/-- Reads the point and the digits of a fraction, if there is a point. -/
def fraction? : List Char → Option (Option (List Char) × List Char)
  | '.' :: s =>
    let (ds, rest) := takeDigits s
    if ds.isEmpty then none else some (some ds, rest)
  | s => some (none, s)

/-- Reads the sign of an exponent: whether it is minus. -/
def exponentSign : List Char → Bool × List Char
  | '+' :: s => (false, s)
  | '-' :: s => (true, s)
  | s => (false, s)

/-- Reads an exponent, if there is one. -/
def exponent? : List Char → Option (Option (Bool × List Char) × List Char)
  | c :: s =>
    if c = 'e' ∨ c = 'E' then
      let (negative, s) := exponentSign s
      let (ds, rest) := takeDigits s
      if ds.isEmpty then none else some (some (negative, ds), rest)
    else some (none, c :: s)
  | [] => some (none, [])

/-- Reads the digits before the point, of which the first is a zero only if it is the only one. -/
def wholeDigits? (s : List Char) : Option (List Char × List Char) :=
  match takeDigits s with
  | ([], _) => none
  | ('0' :: _ :: _, _) => none
  | p => some p

/-- Reads a numeral after its sign. -/
def numeral? (negative : Bool) (s : List Char) : Option (Numeral × List Char) :=
  match wholeDigits? s with
  | none => none
  | some (whole, s) =>
    match fraction? s with
    | none => none
    | some (fraction, s) =>
      (exponent? s).map fun p => (⟨negative, whole, fraction, p.1⟩, p.2)

/-- Reads a number. -/
def number? : List Char → Option (Written × List Char)
  | '-' :: s => (numeral? true s).map fun p => (.number p.1.toJson?, p.2)
  | s => (numeral? false s).map fun p => (.number p.1.toJson?, p.2)

mutual

/-- Reads a value, in at most `fuel` steps. -/
def value? : Nat → List Char → Option (Written × List Char)
  | 0, _ => none
  | fuel + 1, s =>
    match skipGap s with
    | 'n' :: 'u' :: 'l' :: 'l' :: s => some (.null, s)
    | 't' :: 'r' :: 'u' :: 'e' :: s => some (.bool true, s)
    | 'f' :: 'a' :: 'l' :: 's' :: 'e' :: s => some (.bool false, s)
    | '"' :: s => (string? s).map fun p => (.text p.1, p.2)
    | '[' :: s =>
      match skipGap s with
      | ']' :: s => some (.list [], s)
      | s => (items? fuel s).map fun p => (.list p.1, p.2)
    | '\x7b' :: s =>
      match skipGap s with
      | '\x7d' :: s => some (.record [], s)
      | s => (fields? fuel s).map fun p => (.record p.1, p.2)
    | s => number? s

/-- Reads the items of an array up to its end. -/
def items? : Nat → List Char → Option (List Written × List Char)
  | 0, _ => none
  | fuel + 1, s =>
    match value? fuel s with
    | none => none
    | some (item, s) =>
      match skipGap s with
      | ']' :: s => some ([item], s)
      | ',' :: s => (items? fuel s).map fun p => (item :: p.1, p.2)
      | _ => none

/-- Reads the fields of an object up to its end. -/
def fields? : Nat → List Char → Option (List (Option String × Written) × List Char)
  | 0, _ => none
  | fuel + 1, s =>
    match skipGap s with
    | '"' :: s =>
      match string? s with
      | none => none
      | some (key, s) =>
        match skipGap s with
        | ':' :: s =>
          match value? fuel s with
          | none => none
          | some (value, s) =>
            match skipGap s with
            | '\x7d' :: s => some ([(key, value)], s)
            | ',' :: s => (fields? fuel s).map fun p => ((key, value) :: p.1, p.2)
            | _ => none
        | _ => none
    | _ => none

end

end Reader

/-- The tree of a JSON text, if the text is one. -/
def Written.ofText? (text : String) : Option Written :=
  let s := text.toList
  match Reader.value? (s.length + 1) s with
  | some (w, rest) => if Reader.skipGap rest = [] then some w else none
  | none => none

/-- The value of a JSON text. -/
def ofText? (text : String) : Option Json := (Written.ofText? text).bind Written.toJson?

end CrashQuery.Json
