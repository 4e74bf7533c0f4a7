import CrashQuery.Configuration.Value

/-!
# Numbers of TOML

Whole numbers of 64 bits in four bases, fractions, infinities and the value that is no number. An
underscore may stand between two digits.
-/

namespace CrashQuery.Toml

open CrashQuery.Configuration (Value)
open Decimal (Extended)
open Text (minInt64 maxInt64)

/-! ## Numbers -/

/-- Reads digits after the first one, each perhaps after an underscore. -/
def moreDigits? (isDigit : Char → Bool) : List Char → Option (List Char × List Char)
  | '_' :: c :: s =>
    if isDigit c then (moreDigits? isDigit s).map fun p => (c :: p.1, p.2) else none
  | c :: s =>
    if c = '_' then none
    else if isDigit c then (moreDigits? isDigit s).map fun p => (c :: p.1, p.2)
    else some ([], c :: s)
  | [] => some ([], [])

/-- Reads one or more digits; gives them without underscores. -/
def digits? (isDigit : Char → Bool) : List Char → Option (List Char × List Char)
  | c :: s =>
    if isDigit c then (moreDigits? isDigit s).map fun p => (c :: p.1, p.2) else none
  | [] => none

/-- A whole number of 64 bits. -/
def whole? (i : Int) : Option Value :=
  if minInt64 ≤ i ∧ i ≤ maxInt64 then some (.int i) else none

/-- The value of a digit. -/
def digitValue (c : Char) : Nat :=
  if c.isDigit then c.toNat - '0'.toNat else c.toLower.toNat - 'a'.toNat + 10

/-- Reads a whole number after the mark of its base. -/
def based? (base : Nat) (s : List Char) : Option (Value × List Char) := do
  let isDigit := fun (c : Char) =>
    (c.isDigit || ('a' ≤ c.toLower && c.toLower ≤ 'f')) && decide (digitValue c < base)
  let (ds, s) ← digits? isDigit s
  let v ← whole? (ds.foldl (fun n c => base * n + digitValue c) 0 : Nat)
  return (v, s)

/-- Reads the sign of a number. -/
def sign? : List Char → Option Char × List Char
  | '+' :: s => (some '+', s)
  | '-' :: s => (some '-', s)
  | s => (none, s)

/-- Reads the fraction of a number, if there is a point: the point and its digits. -/
def fraction? : List Char → Option (List Char × List Char)
  | '.' :: s => (digits? Char.isDigit s).map fun p => ('.' :: p.1, p.2)
  | s => some ([], s)

/-- Reads the exponent of a number, if there is one. -/
def exponent? : List Char → Option (List Char × List Char)
  | c :: s =>
    if c = 'e' ∨ c = 'E' then
      let (sign, s) := sign? s
      (digits? Char.isDigit s).map fun p => ('e' :: sign.toList ++ p.1, p.2)
    else some ([], c :: s)
  | [] => some ([], [])

/-- Reads a number in base ten. Its first digit is a zero only if no other comes before the point,
and it is not too large, unless it is negative. -/
def decimal? (s : List Char) : Option (Value × List Char) := do
  let (sign, s) := sign? s
  let (whole, s) ← digits? Char.isDigit s
  if whole.head? = some '0' ∧ 1 < whole.length then none
  else
    let (fraction, s) ← fraction? s
    let (exponent, s) ← exponent? s
    let text := sign.toList ++ whole ++ fraction ++ exponent
    if fraction = [] ∧ exponent = [] then
      return (← (Text.readInt? text).bind whole?, s)
    else
      let x ← Extended.ofText? text
      if x = .infinite false then none else return (.float x, s)

/-- Reads an infinity or the value that is no number. -/
def special? (s : List Char) : Option (Value × List Char) :=
  let (sign, s) := sign? s
  match s with
  | 'i' :: 'n' :: 'f' :: s => some (.float (.infinite (sign = some '-')), s)
  | 'n' :: 'a' :: 'n' :: s => some (.float .notNumber, s)
  | _ => none

/-! ## All of them -/

/-- Reads a number. -/
def numeric? : List Char → Option (Value × List Char)
  | '0' :: 'x' :: s => based? 16 s
  | '0' :: 'o' :: s => based? 8 s
  | '0' :: 'b' :: s => based? 2 s
  | s => special? s <|> decimal? s

end CrashQuery.Toml
