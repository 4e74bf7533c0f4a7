import CrashQuery.Decimal.Shortest
import CrashQuery.Json.Value
import CrashQuery.Text.Numeral

/-!
# JSON text

The compact text of a JSON value: no blanks, strings with the short escapes, whole numbers in
digits, and fractions by their shortest digits.
-/

namespace CrashQuery

open Decimal (Binary64 Scaled shortest)
open Text (digits intDigits)

namespace Json

/-- How fractions are written, and up to where without an exponent. -/
structure FractionStyle where
  /-- The most digits before the point. -/
  wholeDigits : Int
  /-- The most zeros between the point and the first digit. -/
  leadingZeros : Int
  /-- What stands before an exponent that is not negative. -/
  plus : List Char

/-- Fractions have at most sixteen digits before the point, or four zeros after it; an exponent has
its sign. -/
def fractionStyle : FractionStyle := ⟨16, 4, ['+']⟩

/-- The text of an exponent. -/
def exponentChars (e : Int) : List Char :=
  'e' :: (if 0 ≤ e then fractionStyle.plus else []) ++ intDigits e

/-- A positive decimal, positional or with an exponent. -/
def scaledChars (d : Scaled) : List Char :=
  let ds := digits d.digits
  let point : Int := ds.length + d.exponent
  if 0 ≤ d.exponent ∧ point ≤ fractionStyle.wholeDigits then
    ds ++ List.replicate d.exponent.toNat '0' ++ ['.', '0']
  else if 0 < point ∧ point ≤ fractionStyle.wholeDigits then
    ds.take point.toNat ++ '.' :: ds.drop point.toNat
  else if -fractionStyle.leadingZeros ≤ point ∧ point ≤ 0 then
    ['0', '.'] ++ List.replicate (-point).toNat '0' ++ ds
  else
    let fraction := if ds.length = 1 then [] else '.' :: ds.drop 1
    ds.take 1 ++ fraction ++ exponentChars (point - 1)

/-- The text of a fraction. -/
def floatChars (x : Binary64) : List Char :=
  let sign := if x.negative then ['-'] else []
  sign ++ if x.mantissa = 0 then ['0', '.', '0'] else scaledChars (shortest x)

/-- A character inside a string. -/
def stringChar (c : Char) : List Char :=
  if c = '"' then ['\\', '"']
  else if c = '\\' then ['\\', '\\']
  else if c = '\n' then ['\\', 'n']
  else if c = '\r' then ['\\', 'r']
  else if c = '\t' then ['\\', 't']
  else if c = '\x08' then ['\\', 'b']
  else if c = '\x0c' then ['\\', 'f']
  else if c.toNat < 0x20 then
    ['\\', 'u', '0', '0', Nat.digitChar (c.toNat / 16), Nat.digitChar (c.toNat % 16)]
  else [c]

/-- A string between quotes. -/
def stringChars (s : String) : List Char := '"' :: s.toList.flatMap stringChar ++ ['"']

mutual

/-- The compact text of a value. -/
def chars : Json → List Char
  | .null => ['n', 'u', 'l', 'l']
  | .bool true => ['t', 'r', 'u', 'e']
  | .bool false => ['f', 'a', 'l', 's', 'e']
  | .int i => intDigits i
  | .float x => floatChars x
  | .str s => stringChars s
  | .arr items => '[' :: itemChars items ++ [']']
  | .obj fields => '\x7b' :: fieldChars fields ++ ['\x7d']

/-- The items of an array with commas between them. -/
def itemChars : List Json → List Char
  | [] => []
  | [item] => chars item
  | item :: next :: rest => chars item ++ ',' :: itemChars (next :: rest)

/-- The fields of an object with commas between them. -/
def fieldChars : List (String × Json) → List Char
  | [] => []
  | [(key, value)] => stringChars key ++ ':' :: chars value
  | (key, value) :: next :: rest =>
    stringChars key ++ ':' :: (chars value ++ ',' :: fieldChars (next :: rest))

end

/-- The compact text of a value as a string. -/
def render (value : Json) : String := String.ofList value.chars

end Json

end CrashQuery
