import CrashQuery.Json.Value
import CrashQuery.Text.Numeral

/-!
# JSON numerals

A numeral is a sign, digits, and perhaps a fraction and an exponent. A whole number of at most 64
bits keeps its value; any other numeral gives the binary fraction that its leading digits make when
they are scaled by a power of ten, which is rounded once for the digits and once for the scaling.
-/

namespace CrashQuery

open Decimal (Binary64)
open Text (minInt64 maxWord64)

namespace Json

/-- The parts of a numeral. -/
structure Numeral where
  /-- Whether it begins with a minus sign. -/
  negative : Bool
  /-- The digits before the point. -/
  whole : List Char
  /-- The digits after the point, if there is a point. -/
  fraction : Option (List Char)
  /-- The sign and the digits of the exponent, if there is one. -/
  exponent : Option (Bool × List Char)

namespace Numeral

/-- Digits as a number. -/
def value (ds : List Char) : Nat := Nat.ofDigitChars 10 ds 0

/-- Appends digits to a number as long as it fits 64 bits; gives the number and the digits left. -/
def accumulate (n : Nat) : List Char → Nat × List Char
  | [] => (n, [])
  | c :: ds =>
    let next := 10 * n + (c.toNat - '0'.toNat)
    if next ≤ maxWord64 then accumulate next ds else (n, c :: ds)

/-- Divides by the greatest power of ten while the exponent is out of range, at most `fuel` times,
then scales once. No value means that the result is too large. -/
def scale? (x : Binary64) (exponent : Int) : Nat → Option Binary64
  | 0 => some x
  | fuel + 1 =>
    if exponent.natAbs ≤ 308 then
      let power := Binary64.powerOfTen exponent.natAbs
      if 0 ≤ exponent then x.mul? power else x.div? power
    else if x.mantissa = 0 then some x
    else if 0 ≤ exponent then none
    else
      match x.div? (Binary64.powerOfTen 308) with
      | some y => scale? y (exponent + 308) fuel
      | none => none

/-- The power of ten that the exponent part stands for. -/
def power : Option (Bool × List Char) → Int
  | some (true, ds) => -(value ds : Int)
  | some (false, ds) => value ds
  | none => 0

/-- The leading digits as a number of 64 bits, and the power of ten that they are scaled by. -/
def leading (n : Numeral) : Nat × Int :=
  let (head, dropped) := accumulate 0 n.whole
  let ds := n.fraction.getD []
  -- The fraction goes on where the whole part stopped, even if digits were dropped between them.
  let (significand, unused) := accumulate head ds
  (significand, (dropped.length : Int) - (ds.length - unused.length : Nat) + power n.exponent)

/-- Whether the numeral stands for a whole number that is kept as one. -/
def wholeValue? (n : Numeral) : Option Json :=
  let v := value n.whole
  if n.fraction.isSome || n.exponent.isSome || decide (maxWord64 < v) then none
  else if !n.negative then some (.int v)
  else if v = 0 ∨ (-(v : Int)) < minInt64 then none
  else some (.int (-(v : Int)))

/-- The number that a numeral stands for, unless it is too large. -/
def toJson? (n : Numeral) : Option Json :=
  match n.wholeValue? with
  | some j => some j
  | none =>
    let (significand, exponent) := n.leading
    (scale? (Binary64.ofWord significand) exponent 4).map fun x =>
      .float { x with negative := n.negative }

end Numeral

end Json

end CrashQuery
