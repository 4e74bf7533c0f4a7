import CrashQuery.Decimal.Shortest
import CrashQuery.Text.Lower
import CrashQuery.Text.Numeral

/-!
# Numbers with infinities

The finite binary fractions, two infinities, and a value that is no number. They are read from
decimal text, rounded once to the nearest; a number that is too large is infinite. They are written
in positional notation with their shortest digits.
-/

namespace CrashQuery.Decimal

open Text (digits takeDigits)

/-- A finite fraction, an infinity, or no number. -/
inductive Extended where
  /-- A finite fraction. -/
  | finite (x : Binary64)
  /-- An infinity, of the sign. -/
  | infinite (negative : Bool)
  /-- No number. -/
  | notNumber
  deriving DecidableEq

namespace Extended

/-- The number `n * 10 ^ exponent` with the sign. Beyond 400 places from the point it is infinite
or zero without being computed. -/
def ofScaled (negative : Bool) (n : Nat) (exponent : Int) : Extended :=
  -- The place of the first digit settles the far cases without a large power of ten.
  let places := (digits n).length + exponent
  let magnitude? :=
    if n = 0 ∨ places < -400 then some Binary64.zero
    else if 400 < places then none
    else Binary64.ofRatio? (n * Nat.pow 10 exponent.toNat) (Nat.pow 10 (-exponent).toNat)
  match magnitude? with
  | some x => .finite { x with negative }
  | none => .infinite negative

/-- Reads digits and the digits after a point, if there is one. -/
def mantissa (s : List Char) : List Char × List Char × List Char :=
  match takeDigits s with
  | (whole, '.' :: s) =>
    let (fraction, s) := takeDigits s
    (whole, fraction, s)
  | (whole, s) => (whole, [], s)

/-- Reads the exponent that ends a number. -/
def exponent? : List Char → Option Int
  | [] => some 0
  | c :: s => if c = 'e' ∨ c = 'E' then Text.readInt? s else none

/-- Reads a number without its sign. -/
def unsigned? (negative : Bool) (s : List Char) : Option Extended :=
  let word := s.map Char.toLower
  if word = "inf".toList ∨ word = "infinity".toList then some (.infinite negative)
  else if word = "nan".toList then some .notNumber
  else
    let (whole, fraction, s) := mantissa s
    if whole = [] ∧ fraction = [] then none
    else
      (exponent? s).map fun e =>
        ofScaled negative (Nat.ofDigitChars 10 (whole ++ fraction) 0) (e - fraction.length)

/-- The number that a decimal text stands for. -/
def ofText? : List Char → Option Extended
  | '+' :: s => unsigned? false s
  | '-' :: s => unsigned? true s
  | s => unsigned? false s

/-- A positive decimal in positional notation. -/
def positional (d : Scaled) : List Char :=
  let ds := digits d.digits
  let point : Int := ds.length + d.exponent
  if 0 ≤ d.exponent then ds ++ List.replicate d.exponent.toNat '0'
  else if 0 < point then ds.take point.toNat ++ '.' :: ds.drop point.toNat
  else ['0', '.'] ++ List.replicate (-point).toNat '0' ++ ds

/-- The text of a number: no point where there is no fraction. -/
def text : Extended → String
  | .notNumber => "NaN"
  | .infinite negative => if negative then "-inf" else "inf"
  | .finite x =>
    let sign := if x.negative then ['-'] else []
    String.ofList (sign ++ if x.mantissa = 0 then ['0'] else positional (shortest x))

/-- Whether the value is a zero. -/
def isZero : Extended → Bool
  | .finite x => x.mantissa == 0
  | _ => false

/-- The nearest whole number between the bounds, a half away from zero; what is no number counts as
zero. -/
def clamp (low high : Int) : Extended → Int
  | .finite x => max low (min high x.roundHalfAway)
  | .infinite negative => if negative then low else high
  | .notNumber => 0

end Extended

end CrashQuery.Decimal
