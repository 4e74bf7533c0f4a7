/-!
# Finite binary fractions of 64 bits

A `Binary64` is a sign and a magnitude `mantissa * 2 ^ exponent` with a mantissa of at most 53 bits.
`ofRatio?` rounds a quotient of natural numbers to the nearest of them, a tie to the even mantissa,
and fails where the magnitude is too large; products and quotients are exact before that one
rounding.
-/

namespace CrashQuery.Decimal

/-- A finite binary fraction. The mantissa has 53 bits unless the exponent is the least one. -/
structure Binary64 where
  /-- Whether the sign is minus; a zero has a sign too. -/
  negative : Bool
  /-- The magnitude in units of the last place. -/
  mantissa : Nat
  /-- The power of two that is the unit of the last place. -/
  exponent : Int
  deriving DecidableEq

namespace Binary64

/-- The least exponent. -/
def minExponent : Int := -1074

/-- The greatest exponent. -/
def maxExponent : Int := 971

/-- The mantissa of a power of two: the first of 53 bits. -/
def leadingBit : Nat := 4503599627370496

/-- The positive zero. -/
def zero : Binary64 := ⟨false, 0, minExponent⟩

/-- The quotient rounded to the nearest whole number, a half to the even neighbour. -/
def roundQuotient (num den : Nat) : Nat :=
  let whole := num / den
  let twice := 2 * (num % den)
  if twice < den ∨ (twice = den ∧ whole % 2 = 0) then whole else whole + 1

/-- The greatest `t` with `2 ^ t ≤ num / den`, for positive numbers. -/
def binaryOrder (num den : Nat) : Int :=
  -- The lengths in bits decide the order but for one.
  let guess : Int := (Nat.log2 num : Int) - (Nat.log2 den : Int)
  if den * Nat.pow 2 guess.toNat ≤ num * Nat.pow 2 (-guess).toNat then guess else guess - 1

/-- The magnitude nearest to `num / den`, unless it is too large. -/
def ofRatio? (num den : Nat) : Option Binary64 :=
  if num = 0 then some zero
  else
    let exponent := max (binaryOrder num den - 52) minExponent
    let mantissa :=
      roundQuotient (num * Nat.pow 2 (-exponent).toNat) (den * Nat.pow 2 exponent.toNat)
    -- Rounding up can carry into a 54th bit.
    let result : Binary64 :=
      if mantissa = 2 * leadingBit then ⟨false, leadingBit, exponent + 1⟩
      else ⟨false, mantissa, exponent⟩
    if result.exponent ≤ maxExponent then some result else none

/-- The numerator of the magnitude over `denominator`. -/
def numerator (x : Binary64) : Nat := x.mantissa * Nat.pow 2 x.exponent.toNat

/-- The power of two below the magnitude. -/
def denominator (x : Binary64) : Nat := Nat.pow 2 (-x.exponent).toNat

/-- The product of two magnitudes, rounded once. -/
def mul? (x y : Binary64) : Option Binary64 :=
  ofRatio? (x.numerator * y.numerator) (x.denominator * y.denominator)

/-- The quotient of two magnitudes, rounded once; the divisor is not zero. -/
def div? (x y : Binary64) : Option Binary64 :=
  ofRatio? (x.numerator * y.denominator) (x.denominator * y.numerator)

/-- The magnitude nearest to a power of ten, for powers that have one. -/
def powerOfTen (n : Nat) : Binary64 := (ofRatio? (Nat.pow 10 n) 1).getD zero

/-- The magnitude nearest to a natural number of 64 bits. -/
def ofWord (n : Nat) : Binary64 := (ofRatio? n 1).getD zero

/-- The value rounded to a whole number, a half away from zero. -/
def roundHalfAway (x : Binary64) : Int :=
  let n := (2 * x.numerator + x.denominator) / (2 * x.denominator)
  if x.negative then -(n : Int) else n

end Binary64

end CrashQuery.Decimal
