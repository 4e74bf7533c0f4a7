import CrashQuery.Decimal.Binary64

/-!
# Shortest decimal digits

The decimal that stands for a binary fraction has the fewest digits among those that read back as
it, and is the nearest to it among those. The search goes through the grids of 1, 2, … 17 digits
and tests the two neighbours of the value on each.
-/

namespace CrashQuery.Decimal

/-- The decimal `digits * 10 ^ exponent`. -/
structure Scaled where
  /-- The digits as a number. -/
  digits : Nat
  /-- The power of ten that is the unit of the last digit. -/
  exponent : Int
  deriving DecidableEq

/-- The numbers that round to one binary fraction, as bounds in units of a quarter of its last
place. -/
structure Interval where
  /-- Four times the mantissa, less the lower half gap. -/
  low : Nat
  /-- Four times the mantissa, plus the upper half gap. -/
  high : Nat
  /-- Whether the bounds themselves round to the fraction. -/
  closed : Bool

/-- The interval of a positive magnitude. The gap below a power of two is half as wide. -/
def Interval.of (x : Binary64) : Interval :=
  let gap := if x.mantissa = Binary64.leadingBit ∧ Binary64.minExponent < x.exponent then 1 else 2
  ⟨4 * x.mantissa - gap, 4 * x.mantissa + 2, x.mantissa % 2 = 0⟩

/-- Whether `n * scaleNum / scaleDen`, in quarters of the last place, lies in the interval. -/
def Interval.has (i : Interval) (n scaleNum scaleDen : Nat) : Bool :=
  let v := n * scaleNum
  let low := i.low * scaleDen
  let high := i.high * scaleDen
  if i.closed then decide (low ≤ v ∧ v ≤ high) else decide (low < v ∧ v < high)

/-- The least `k` from `start` on with `den ≤ num * 10 ^ (k + 1)`, within `fuel` steps. -/
def leadingZeros (num den : Nat) : Nat → Nat → Nat
  | 0, start => start
  | fuel + 1, start =>
    if den ≤ num * Nat.pow 10 (start + 1) then start else leadingZeros num den fuel (start + 1)

/-- The `e` with `10 ^ (e - 1) ≤ num / den < 10 ^ e`, for the magnitudes of this type. -/
def decimalOrder (num den : Nat) : Int :=
  if num < den then -(leadingZeros num den 400 0 : Int)
  else (Nat.toDigits 10 (num / den)).length

/-- The better of the two neighbours on the grid of `10 ^ exponent`, if one is in the interval. -/
def onGrid? (x : Binary64) (exponent : Int) : Option Scaled :=
  let num := x.numerator * Nat.pow 10 (-exponent).toNat
  let den := x.denominator * Nat.pow 10 exponent.toNat
  let below := num / den
  let above := below + 1
  -- One unit of the grid, in quarters of the last place of `x`, is a quotient of these two.
  let scaleNum := 4 * Nat.pow 10 exponent.toNat * Nat.pow 2 (-x.exponent).toNat
  let scaleDen := Nat.pow 10 (-exponent).toNat * Nat.pow 2 x.exponent.toNat
  let interval := Interval.of x
  let low := decide (0 < below) && interval.has below scaleNum scaleDen
  let high := interval.has above scaleNum scaleDen
  let twice := 2 * (num % den)
  -- Of two hits the nearer one counts, and of two equally near ones the even one.
  let down := low && (!high || twice < den || (twice = den && below % 2 = 0))
  if down then some ⟨below, exponent⟩
  else if high then some ⟨above, exponent⟩
  else none

/-- The first grid from `count` digits on that has a hit, within `fuel` grids. -/
def searchGrids (x : Binary64) (order : Int) : Nat → Nat → Scaled
  | 0, count => ⟨x.numerator / x.denominator, order - count⟩
  | fuel + 1, count =>
    match onGrid? x (order - count) with
    | some d => d
    | none => searchGrids x order fuel (count + 1)

/-- Moves trailing zeros of the digits into the exponent, within `fuel` steps. -/
def dropZeros : Nat → Scaled → Scaled
  | 0, d => d
  | fuel + 1, d =>
    if d.digits ≠ 0 ∧ d.digits % 10 = 0 then dropZeros fuel ⟨d.digits / 10, d.exponent + 1⟩ else d

/-- The shortest decimal for a positive magnitude. -/
def shortest (x : Binary64) : Scaled :=
  dropZeros 20 (searchGrids x (decimalOrder x.numerator x.denominator) 17 1)

end CrashQuery.Decimal
