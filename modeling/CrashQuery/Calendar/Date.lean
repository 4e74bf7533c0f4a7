/-!
# Calendar dates and day numbers

Dates of the proleptic Gregorian calendar beside the count of days from 1970-01-01. `Date.ofDay`
finds the date of a day in its cycle of 400 years, and `Date.toDay` counts the days before a date.
The calendar runs from the year -262143 to the year 262142.
-/

namespace CrashQuery.Calendar

/-- Whether the year has 366 days. -/
def isLeapYear (year : Int) : Bool :=
  decide (year % 4 = 0 ∧ (year % 100 ≠ 0 ∨ year % 400 = 0))

/-- The number of days of a month. -/
def daysInMonth (year : Int) (month : Nat) : Nat :=
  if month = 2 then (if isLeapYear year then 29 else 28)
  else if month = 4 ∨ month = 6 ∨ month = 9 ∨ month = 11 then 30
  else 31

/-- A year, a month from 1 to 12 and a day of the month from 1. -/
structure Date where
  /-- The year; the year before 1 is 0. -/
  year : Int
  /-- The month. -/
  month : Nat
  /-- The day of the month. -/
  day : Nat
  deriving DecidableEq

/-- The days from 0001-01-01 to the first day of the year. -/
def daysBeforeYear (year : Int) : Int :=
  let y := year - 1
  365 * y + y / 4 - y / 100 + y / 400

/-- The days from the first day of the year to the first day of the month. -/
def daysBeforeMonth (year : Int) : Nat → Nat
  | 0 => 0
  | 1 => 0
  | month + 1 => daysBeforeMonth year month + daysInMonth year month

/-- The days from 0001-01-01 to 1970-01-01. -/
def epochOffset : Int := 719162

namespace Date

/-- The days from 1970-01-01 to the date. -/
def toDay (d : Date) : Int :=
  daysBeforeYear d.year + daysBeforeMonth d.year d.month + d.day - 1 - epochOffset

/-- The day of the year, counted from 1. -/
def ordinal (d : Date) : Nat := daysBeforeMonth d.year d.month + d.day

/-- Whether month and day exist. -/
def Exists (d : Date) : Prop :=
  1 ≤ d.month ∧ d.month ≤ 12 ∧ 1 ≤ d.day ∧ d.day ≤ daysInMonth d.year d.month

instance (d : Date) : Decidable d.Exists := by unfold Exists; infer_instance

end Date

/-- The month and its day that hold the day of the year counted from 0, from `month` on and within
`fuel` months. -/
def monthOf (year : Int) : Nat → Nat → Nat → Nat × Nat
  | 0, month, rest => (month, rest + 1)
  | fuel + 1, month, rest =>
    if rest < daysInMonth year month then (month, rest + 1)
    else monthOf year fuel (month + 1) (rest - daysInMonth year month)

/-- The year of a day, and the day of the year counted from 0. -/
def yearOf (day : Int) : Int × Nat :=
  let n := day + epochOffset
  let inCycle := n % 146097
  -- The last century of a cycle and the last year of four have one day more than the others.
  let century := min (inCycle / 36524) 3
  let inCentury := inCycle - 36524 * century
  let inQuad := inCentury % 1461
  let single := min (inQuad / 365) 3
  (400 * (n / 146097) + 100 * century + 4 * (inCentury / 1461) + single + 1,
    (inQuad - 365 * single).toNat)

/-- The date of a day. -/
def Date.ofDay (day : Int) : Date :=
  let (year, rest) := yearOf day
  let (month, dayOfMonth) := monthOf year 11 1 rest
  ⟨year, month, dayOfMonth⟩

/-- The first year of the calendar. -/
def minYear : Int := -262143

/-- The last year of the calendar. -/
def maxYear : Int := 262142

/-- The first day of the calendar. -/
def minDay : Int := Date.toDay ⟨minYear, 1, 1⟩

/-- The last day of the calendar. -/
def maxDay : Int := Date.toDay ⟨maxYear, 12, 31⟩

/-- The day of a date that exists and lies in the calendar. -/
def dayOf? (year : Int) (month day : Nat) : Option Int :=
  let date : Date := ⟨year, month, day⟩
  if date.Exists ∧ minYear ≤ year ∧ year ≤ maxYear then some date.toDay else none

/-- The day of the week, counted from Sunday as 0. -/
def weekday (day : Int) : Nat := ((day + 4) % 7).toNat

/-- The days from the first to the last, in order. -/
def daysFrom (first last : Int) : List Int :=
  (List.range (last + 1 - first).toNat).map fun (i : Nat) => first + (i : Int)

/-- A day is listed exactly when it lies between the bounds. -/
theorem mem_daysFrom {first last d : Int} : d ∈ daysFrom first last ↔ first ≤ d ∧ d ≤ last := by
  simp only [daysFrom, List.mem_map, List.mem_range]
  constructor
  · rintro ⟨i, hi, rfl⟩
    omega
  · intro ⟨h1, h2⟩
    exact ⟨(d - first).toNat, by omega, by omega⟩

end CrashQuery.Calendar
