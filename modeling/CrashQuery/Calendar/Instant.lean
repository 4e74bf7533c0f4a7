import CrashQuery.Calendar.Date

/-!
# Instants

A point of time is a day, a second of the day and a count of nanoseconds; a leap second has the
number of the second before it and a billion nanoseconds or more. As in the calendar in use, leap
seconds only come after the last second of a minute: a clock that sets one inside a minute has no
instant here. `Instant.minusDays?` moves by whole days and leaves a leap second for the second after
it, and `Instant.nanosSince` measures the time between two instants.
-/

namespace CrashQuery.Calendar

/-- Nanoseconds of a second. -/
def billion : Nat := 1000000000

/-- Seconds of a day. -/
def daySeconds : Nat := 86400

/-- A point of time in the calendar. A leap second is the sixtieth second of a minute, and no other;
instants in the middle of a minute that are marked as leap seconds are left out. -/
structure Instant where
  /-- The days since 1970-01-01. -/
  day : Int
  /-- The second of the day. -/
  second : Nat
  /-- The nanoseconds since the second began. -/
  nano : Nat
  /-- The day is in the calendar. -/
  day_ge : minDay ≤ day
  /-- The day is in the calendar. -/
  day_le : day ≤ maxDay
  /-- The second is in the day. -/
  second_lt : second < daySeconds
  /-- At most one leap second follows. -/
  nano_lt : nano < 2 * billion
  /-- A leap second ends a minute. -/
  leap_ends_minute : billion ≤ nano → second % 60 = 59
  deriving DecidableEq

namespace Instant

/-- The instant with the given parts, if it is one. -/
def make? (day : Int) (second nano : Nat) : Option Instant :=
  if h : (minDay ≤ day ∧ day ≤ maxDay) ∧ second < daySeconds ∧ nano < 2 * billion ∧
      (billion ≤ nano → second % 60 = 59) then
    some ⟨day, second, nano, h.1.1, h.1.2, h.2.1, h.2.2.1, h.2.2.2⟩
  else none

/-- A number that grows with the instant. -/
def rank (t : Instant) : Int := (t.day * daySeconds + t.second) * (2 * billion) + t.nano

instance : LE Instant := ⟨fun a b => a.rank ≤ b.rank⟩

instance : LT Instant := ⟨fun a b => a.rank < b.rank⟩

instance (a b : Instant) : Decidable (a ≤ b) := inferInstanceAs (Decidable (a.rank ≤ b.rank))

instance (a b : Instant) : Decidable (a < b) := inferInstanceAs (Decidable (a.rank < b.rank))

instance : Min Instant := ⟨fun a b => if a ≤ b then a else b⟩

instance : Max Instant := ⟨fun a b => if a ≤ b then b else a⟩

/-- Whether the instant is in a leap second. -/
def isLeap (t : Instant) : Bool := decide (billion ≤ t.nano)

/-- The seconds since the beginning of 1970, without leap seconds. -/
def unixSeconds (t : Instant) : Int := t.day * daySeconds + t.second

/-- The greatest number of days that a span of time may have. -/
def maxSpanDays : Int := 106751991167

/-- Whether a span of so many days can be expressed. -/
def isSpan (days : Int) : Bool := decide (-maxSpanDays ≤ days ∧ days ≤ maxSpanDays)

/-- The instant that many days earlier, if the calendar reaches it. -/
def minusDays? (t : Instant) (days : Int) : Option Instant :=
  if days = 0 ∨ !t.isLeap then make? (t.day - days) t.second t.nano
  -- Backwards a leap second is left to the second after it, forwards to the one that it follows.
  else if days < 0 then make? (t.day - days) t.second (t.nano - billion)
  else if t.second + 1 = daySeconds then make? (t.day + 1 - days) 0 (t.nano - billion)
  else make? (t.day - days) (t.second + 1) (t.nano - billion)

/-- The whole leap seconds between two times of day that their numbers do not count. -/
def leapsBetween (a b : Instant) : Int :=
  if b.second < a.second then (if b.isLeap then 1 else 0)
  else if a.second < b.second then (if a.isLeap then -1 else 0)
  else 0

/-- The nanoseconds from `b` to `a`. -/
def nanosSince (a b : Instant) : Int :=
  (a.unixSeconds - b.unixSeconds + leapsBetween a b) * billion + (a.nano - b.nano)

/-- Whether more than so many days lie between `b` and `a`. -/
def isMoreThanDaysAfter (a b : Instant) (days : Int) : Bool :=
  decide (days * daySeconds * billion < a.nanosSince b)

end Instant

/-- Later instants have greater ranks, and equal ranks are equal instants. -/
theorem Instant.rank_inj {a b : Instant} (h : a.rank = b.rank) : a = b := by
  have ha := a.second_lt
  have hb := b.second_lt
  have hc := a.nano_lt
  have hd := b.nano_lt
  obtain ⟨da, sa, na, _, _, _, _, _⟩ := a
  obtain ⟨db, sb, nb, _, _, _, _, _⟩ := b
  simp only [Instant.rank, daySeconds, billion] at *
  have h1 : da = db := by omega
  have h2 : sa = sb := by omega
  have h3 : na = nb := by omega
  subst h1 h2 h3
  rfl

end CrashQuery.Calendar
