import CrashQuery.Calendar.Instant
import CrashQuery.Text.Numeral

/-!
# Dates and instants as text

Dates are written as year, month and day, and instants with the letter T before the time of day and
the letter Z behind it. Years from 0 to 9999 have four digits; other years have a sign and at least
four digits.
-/

namespace CrashQuery.Calendar

open Text (digits padded)

/-- A year: four digits, or a sign and at least four digits. -/
def yearChars (year : Int) : List Char :=
  if 0 ≤ year ∧ year ≤ 9999 then padded '0' 4 year.toNat
  else (if year < 0 then '-' else '+') :: padded '0' 4 year.natAbs

/-- A number below a hundred in two digits. -/
def twoDigits (n : Nat) : List Char := padded '0' 2 n

/-- A date: year, month and day with hyphens between them. -/
def Date.chars (d : Date) : List Char :=
  yearChars d.year ++ '-' :: twoDigits d.month ++ '-' :: twoDigits d.day

/-- The date of a day as text. -/
def dayText (day : Int) : String := String.ofList (Date.ofDay day).chars

namespace Instant

/-- The time of day with colons; a leap second is second 60. -/
def timeChars (t : Instant) : List Char :=
  let second := t.second % 60 + if t.isLeap then 1 else 0
  twoDigits (t.second / 3600) ++ ':' :: twoDigits (t.second / 60 % 60) ++ ':' :: twoDigits second

/-- Date and time of day, without what follows the seconds. -/
def stampChars (t : Instant) : List Char :=
  (Date.ofDay t.day).chars ++ 'T' :: t.timeChars

/-- The fraction of a second in 3, 6 or 9 digits, as many as are needed. -/
def fractionChars (t : Instant) : List Char :=
  let nano := t.nano % billion
  if nano = 0 then []
  else if nano % 1000000 = 0 then '.' :: padded '0' 3 (nano / 1000000)
  else if nano % 1000 = 0 then '.' :: padded '0' 6 (nano / 1000)
  else '.' :: padded '0' 9 nano

/-- The instant to the second. -/
def secondsText (t : Instant) : String := String.ofList (t.stampChars ++ ['Z'])

/-- The instant with its fraction of a second. -/
def fullText (t : Instant) : String := String.ofList (t.stampChars ++ t.fractionChars ++ ['Z'])

end Instant

end CrashQuery.Calendar
