import CrashQuery.Calendar.Reading

/-!
# Dates and times of TOML

A date, a time of day or both, with an offset from universal time after both. What is read is given
in one form: a large `T` between date and time, a large `Z`, at most nine digits in the fraction of
a second and no zeros at its end. A document reads dates and times by the hours and offsets of
`Clock.strict`, and a text that is declared to be one by those of `Clock.wide`.
-/

namespace CrashQuery.Toml

open Calendar (daysInMonth)
open Calendar.Reading (char? number?)

/-! ## Hours and offsets -/

/-- Which hours and offsets there are. -/
structure Clock where
  /-- The last hour of a day. -/
  lastHour : Nat
  /-- Whether an offset may have so many hours and minutes. -/
  isOffset : Nat → Nat → Bool

namespace Clock

/-- The hours of a day, and offsets of less than a day in hours and minutes. -/
def strict : Clock := ⟨23, fun hours minutes => decide (hours ≤ 23 ∧ minutes ≤ 59)⟩

/-- The hours of a day and the one after them, and offsets of at most a day, in which there may be
more minutes than an hour has. -/
def wide : Clock := ⟨24, fun hours minutes => decide (60 * hours + minutes ≤ 1440)⟩

end Clock

/-! ## Dates -/

/-- A number of two digits. -/
def two (n : Nat) : List Char := Text.padded '0' 2 n

/-- Reads a date. -/
def date? (s : List Char) : Option (List Char × List Char) := do
  let (year, s) ← number? 4 4 s
  let s ← char? '-' s
  let (month, s) ← number? 2 2 s
  let s ← char? '-' s
  let (day, s) ← number? 2 2 s
  if 1 ≤ month ∧ month ≤ 12 ∧ 1 ≤ day ∧ day ≤ daysInMonth year month then
    return (Text.padded '0' 4 year ++ '-' :: two month ++ '-' :: two day, s)
  else none

/-! ## Times -/

/-- Reads the fraction of a second, if there is a point; gives at most nine of its digits and no
zeros at its end. -/
def secondFraction? : List Char → Option (List Char × List Char)
  | '.' :: s =>
    let ds := s.takeWhile Char.isDigit
    let kept := ((ds.take 9).reverse.dropWhile (· = '0')).reverse
    if ds = [] then none
    else some (if kept = [] then [] else '.' :: kept, s.dropWhile Char.isDigit)
  | s => some ([], s)

/-- Reads a time of day. -/
def time? (clock : Clock) (s : List Char) : Option (List Char × List Char) := do
  let (hour, s) ← number? 2 2 s
  let s ← char? ':' s
  let (minute, s) ← number? 2 2 s
  let s ← char? ':' s
  let (second, s) ← number? 2 2 s
  let (fraction, s) ← secondFraction? s
  -- A second may be a leap second.
  if hour ≤ clock.lastHour ∧ minute ≤ 59 ∧ second ≤ 60 then
    return (two hour ++ ':' :: two minute ++ ':' :: two second ++ fraction, s)
  else none

/-- Reads an offset from universal time, if there is one. -/
def offset? (clock : Clock) : List Char → Option (List Char × List Char)
  | c :: s =>
    if c = 'Z' ∨ c = 'z' then some (['Z'], s)
    else if c = '+' ∨ c = '-' then do
      let (hours, s) ← number? 2 2 s
      let s ← char? ':' s
      let (minutes, s) ← number? 2 2 s
      if clock.isOffset hours minutes then
        let total := 60 * hours + minutes
        -- No offset is negative and zero.
        let sign := if total = 0 then '+' else c
        return (sign :: two (total / 60) ++ ':' :: two (total % 60), s)
      else none
    else some ([], c :: s)
  | [] => some ([], [])

/-! ## Both -/

/-- Whether a text goes on with a time of day after a date. -/
def goesOn : List Char → Bool
  | c :: d :: e :: ':' :: _ => (c = 'T' || c = 't' || c = ' ') && d.isDigit && e.isDigit
  | _ => false

/-- Whether a text starts with a date or a time of day. -/
def isMoment : List Char → Bool
  | a :: b :: c :: s =>
    a.isDigit && b.isDigit &&
      (c = ':' ||
        match s with
        | d :: '-' :: _ => c.isDigit && d.isDigit
        | _ => false)
  | _ => false

/-- Reads a date, a time of day or both, with an offset after both. -/
def moment? (clock : Clock) (s : List Char) : Option (List Char × List Char) :=
  if s[2]? = some ':' then time? clock s
  else do
    let (date, s) ← date? s
    match goesOn s, s with
    | true, _ :: s =>
      let (time, s) ← time? clock s
      let (offset, s) ← offset? clock s
      return (date ++ 'T' :: time ++ offset, s)
    | _, s => return (date, s)

/-- The date or time that a whole text spells. -/
def momentOfText? (text : String) : Option String :=
  match moment? .wide text.toList with
  | some (moment, []) => some (String.ofList moment)
  | _ => none

end CrashQuery.Toml
