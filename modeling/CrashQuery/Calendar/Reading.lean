import CrashQuery.Calendar.Instant
import CrashQuery.Text.Blank
import CrashQuery.Text.Numeral

/-!
# Reading instants

A text is read as an instant in the first of three forms that it has: the strict form with an
offset from universal time, the loose form of date and time of day, and the loose form of a date
alone, which stands for its midnight. The loose forms allow blanks before a number, short numbers
and a signed year of any width; times without an offset are in universal time.
-/

namespace CrashQuery.Calendar

open Text (trimStart)

namespace Reading

/-- The number of `ds`, if it has at least `least` digits. -/
def numberOf? (least : Nat) (ds : List Char) : Option Nat :=
  if ds.length < least then none else some (Nat.ofDigitChars 10 ds 0)

/-- Reads between `least` and `most` digits. -/
def number? (least most : Nat) (s : List Char) : Option (Nat × List Char) :=
  let ds := (s.take most).takeWhile Char.isDigit
  (numberOf? least ds).map fun n => (n, s.drop ds.length)

/-- Reads one or more digits. -/
def longNumber? (s : List Char) : Option (Nat × List Char) :=
  (numberOf? 1 (s.takeWhile Char.isDigit)).map fun n => (n, s.dropWhile Char.isDigit)

/-- Reads the given character. -/
def char? (c : Char) : List Char → Option (List Char)
  | d :: s => if d = c then some s else none
  | [] => none

/-- The nanoseconds that the digits of a fraction stand for; digits after the ninth are dropped. -/
def nanosOf (ds : List Char) : Nat :=
  Nat.ofDigitChars 10 (ds.take 9) 0 * Nat.pow 10 (9 - ds.length)

/-- Reads the fraction of a second, if there is a point. -/
def fraction? : List Char → Option (Nat × List Char)
  | '.' :: s =>
    let ds := s.takeWhile Char.isDigit
    if ds = [] then none else some (nanosOf ds, s.dropWhile Char.isDigit)
  | s => some (0, s)

/-- A date and a time of day as they are read. -/
structure Fields where
  /-- The year. -/
  year : Int
  /-- The month. -/
  month : Nat
  /-- The day of the month. -/
  day : Nat
  /-- The hour. -/
  hour : Nat
  /-- The minute. -/
  minute : Nat
  /-- The second, which is 60 in a leap second. -/
  second : Nat
  /-- The nanoseconds of the fraction. -/
  nano : Nat

/-- The instant of the fields in a place that is `offset` minutes ahead of universal time. -/
def Fields.toInstant? (f : Fields) (offset : Int) : Option Instant :=
  match dayOf? f.year f.month f.day with
  | none => none
  | some day =>
    if f.hour < 24 ∧ f.minute < 60 ∧ f.second ≤ 60 then
      -- Second 60 counts as second 59 with a billion nanoseconds more.
      let second := (f.hour * 3600 + f.minute * 60 + min f.second 59 : Nat) - offset * 60
      let nano := f.nano + if f.second = 60 then billion else 0
      Instant.make? (day + second / daySeconds) (second % daySeconds).toNat nano
    else none

/-- Reads the letter between date and time. -/
def separator? : List Char → Option (List Char)
  | c :: s => if c = 'T' ∨ c = 't' ∨ c = ' ' then some s else none
  | [] => none

/-- Reads hours and minutes of an offset. -/
def clockOffset? (s : List Char) : Option (Nat × List Char) := do
  let (hours, s) ← number? 2 2 s
  let s ← char? ':' s
  let (minutes, s) ← number? 2 2 s
  if minutes < 60 ∧ hours < 24 then some (hours * 60 + minutes, s) else none

/-- Reads an offset from universal time, in minutes. -/
def offset? : List Char → Option (Int × List Char)
  | c :: s =>
    if c = 'Z' ∨ c = 'z' then some (0, s)
    else if c = '+' then (clockOffset? s).map fun p => ((p.1 : Int), p.2)
    else if c = '-' ∨ c = '−' then (clockOffset? s).map fun p => (-(p.1 : Int), p.2)
    else none
  | [] => none

/-- The strict form: fixed numbers of digits and an offset. -/
def strict? (s : List Char) : Option Instant := do
  let (year, s) ← number? 4 4 s
  let s ← char? '-' s
  let (month, s) ← number? 2 2 s
  let s ← char? '-' s
  let (day, s) ← number? 2 2 s
  let s ← separator? s
  let (hour, s) ← number? 2 2 s
  let s ← char? ':' s
  let (minute, s) ← number? 2 2 s
  let s ← char? ':' s
  let (second, s) ← number? 2 2 s
  let (nano, s) ← fraction? s
  let (offset, s) ← offset? s
  if s = [] then Fields.toInstant? ⟨year, month, day, hour, minute, second, nano⟩ offset else none

/-- Reads a year: up to four digits, or any number of them after a sign. -/
def year? (s : List Char) : Option (Int × List Char) :=
  match trimStart s with
  | '-' :: s => (longNumber? s).map fun p => (-(p.1 : Int), p.2)
  | '+' :: s => (longNumber? s).map fun p => ((p.1 : Int), p.2)
  | s => (number? 1 4 s).map fun p => ((p.1 : Int), p.2)

/-- Reads one or two digits after blanks. -/
def short? (s : List Char) : Option (Nat × List Char) := number? 1 2 (trimStart s)

/-- Reads year, month and day in the loose form. -/
def looseDate? (s : List Char) : Option ((Int × Nat × Nat) × List Char) := do
  let (year, s) ← year? s
  let s ← char? '-' s
  let (month, s) ← short? s
  let s ← char? '-' s
  let (day, s) ← short? s
  some ((year, month, day), s)

/-- The loose form of a date and a time of day. -/
def looseTime? (s : List Char) : Option Instant := do
  let ((year, month, day), s) ← looseDate? s
  let s ← char? 'T' s
  let (hour, s) ← short? s
  let s ← char? ':' s
  let (minute, s) ← short? s
  let s ← char? ':' s
  let (second, s) ← short? s
  let (nano, s) ← fraction? s
  if s = [] then Fields.toInstant? ⟨year, month, day, hour, minute, second, nano⟩ 0 else none

/-- The loose form of a date, which stands for its midnight. -/
def midnight? (s : List Char) : Option Instant := do
  let ((year, month, day), s) ← looseDate? s
  if s = [] then Fields.toInstant? ⟨year, month, day, 0, 0, 0, 0⟩ 0 else none

end Reading

/-- The instant that a text stands for, in the first form that fits. -/
def Instant.ofText? (text : String) : Option Instant :=
  let s := text.toList
  Reading.strict? s <|> Reading.looseTime? s <|> Reading.midnight? s

end CrashQuery.Calendar
