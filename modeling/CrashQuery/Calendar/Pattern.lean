import CrashQuery.Calendar.Writing

/-!
# Date patterns

A pattern is a text in which a percent sign introduces a part of a date. `Pattern.items` reads a
pattern, and `Pattern.render?` writes a day by it. A pattern may also ask for the time of day, which
a day does not have, or be invalid; in both cases nothing can be written.
-/

namespace CrashQuery.Calendar

open Text (digits padded)

/-- How a number is filled up to its usual width. -/
inductive Padding where
  /-- It is not filled up. -/
  | bare
  /-- It is filled up with zeros. -/
  | zero
  /-- It is filled up with spaces. -/
  | space
  deriving DecidableEq

/-- The numbers that a date has. -/
inductive DateNumber where
  /-- The year. -/
  | year
  /-- The hundreds of the year. -/
  | century
  /-- The year within its century. -/
  | yearOfCentury
  /-- The year that the week belongs to. -/
  | weekYear
  /-- The year that the week belongs to, within its century. -/
  | weekYearOfCentury
  /-- The week of the year, of which the first holds the first Thursday. -/
  | week
  /-- The week of the year, of which the first begins with the first Sunday. -/
  | sundayWeek
  /-- The week of the year, of which the first begins with the first Monday. -/
  | mondayWeek
  /-- The quarter of the year. -/
  | quarter
  /-- The month. -/
  | month
  /-- The day of the month. -/
  | day
  /-- The day of the year. -/
  | dayOfYear
  /-- The day of the week, from Sunday as 0. -/
  | weekdayFromSunday
  /-- The day of the week, from Monday as 1. -/
  | weekdayFromMonday
  deriving DecidableEq

/-- The names that a date has. -/
inductive DateName where
  /-- The name of the weekday. -/
  | weekday
  /-- The first three letters of the name of the weekday. -/
  | shortWeekday
  /-- The name of the month. -/
  | month
  /-- The first three letters of the name of the month. -/
  | shortMonth
  deriving DecidableEq

/-- A piece of a pattern. -/
inductive PatternItem where
  /-- A character that stands for itself. -/
  | literal (c : Char)
  /-- A number of the date. -/
  | number (part : DateNumber) (padding : Padding)
  /-- A name of the date. -/
  | name (part : DateName)
  /-- A part of the time of day or of the zone. -/
  | timeOfDay
  /-- A percent sign that introduces nothing known. -/
  | invalid
  deriving DecidableEq

namespace Pattern

/-- The pieces that a single letter after the percent sign stands for. -/
def letter (c : Char) : List PatternItem :=
  match c with
  | 'Y' => [.number .year .zero]
  | 'C' => [.number .century .zero]
  | 'y' => [.number .yearOfCentury .zero]
  | 'G' => [.number .weekYear .zero]
  | 'g' => [.number .weekYearOfCentury .zero]
  | 'V' => [.number .week .zero]
  | 'U' => [.number .sundayWeek .zero]
  | 'W' => [.number .mondayWeek .zero]
  | 'q' => [.number .quarter .bare]
  | 'm' => [.number .month .zero]
  | 'd' => [.number .day .zero]
  | 'e' => [.number .day .space]
  | 'j' => [.number .dayOfYear .zero]
  | 'w' => [.number .weekdayFromSunday .bare]
  | 'u' => [.number .weekdayFromMonday .bare]
  | 'A' => [.name .weekday]
  | 'a' => [.name .shortWeekday]
  | 'B' => [.name .month]
  | 'b' => [.name .shortMonth]
  | 'h' => [.name .shortMonth]
  | 'D' => monthDayYear
  | 'x' => monthDayYear
  | 'F' => [.number .year .zero, .literal '-', .number .month .zero, .literal '-',
      .number .day .zero]
  | 'v' => [.number .day .space, .literal '-', .name .shortMonth, .literal '-',
      .number .year .zero]
  | 't' => [.literal '\t']
  | 'n' => [.literal '\n']
  | '%' => [.literal '%']
  | _ => if c ∈ timeLetters then [.timeOfDay] else [.invalid]
where
  /-- Month, day and year of the century, with slashes between them. -/
  monthDayYear : List PatternItem :=
    [.number .month .zero, .literal '/', .number .day .zero, .literal '/',
      .number .yearOfCentury .zero]
  /-- The letters that stand for a part of the time of day or of the zone. -/
  timeLetters : List Char :=
    ['H', 'I', 'M', 'P', 'R', 'S', 'T', 'X', 'Z', 'c', 'f', 'k', 'l', 'p', 'r', 's', 'z', '+']

/-- The piece that a letter stands for with another padding, which only single numbers take. -/
def paddedLetter (padding : Padding) (c : Char) : List PatternItem :=
  match letter c with
  | [.number part _] => [.number part padding]
  | [.timeOfDay] => if c ∈ timeNumbers then [.timeOfDay] else [.invalid]
  | _ => [.invalid]
where
  /-- The letters that stand for one number of the time of day. -/
  timeNumbers : List Char := ['H', 'I', 'M', 'S', 'f', 'k', 'l', 's']

/-- The pieces of a pattern; an invalid piece is the last one. -/
def items : List Char → List PatternItem
  | [] => []
  | '%' :: '-' :: c :: s => follow (paddedLetter .bare c) (items s)
  | '%' :: '0' :: c :: s => follow (paddedLetter .zero c) (items s)
  | '%' :: '_' :: c :: s => follow (paddedLetter .space c) (items s)
  | '%' :: '#' :: 'z' :: s => .timeOfDay :: items s
  | '%' :: ':' :: 'z' :: s => .timeOfDay :: items s
  | '%' :: ':' :: ':' :: 'z' :: s => .timeOfDay :: items s
  | '%' :: ':' :: ':' :: ':' :: 'z' :: s => .timeOfDay :: items s
  | '%' :: '.' :: 'f' :: s => .timeOfDay :: items s
  | '%' :: '.' :: c :: 'f' :: s =>
    if c = '3' ∨ c = '6' ∨ c = '9' then .timeOfDay :: items s else [.invalid]
  | '%' :: '3' :: 'f' :: s => .timeOfDay :: items s
  | '%' :: '6' :: 'f' :: s => .timeOfDay :: items s
  | '%' :: '9' :: 'f' :: s => .timeOfDay :: items s
  | '%' :: c :: s => follow (letter c) (items s)
  | ['%'] => [.invalid]
  | c :: s => .literal c :: items s
where
  /-- Pieces and those after them; nothing is read behind an invalid piece. -/
  follow (these rest : List PatternItem) : List PatternItem :=
    if .invalid ∈ these then these else these ++ rest

/-- The names of the months. -/
def monthNames : List (List Char) :=
  ["January", "February", "March", "April", "May", "June", "July", "August", "September",
    "October", "November", "December"].map String.toList

/-- The names of the weekdays from Sunday on. -/
def weekdayNames : List (List Char) :=
  ["Sunday", "Monday", "Tuesday", "Wednesday", "Thursday", "Friday", "Saturday"].map String.toList

/-- A number of at most 255 in two places; the tens of a larger one than 99 continue the digits
with the characters after them. -/
def twoPlaces (padding : Padding) (n : Nat) : List Char :=
  let ones := Char.ofNat ('0'.toNat + n % 10)
  if n / 10 = 0 then
    match padding with
    | .bare => [ones]
    | .zero => ['0', ones]
    | .space => [' ', ones]
  else [Char.ofNat ('0'.toNat + n / 10), ones]

/-- Digits filled up to the width. -/
def filled (padding : Padding) (width n : Nat) : List Char :=
  match padding with
  | .bare => digits n
  | .zero => padded '0' width n
  | .space => padded ' ' width n

/-- A year, with a sign unless it lies between 0 and 9999. -/
def paddedYear (padding : Padding) (year : Int) : List Char :=
  if 0 ≤ year ∧ year ≤ 9999 then filled padding 4 year.toNat
  else
    let sign := if year < 0 then '-' else '+'
    match padding with
    | .bare => sign :: digits year.natAbs
    | .zero => sign :: padded '0' 4 year.natAbs
    | .space =>
      List.replicate (4 - (digits year.natAbs).length) ' ' ++ sign :: digits year.natAbs

/-- The day of the year of a day, counted from 1. -/
def dayOfYear (day : Int) : Nat := (yearOf day).2 + 1

/-- The week of a day when weeks begin so many days after Sunday. -/
def weekFrom (start : Nat) (day : Int) : Nat :=
  (dayOfYear day + 6 - (weekday day + 7 - start) % 7) / 7

/-- The Thursday of the week of a day, which decides the year of the week. -/
def thursdayOf (day : Int) : Int := day + 3 - ((weekday day + 6) % 7 : Nat)

/-- The century as it is written: the hundreds of the year, of which the last eight bits count. -/
def centuryByte (year : Int) : Nat := (year / 100 % 256).toNat

/-- A number of a day. -/
def numberChars (part : DateNumber) (padding : Padding) (day : Int) : List Char :=
  let date := Date.ofDay day
  match part with
  | .year => paddedYear padding date.year
  | .century => twoPlaces padding (centuryByte date.year)
  | .yearOfCentury => twoPlaces padding (date.year % 100).toNat
  -- The year that the Thursday of the week lies in has the week.
  | .weekYear => paddedYear padding (yearOf (thursdayOf day)).1
  | .weekYearOfCentury => twoPlaces padding ((yearOf (thursdayOf day)).1 % 100).toNat
  | .week => twoPlaces padding ((yearOf (thursdayOf day)).2 / 7 + 1)
  | .sundayWeek => twoPlaces padding (weekFrom 0 day)
  | .mondayWeek => twoPlaces padding (weekFrom 1 day)
  | .quarter => digits ((date.month - 1) / 3 + 1)
  | .month => twoPlaces padding date.month
  | .day => twoPlaces padding date.day
  | .dayOfYear => filled padding 3 (dayOfYear day)
  | .weekdayFromSunday => digits (weekday day)
  | .weekdayFromMonday => digits ((weekday day + 6) % 7 + 1)

/-- A name of a day. -/
def nameChars (part : DateName) (day : Int) : List Char :=
  let month := (monthNames[(Date.ofDay day).month - 1]?).getD []
  let weekday := (weekdayNames[weekday day]?).getD []
  match part with
  | .weekday => weekday
  | .shortWeekday => weekday.take 3
  | .month => month
  | .shortMonth => month.take 3

/-- A piece of a pattern written for a day, if the day has it. -/
def itemChars? (day : Int) : PatternItem → Option (List Char)
  | .literal c => some [c]
  | .number part padding => some (numberChars part padding day)
  | .name part => some (nameChars part day)
  | .timeOfDay => none
  | .invalid => none

/-- The pieces written for a day, if the day has all of them. -/
def renderItems? (day : Int) : List PatternItem → Option (List Char)
  | [] => some []
  | item :: rest =>
    match itemChars? day item, renderItems? day rest with
    | some cs, some more => some (cs ++ more)
    | _, _ => none

/-- The day written by a pattern, if the day has all that the pattern asks for. -/
def render? (pattern : String) (day : Int) : Option String :=
  (renderItems? day (items pattern.toList)).map String.ofList

/-- Whether every percent sign of the pattern introduces something known. -/
def isValid (pattern : String) : Bool := decide (PatternItem.invalid ∉ items pattern.toList)

/-- Whether the pattern asks only for what every day has. -/
def isDatePattern (pattern : String) : Bool :=
  (items pattern.toList).all fun item => item != .timeOfDay && item != .invalid

end Pattern

end CrashQuery.Calendar
