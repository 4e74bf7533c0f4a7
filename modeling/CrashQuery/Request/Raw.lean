import CrashQuery.Entries
import CrashQuery.Text.Blank
import CrashQuery.Text.Numeral
import CrashQuery.Text.Lower
import CrashQuery.Text.Split

/-!
# Raw requests

A raw request maps every parameter to the values that it was given, in the order in which they
came. Beside it stand the readings of values that are not compared with fields: numbers, truth
values and lists.
-/

namespace CrashQuery

open Text

/-- The values of each parameter of a request. -/
abbrev RawRequest := Entries (List String)

namespace RawRequest

/-- Appends a value to a parameter. -/
def add (raw : RawRequest) (key value : String) : RawRequest :=
  Entries.update key [] (· ++ [value]) raw

/-- The request with the given values, appended in order. -/
def ofPairs (pairs : List (String × String)) : RawRequest :=
  pairs.foldl (fun raw p => raw.add p.1 p.2) []

/-- The values of a parameter, of which an absent one has none. -/
def valuesOf (raw : RawRequest) (key : String) : List String :=
  (Entries.find? key raw).getD []

end RawRequest

namespace Request

/-- A truth value as it is written in requests. -/
def readBool? (s : List Char) : Option Bool :=
  let word := (trim s).map Char.toLower
  if word = ['t', 'r', 'u', 'e'] ∨ word = ['1'] then some true
  else if word = ['f', 'a', 'l', 's', 'e'] ∨ word = ['0'] then some false
  else none

/-- The number that the last value stands for, if it is one. -/
def lastNumber? (values : List String) : Option Nat :=
  values.getLast?.bind fun v => readWord64? (trim v.toList)

/-- Whether the last value is true. -/
def lastBool (values : List String) : Bool :=
  (values.getLast?.bind fun v => readBool? v.toList).getD false

/-- The parts between commas, without blanks at their ends and without the empty ones. -/
def commaList (value : String) : List String :=
  (((splitAll ',' value.toList).map trim).filter fun part => !part.isEmpty).map String.ofList

end Request

end CrashQuery
