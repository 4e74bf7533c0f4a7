import CrashQuery.Calendar.Reading
import CrashQuery.Calendar.Writing
import CrashQuery.Field
import CrashQuery.Operator
import CrashQuery.Request.Raw

/-!
# Operands

An operand is brought into the one spelling that values of its field's kind have: dates are cut off
at the present, numbers and truth values are written anew, and texts are lower-cased unless the
comparison is exact. An operand that does not fit the kind is no value.
-/

namespace CrashQuery.Request

open Calendar (Instant dayText)
open Text

/-- An instant as a value of a field of the kind: its day for dates, and else its second. -/
def temporalText (kind : Kind) (t : Instant) : String :=
  match kind with
  | .date => dayText t.day
  | _ => t.secondsText

/-- The value that an operand stands for, if it fits the kind of the field. -/
def coerce (kind : Kind) (operator : Operator) (operand : List Char) (now : Instant) :
    Option String :=
  let s := trim operand
  if s = [] then none
  else
    match kind with
    | .date | .datetime =>
      (Instant.ofText? (String.ofList s)).map fun t => temporalText kind (min t now)
    | .integer => (readInt64? s).map intText
    | .boolean => (readBool? s).map fun b => if b then "true" else "false"
    | .text | .term => some (String.ofList (if operator.isExact then s else lower s))

end CrashQuery.Request
