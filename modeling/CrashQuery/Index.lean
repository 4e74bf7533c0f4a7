import CrashQuery.Calendar.Pattern
import CrashQuery.Error

/-!
# Indices

Reports are kept in one index for each day, whose name is the day written by a pattern.
`Index.covering` lists the indices of a window of time; neighbouring days with one name give one
entry, so that a coarser pattern gives fewer indices.
-/

namespace CrashQuery.Index

open Calendar

/-- The index of a day. -/
def nameOf (pattern : String) (day : Int) : Except Failure String :=
  match Pattern.render? pattern day with
  | some name => .ok name
  | none => .error (.abort (.unwritablePattern pattern))

/-- The list without the entries that equal the one before them. -/
def dropRepeats : List String → List String
  | [] => []
  | [name] => [name]
  | name :: next :: rest =>
    if name = next then dropRepeats (next :: rest) else name :: dropRepeats (next :: rest)

/-- The indices of the days from the first to the last instant, oldest first. -/
def covering (pattern : String) (first last : Instant) : Except Failure (List String) :=
  if last < first then .ok []
  else ((daysFrom first.day last.day).mapM (nameOf pattern)).map dropRepeats

/-- The indices of the given number of days before the present, and of the present day. -/
def recent (pattern : String) (now : Instant) (days : Int) : Except Failure (List String) :=
  if !Instant.isSpan days then .error (.abort (.spanTooLong days))
  else
    match now.minusDays? days with
    | some first => covering pattern first now
    | none => .error (.abort .outsideCalendar)

end CrashQuery.Index
