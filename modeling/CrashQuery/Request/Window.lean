import CrashQuery.Catalog
import CrashQuery.Request.Condition

/-!
# Date windows

The window of a request is the time between the greatest lower and the least upper bound that its
conditions on the date field give. A missing upper bound is the present, a missing lower bound lies
a default number of days before the upper one, and both are added to the conditions.
-/

namespace CrashQuery

open Calendar (Instant)

/-- What is fixed for all requests. -/
structure RequestOptions where
  /-- The present. -/
  now : Instant
  /-- The days of a window without a lower bound. -/
  defaultDays : Int := 7
  /-- The most days of a window. -/
  maxDays : Int := 365
  /-- The most results of one request. -/
  maxResults : Nat := 1000
  /-- The fields that every request must have a condition on. -/
  required : List String := []

/-- The time that a request is about, both ends included. -/
structure Window where
  /-- The first instant. -/
  first : Instant
  /-- The last instant. -/
  last : Instant
  deriving DecidableEq

namespace Window

/-- The public name of the field that the window is about. -/
def dateField : String := "date"

/-- Whether the operator bounds the date from below. -/
def boundsBelow : Operator → Bool
  | .greater | .atLeast | .equal | .any => true
  | _ => false

/-- Whether the operator bounds the date from above. -/
def boundsAbove : Operator → Bool
  | .less | .atMost | .equal | .any => true
  | _ => false

/-- The instants that the date is compared with by the chosen operators. -/
def bounds (chosen : Operator → Bool) (conditions : List Condition) : List Instant :=
  (conditions.filter fun c => c.name == dateField && !c.negated && chosen c.operator).flatMap
    fun c => c.values.filterMap Instant.ofText?

/-- The greatest lower bound. -/
def lower? (conditions : List Condition) : Option Instant := (bounds boundsBelow conditions).max?

/-- The least upper bound. -/
def upper? (conditions : List Condition) : Option Instant := (bounds boundsAbove conditions).min?

/-- Adds a bound on the date to the conditions. -/
def addBound (catalog : Catalog) (now : Instant) (operator : Operator) (t : Instant)
    (conditions : List Condition) : List Condition :=
  match catalog.lookup dateField with
  | some field =>
    Condition.addRaw now conditions field (operator.glyph ++ Request.temporalText field.kind t)
  | none => conditions

/-- The beginning of a window of the default width. -/
def defaultFirst (options : RequestOptions) (last : Instant) : Except Failure Instant :=
  match last.minusDays? options.defaultDays with
  | some first => .ok first
  | none => .error (.abort .outsideCalendar)

/-- The window of the conditions, and the conditions with the bounds that were missing. -/
def complete (catalog : Catalog) (options : RequestOptions) (conditions : List Condition) :
    Except Failure (Window × List Condition) := do
  let lower := lower? conditions
  let upper := upper? conditions
  -- The default width has to be a span even where both bounds are given.
  if !Instant.isSpan options.defaultDays then
    throw (.abort (.spanTooLong options.defaultDays))
  let last := upper.getD options.now
  let conditions :=
    if upper.isSome then conditions
    else addBound catalog options.now .atMost options.now conditions
  let first ← match lower with
    | some first => pure first
    | none => defaultFirst options last
  let conditions :=
    if lower.isSome then conditions
    else addBound catalog options.now .atLeast first conditions
  if !Instant.isSpan options.maxDays then throw (.abort (.spanTooLong options.maxDays))
  if last.isMoreThanDaysAfter first options.maxDays then
    throw (.error (.badArgument (.windowTooWide first.day last.day options.maxDays)))
  return (⟨first, last⟩, conditions)

end Window

end CrashQuery
