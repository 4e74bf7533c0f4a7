import CrashQuery.Backend.Fault
import CrashQuery.Json.Value

/-!
# Backends

A backend answers calls on lists of indices. It is described by what it does in each of its states:
how long an answer takes, the answer, and the state after it. A call that is given up before its
answer leaves the state as it was.
-/

namespace CrashQuery

/-- What is asked of the indices of a call. -/
inductive Question where
  /-- The reports that a query body selects. -/
  | search (body : Json)
  /-- Their mappings. -/
  | mapping

/-- A call to a backend. -/
structure Call where
  /-- What is asked. -/
  question : Question
  /-- The indices that are asked. -/
  indices : List String

/-- The answer to a call. -/
abbrev Answer := Except BackendFault Json

/-- An answer on its way. -/
structure Pending (σ : Type) where
  /-- The milliseconds until the answer. -/
  delay : Nat
  /-- The answer. -/
  answer : Answer
  /-- The state of the backend after the answer. -/
  state : σ

/-- A backend with states of type `σ`. -/
structure Backend (σ : Type) where
  /-- What happens to a call in a state. -/
  ask : Call → σ → Pending σ

end CrashQuery
