import CrashQuery.Http.Error
import CrashQuery.Http.Form

/-!
# Requests and responses

A request has a method, a target and a body. The target is a path and, after a question mark, a
query; what follows a number sign belongs to neither. A response has a status and a JSON body, or
none.
-/

namespace CrashQuery.Http

/-- A request. -/
structure Request where
  /-- The method. -/
  method : String
  /-- The path of the target. -/
  path : String
  /-- The query of the target, empty if there is none. -/
  query : List Char
  /-- The body. -/
  body : String

/-- The request with the given target. -/
def Request.ofTarget (method target body : String) : Request :=
  let whole := target.toList.takeWhile fun c => c ≠ '#'
  let (path, query) := (Text.splitFirst? '?' whole).getD (whole, [])
  { method, path := String.ofList path, query, body }

/-- A response. -/
structure Response where
  /-- The status. -/
  status : Nat
  /-- The body, if it is JSON. -/
  body : Option Json

namespace Response

/-- A response without JSON. -/
def bare (status : Nat) : Response := ⟨status, none⟩

/-- A response to a request that is granted. -/
def ok (body : Json) : Response := ⟨200, some body⟩

/-- A response to a request that is refused or fails. -/
def ofFault (fault : Fault) : Response := ⟨fault.kind.status, some fault.toJson⟩

end Response

end CrashQuery.Http
