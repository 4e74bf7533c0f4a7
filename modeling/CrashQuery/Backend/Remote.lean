import CrashQuery.Backend.Basic
import CrashQuery.Backend.Target
import CrashQuery.Json.Reader

/-!
# Calls to a remote backend

A call becomes a request over HTTP to the address of the backend, followed by the names of the
indices and by what is asked of them. What comes back is a reply, or nothing; only a reply of
success that is JSON is an answer.
-/

namespace CrashQuery.Backend

/-- A request to a remote backend. -/
structure Exchange where
  /-- The server. -/
  server : String
  /-- The method. -/
  method : String
  /-- The target. -/
  target : String
  /-- The body, which is JSON, if there is one. -/
  body : Option Json

/-- What a remote backend replies. -/
structure Reply where
  /-- The status. -/
  status : Nat
  /-- The body. -/
  body : String

namespace Exchange

/-- The type of a body of JSON. -/
def jsonType : String := "application/json"

/-- An address without the slashes at its end. -/
def baseOf (address : String) : String :=
  String.ofList (address.toList.reverse.dropWhile (· = '/')).reverse

/-- What a request asks for. -/
def endpoint : Question → String
  | .search _ => "_search"
  | .mapping => "_mapping"

/-- The address of a call. -/
def addressOf (base : String) (call : Call) : String :=
  base ++ "/" ++ String.intercalate "," call.indices ++ "/" ++ endpoint call.question

/-- The request of a call to the backend at an address, if the address can be used. -/
def ofCall? (address : String) (call : Call) : Option Exchange :=
  (Target.ofAddress? (addressOf (baseOf address) call)).map fun (server, target) =>
    match call.question with
    | .search body => { server, method := "POST", target, body := some body }
    | .mapping => { server, method := "GET", target, body := none }

end Exchange

namespace Reply

/-- Whether the status says that the request has succeeded. -/
def isSuccess (r : Reply) : Bool := decide (200 ≤ r.status ∧ r.status < 300)

/-- The text of the body, without the mark of its encoding. Two statuses come without a body. -/
def text (r : Reply) : String :=
  if r.status = 204 ∨ r.status = 304 then ""
  else
    match r.body.toList with
    | '\uFEFF' :: s => String.ofList s
    | s => String.ofList s

/-- The answer that a reply, or its absence, amounts to. -/
def toAnswer : Option Reply → Answer
  | none => .error (.transport "no reply")
  | some r =>
    if r.isSuccess then
      match Json.ofText? r.text with
      | some j => .ok j
      | none => .error (.invalidResponse "malformed text")
    else .error (.status r.status r.text)

end Reply

end CrashQuery.Backend
