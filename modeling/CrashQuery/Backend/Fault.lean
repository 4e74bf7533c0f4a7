import CrashQuery.Text.Numeral

/-!
# Backend faults

How a call to the search backend can fail, and the words for it.
-/

namespace CrashQuery

open Text (digits padded)

/-- The failure of a backend call. -/
inductive BackendFault where
  /-- An HTTP status that is not success, with the body of the response. -/
  | status (code : Nat) (body : String)
  /-- No response. -/
  | transport (detail : String)
  /-- A response that cannot be read. -/
  | invalidResponse (detail : String)
  deriving DecidableEq

namespace BackendFault

/-- The failure in words. -/
def message : BackendFault → String
  | .status code body => "backend returned HTTP " ++ toString code ++ ": " ++ body
  | .transport detail => "transport error: " ++ detail
  | .invalidResponse detail => "invalid response: " ++ detail

/-- A time in milliseconds as text: in seconds from a second on, without trailing zeros. -/
def durationText (millis : Nat) : String :=
  if millis = 0 then "0ns"
  else if millis < 1000 then String.ofList (digits millis) ++ "ms"
  else
    let zeros := fun (c : Char) => c = '0'
    let fraction := ((padded '0' 3 (millis % 1000)).reverse.dropWhile zeros).reverse
    let point := if fraction = [] then [] else '.' :: fraction
    String.ofList (digits (millis / 1000) ++ point ++ ['s'])

/-- The failure of a call that took longer than the given milliseconds. -/
def timedOut (millis : Nat) : BackendFault :=
  .transport ("backend call timed out after " ++ durationText millis)

end BackendFault

end CrashQuery
