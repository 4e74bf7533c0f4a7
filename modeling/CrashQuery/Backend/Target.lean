import CrashQuery.Text.Hex
import CrashQuery.Text.Split
import CrashQuery.Text.Utf8

/-!
# Targets of remote calls

An address over HTTP names a server and, on it, a target: a path and perhaps a query. A path is a
list of segments, in which a single dot stands for nothing and a double dot takes the segment before
it away. What may not stand in a target is written as percent signs and hexadecimal digits.
-/

namespace CrashQuery.Backend.Target

open Text (joinWith percentByte splitFirst? utf8Bytes)

/-- Whether a character is written as it is, apart from those that the part of the target
excludes. -/
def isOpen (excluded : List Char) (c : Char) : Bool :=
  decide (0x20 < c.toNat) && decide (c.toNat < 0x7F) && !excluded.contains c

/-- A text in which excluded characters are written by their bytes. -/
def encode (excluded : List Char) (s : List Char) : List Char :=
  s.flatMap fun c => if isOpen excluded c then [c] else (utf8Bytes [c]).flatMap percentByte

/-- The characters that are excluded from a path. -/
def pathExcluded : List Char := ['"', '<', '>', Char.ofNat 0x60, '#', '?', '\x7b', '\x7d']

/-- The characters that are excluded from a query. -/
def queryExcluded : List Char := ['"', '<', '>', '#', '\'']

/-- Whether a slash of either kind separates segments here. -/
def isSlash (c : Char) : Bool := c = '/' || c = '\\'

/-- The segments of a path. -/
def segments (path : List Char) : List (List Char) :=
  Text.splitAll '/' (path.map fun c => if isSlash c then '/' else c)

/-- A segment with points for their encoded form. -/
def withDots : List Char → List Char
  | '%' :: '2' :: e :: s => if e = 'e' ∨ e = 'E' then '.' :: withDots s else '%' :: '2' :: e :: s
  | '.' :: s => '.' :: withDots s
  | s => s

/-- Takes dots out of segments, of which `before` have been read, the last one first. A path that
ends in dots ends in a slash. -/
def settle (before : List (List Char)) : List (List Char) → List (List Char)
  | [] => before.reverse
  | segment :: rest =>
    let shorter :=
      if withDots segment = ['.'] then some before
      else if withDots segment = ['.', '.'] then some before.tail
      else none
    match shorter with
    | some before => if rest = [] then ([] :: before).reverse else settle before rest
    | none => settle (segment :: before) rest

/-- A path as it is written in a target. -/
def ofPath (path : List Char) : List Char :=
  '/' :: joinWith ['/'] (settle [] ((segments path).map (encode pathExcluded)))

/-- What follows the server in an address, as a target. -/
def ofRest (s : List Char) : List Char :=
  -- What follows a number sign is not sent.
  let s := s.takeWhile fun c => c ≠ '#'
  let (path, query) := match splitFirst? '?' s with
    | some (path, query) => (path, '?' :: encode queryExcluded query)
    | none => (s, [])
  let path := match path with
    | c :: path => if isSlash c then path else c :: path
    | [] => []
  ofPath path ++ query

/-- The server and the target of an address. Tabs and line ends count for nothing. -/
def ofAddress? (address : String) : Option (String × String) :=
  let s := address.toList.filter fun c => c ≠ '\t' ∧ c ≠ '\n' ∧ c ≠ '\r'
  (Text.dropStart? "http://".toList s).map fun s =>
    let inServer := fun c => !(isSlash c || c = '?' || c = '#')
    (String.ofList (s.takeWhile inServer), String.ofList (ofRest (s.dropWhile inServer)))

end CrashQuery.Backend.Target
