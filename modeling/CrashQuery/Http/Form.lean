import CrashQuery.Text.Hex
import CrashQuery.Text.Split
import CrashQuery.Text.Utf8

/-!
# Queries of a target

A query is a list of pairs between ampersands, each a name and a value around the first equals
sign. In both a plus sign stands for a space, and a percent sign before two hexadecimal digits for
a byte. `queryPairs` reads a query and `queryText` writes one.
-/

namespace CrashQuery.Http

open Text (decodeBytes hexByte? percentByte splitAll splitFirst? utf8Bytes)

/-- Replaces each percent sign before two hexadecimal digits by their byte. -/
def percentDecode : List UInt8 → List UInt8
  | 0x25 :: high :: low :: bs =>
    match hexByte? high low with
    | some b => b :: percentDecode bs
    | none => 0x25 :: percentDecode (high :: low :: bs)
  | b :: bs => b :: percentDecode bs
  | [] => []

/-- The text that a name or a value stands for. -/
def decodePart (part : List Char) : String :=
  let spaced := part.map fun c => if c = '+' then ' ' else c
  String.ofList (decodeBytes (percentDecode (utf8Bytes spaced)))

/-- The name and the value in a part of a query; without an equals sign the value is empty. -/
def pairOf (part : List Char) : String × String :=
  let (name, value) := (splitFirst? '=' part).getD (part, [])
  (decodePart name, decodePart value)

/-- The pairs of a query in order. -/
def queryPairs (query : List Char) : List (String × String) :=
  ((splitAll '&' query).filter fun part => !part.isEmpty).map pairOf

/-- Whether a byte of a name or a value is written as it is. -/
def isOpen (b : UInt8) : Bool :=
  let c := Char.ofNat b.toNat
  c.isAlphanum || c = '*' || c = '-' || c = '.' || c = '_'

/-- A byte of a name or a value as it is written. -/
def encodeByte (b : UInt8) : List Char :=
  if isOpen b then [Char.ofNat b.toNat]
  else if b = 0x20 then ['+']
  else percentByte b

/-- A name or a value as it is written. -/
def encodePart (text : String) : List Char := (utf8Bytes text.toList).flatMap encodeByte

/-- Pairs as a query. -/
def queryText (pairs : List (String × String)) : List Char :=
  Text.joinWith ['&'] (pairs.map fun p => encodePart p.1 ++ '=' :: encodePart p.2)

end CrashQuery.Http
