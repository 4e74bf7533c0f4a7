import CrashQuery.Text.PrintTable

/-!
# Quoted text

A text between double quotes, with quotes, backslashes, line ends and everything that is not
printable escaped. Code points are escaped by their number in lower-case hexadecimal digits.
-/

namespace CrashQuery.Text

/-- Whether the character stands for itself between quotes. -/
def isShown (c : Char) : Bool := !unprintables.has c && !extenders.has c

/-- The escape of a code point: its hexadecimal number between braces. -/
def codePointEscape (c : Char) : List Char :=
  ['\\', 'u', '\x7b'] ++ Nat.toDigits 16 c.toNat ++ ['\x7d']

/-- A character as it is written between quotes. -/
def quoteChar (c : Char) : List Char :=
  if c = '"' then ['\\', '"']
  else if c = '\\' then ['\\', '\\']
  else if c = '\n' then ['\\', 'n']
  else if c = '\r' then ['\\', 'r']
  else if c = '\t' then ['\\', 't']
  else if c = '\x00' then ['\\', '0']
  else if isShown c then [c]
  else codePointEscape c

/-- The text between quotes. -/
def quoted (s : String) : String :=
  String.ofList ('"' :: s.toList.flatMap quoteChar ++ ['"'])

end CrashQuery.Text
