import CrashQuery.Text.Hex

/-!
# Strings and keys of TOML

Blanks, line ends and comments, the four kinds of strings, and keys with points between their
names. A string in one pair of quotes ends on its line; one in three pairs may have lines, which
end in a line feed however they were written.
-/

namespace CrashQuery.Toml

open Text (hexNumber?)

/-- Whether the character is a tab or no control character. -/
def isPlain (c : Char) : Bool := c = '\t' || (decide (0x20 ≤ c.toNat) && c.toNat != 0x7F)

/-- Whether the character is a blank inside a line. -/
def isGap (c : Char) : Bool := c = ' ' || c = '\t'

/-- The text without the blanks it starts with. -/
def skipGap (s : List Char) : List Char := s.dropWhile isGap

/-- Reads a line end. -/
def lineEnd? : List Char → Option (List Char)
  | '\n' :: s => some s
  | '\r' :: '\n' :: s => some s
  | _ => none

/-- The text without the comment it starts with. -/
def skipComment : List Char → List Char
  | '#' :: s => s.dropWhile isPlain
  | s => s

/-- Reads blanks and a comment up to the end of a line or of the text. -/
def endOfLine? (s : List Char) : Option (List Char) :=
  match skipComment (skipGap s) with
  | [] => some []
  | s => lineEnd? s

/-- The text without the blanks and line ends it starts with. -/
def skipLines : List Char → List Char
  | '\r' :: '\n' :: s => skipLines s
  | c :: s => if isGap c || c = '\n' then skipLines s else c :: s
  | [] => []

/-! ## Strings -/

/-- Reads a character that is escaped by a number of `count` hexadecimal digits. -/
def numbered? (count : Nat) (s : List Char) : Option (Char × List Char) :=
  if s.length < count then none
  else
    (hexNumber? (s.take count)).bind fun n =>
      if n.isValidChar then some (Char.ofNat n, s.drop count) else none

/-- The character that a letter after a backslash stands for. -/
def letterEscape? (c : Char) : Option Char :=
  if c = '"' ∨ c = '\\' then some c
  else if c = 'b' then some '\x08'
  else if c = 'f' then some '\x0c'
  else if c = 'n' then some '\n'
  else if c = 'r' then some '\r'
  else if c = 't' then some '\t'
  else none

/-- Reads an escaped character after its backslash. -/
def escape? : List Char → Option (Char × List Char)
  | 'u' :: s => numbered? 4 s
  | 'U' :: s => numbered? 8 s
  | c :: s => (letterEscape? c).map fun c => (c, s)
  | [] => none

/-- A text that is read on from a character. -/
def after (c : Char) (p : Option (List Char × List Char)) : Option (List Char × List Char) :=
  p.map fun p => (c :: p.1, p.2)

/-- Reads a string up to its closing quote, within `fuel` steps. -/
def basic? : Nat → List Char → Option (List Char × List Char)
  | 0, _ => none
  | _, [] => none
  | _ + 1, '"' :: s => some ([], s)
  | fuel + 1, '\\' :: s =>
    match escape? s with
    | some (c, s) => after c (basic? fuel s)
    | none => none
  | fuel + 1, c :: s => if isPlain c then after c (basic? fuel s) else none

/-- Reads a string without escapes up to its closing quote. -/
def literal? (s : List Char) : Option (List Char × List Char) :=
  let body := fun c => isPlain c && c != '\''
  match s.dropWhile body with
  | '\'' :: rest => some (s.takeWhile body, rest)
  | _ => none

/-- Reads a line end after a backslash, and all blanks and line ends up to the next character. -/
def continuation? (s : List Char) : Option (List Char) := (lineEnd? (skipGap s)).map skipLines

/-- Reads a string of lines up to its three closing quotes, before which it may end in two more
quotes, within `fuel` steps. -/
def lines? (quote : Char) (escapes : Bool) : Nat → List Char → Option (List Char × List Char)
  | 0, _ => none
  | fuel + 1, s =>
    -- Two of five quotes still belong to the string.
    let quotes := (s.take 5).takeWhile (· = quote)
    if 3 ≤ quotes.length then some (quotes.drop 3, s.drop quotes.length)
    else
      match s with
      | [] => none
      | c :: s =>
        if c = '\\' ∧ escapes then
          match continuation? s with
          | some s => lines? quote escapes fuel s
          | none =>
            match escape? s with
            | some (c, s) => after c (lines? quote escapes fuel s)
            | none => none
        else
          match lineEnd? (c :: s) with
          | some s => after '\n' (lines? quote escapes fuel s)
          | none => if isPlain c then after c (lines? quote escapes fuel s) else none

/-- `lines?` after its opening quotes, of which a line end at the start is no part. -/
def linesFrom? (quote : Char) (escapes : Bool) (s : List Char) :
    Option (List Char × List Char) :=
  lines? quote escapes (s.length + 1) ((lineEnd? s).getD s)

/-- Reads a string of any kind. -/
def string? : List Char → Option (List Char × List Char)
  | '"' :: '"' :: '"' :: s => linesFrom? '"' true s
  | '"' :: s => basic? (s.length + 1) s
  | '\'' :: '\'' :: '\'' :: s => linesFrom? '\'' false s
  | '\'' :: s => literal? s
  | _ => none

/-! ## Keys -/

/-- Whether the character may stand in a name without quotes. -/
def isNameChar (c : Char) : Bool := c.isAlphanum || c = '_' || c = '-'

/-- Reads a name, with or without quotes. -/
def name? : List Char → Option (List Char × List Char)
  | '"' :: s => basic? (s.length + 1) s
  | '\'' :: s => literal? s
  | s =>
    let name := s.takeWhile isNameChar
    if name = [] then none else some (name, s.dropWhile isNameChar)

/-- Reads a key with its blanks, within `fuel` names. -/
def keyFrom? : Nat → List Char → Option (List String × List Char)
  | 0, _ => none
  | fuel + 1, s =>
    match name? (skipGap s) with
    | none => none
    | some (name, s) =>
      match skipGap s with
      | '.' :: s => (keyFrom? fuel s).map fun p => (String.ofList name :: p.1, p.2)
      | s => some ([String.ofList name], s)

/-- The most names of a key. -/
def maxNames : Nat := 79

/-- Reads a key with its blanks. -/
def key? (s : List Char) : Option (List String × List Char) := keyFrom? maxNames s

end CrashQuery.Toml
