import CrashQuery.Text.CaseTable

/-!
# Lower case

The lower-case form of a text: each capital becomes its small letter, a dotted capital I becomes
two characters, and a capital sigma takes its final form at the end of a word.
-/

namespace CrashQuery.Text

/-- The small letter of a character, which is the character itself if it is no capital. -/
def lowerChar (c : Char) : Char :=
  match caseRuns.find? (·.has c.toNat) with
  | some run => Char.ofNat (c.toNat + run.shift).toNat
  | none => c

/-- Whether the first character that is not passed over is a letter with case. -/
def facesLetter (s : List Char) : Bool :=
  match s.dropWhile caseIgnorables.has with
  | c :: _ => casedLetters.has c
  | [] => false

/-- The small sigma between the reversed text before it and the text after it. -/
def lowerSigma (before after : List Char) : Char :=
  if facesLetter before && !facesLetter after then 'ς' else 'σ'

/-- Lower-cases a text of which `before` has been read, last character first. -/
def lowerFrom (before : List Char) : List Char → List Char
  | [] => []
  | c :: rest =>
    let small :=
      if c = 'Σ' then [lowerSigma before rest]
      -- The only capital with more than one small character.
      else if c = 'İ' then ['i', Char.ofNat 0x307]
      else [lowerChar c]
    small ++ lowerFrom (c :: before) rest

/-- The lower-case form of a text. -/
def lower (s : List Char) : List Char := lowerFrom [] s

/-- `lower` on strings. -/
def lowered (s : String) : String := String.ofList (lower s.toList)

/-- The small letter of an ASCII capital, and any other character as it is. -/
def lowerAscii (s : String) : String := String.ofList (s.toList.map Char.toLower)

/-- Whether two texts differ at most in the case of their ASCII letters. -/
def sameIgnoringAsciiCase (a b : String) : Bool := lowerAscii a == lowerAscii b

end CrashQuery.Text
