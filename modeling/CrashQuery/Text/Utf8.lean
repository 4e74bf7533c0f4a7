/-!
# Texts as bytes

The UTF-8 form of a text, and the reading of bytes that need not be UTF-8: what cannot belong to a
character is replaced. Bytes that begin like a character but break off are replaced together, and
the byte that breaks them off is read anew.
-/

namespace CrashQuery.Text

/-- The UTF-8 form of a text. -/
def utf8Bytes (s : List Char) : List UInt8 := s.flatMap String.utf8EncodeChar

/-- The character that stands for bytes that are no character. -/
def replacementChar : Char := '\uFFFD'

/-- What the first byte of a character says about it. -/
structure Lead where
  /-- Its bits that belong to the character. -/
  bits : Nat
  /-- The number of bytes that follow. -/
  count : Nat
  /-- The least value of the next byte. -/
  low : Nat := 0x80
  /-- The greatest value of the next byte. -/
  high : Nat := 0xBF

/-- Reads the first byte of a character. -/
def Lead.ofByte? (b : Nat) : Option Lead :=
  if b < 0x80 then some { bits := b, count := 0 }
  else if b < 0xC2 then none
  else if b < 0xE0 then some { bits := b - 0xC0, count := 1 }
  else if b = 0xE0 then some { bits := 0, count := 2, low := 0xA0 }
  else if b = 0xED then some { bits := 0xD, count := 2, high := 0x9F }
  else if b < 0xF0 then some { bits := b - 0xE0, count := 2 }
  else if b = 0xF0 then some { bits := 0, count := 3, low := 0x90 }
  else if b < 0xF4 then some { bits := b - 0xF0, count := 3 }
  else if b = 0xF4 then some { bits := 4, count := 3, high := 0x8F }
  else none

/-- Reads `count` more bytes of a character, of which the first lies between the bounds; gives the
code point, unless they break off, and the bytes that are left. -/
def readTail (low high : Nat) : Nat → Nat → List UInt8 → Option Nat × List UInt8
  | 0, bits, bs => (some bits, bs)
  | _ + 1, _, [] => (none, [])
  | count + 1, bits, b :: bs =>
    if low ≤ b.toNat ∧ b.toNat ≤ high then
      readTail 0x80 0xBF count (bits * 64 + b.toNat % 64) bs
    else (none, b :: bs)

/-- Reading a character leaves no more bytes than there were. -/
theorem length_readTail_le (low high count bits : Nat) (bs : List UInt8) :
    (readTail low high count bits bs).2.length ≤ bs.length := by
  fun_induction readTail low high count bits bs with
  | case1 => simp
  | case2 => simp
  | case3 _ _ _ _ _ _ _ ih => simp only [List.length_cons]; omega
  | case4 => simp

/-- The first character of some bytes, and the bytes after it. -/
def decodeOne (b : UInt8) (bs : List UInt8) : Char × List UInt8 :=
  match Lead.ofByte? b.toNat with
  | none => (replacementChar, bs)
  | some lead =>
    -- Broken bytes are replaced as one; what breaks them off is left in the rest.
    let (point, rest) := readTail lead.low lead.high lead.count lead.bits bs
    ((point.map Char.ofNat).getD replacementChar, rest)

/-- The bytes after the first character are no more than those after its first byte. -/
theorem length_decodeOne_le (b : UInt8) (bs : List UInt8) :
    (decodeOne b bs).2.length ≤ bs.length := by
  unfold decodeOne
  split
  · exact Nat.le_refl _
  · exact length_readTail_le _ _ _ _ _

/-- The text that bytes stand for, with replacements where they are not UTF-8. -/
def decodeBytes : List UInt8 → List Char
  | [] => []
  | b :: bs => (decodeOne b bs).1 :: decodeBytes (decodeOne b bs).2
termination_by bs => bs.length
decreasing_by
  have := length_decodeOne_le b bs
  simp only [List.length_cons]
  omega

end CrashQuery.Text
