/-!
# Decimal numerals

Whole numbers as ASCII digits. `readNat?` reads digits and nothing else, so `readNat?_digits` gives
back every number that `digits` writes; the readers of signed and of bounded numbers take an
optional sign first, and `readInt?_intDigits` gives back every integer.
-/

namespace CrashQuery.Text

/-- The decimal digits of a number, without leading zeros. -/
def digits (n : Nat) : List Char := Nat.toDigits 10 n

/-- The digits of a number, filled up on the left to the width. -/
def padded (fill : Char) (width n : Nat) : List Char :=
  List.replicate (width - (digits n).length) fill ++ digits n

/-- The digits of an integer after its sign, if it is negative. -/
def intDigits : Int → List Char
  | .ofNat n => digits n
  | .negSucc n => '-' :: digits (n + 1)

/-- `intDigits` as a string. -/
def intText (i : Int) : String := String.ofList (intDigits i)

/-- The digits at the start of the text, and the rest. -/
def takeDigits (s : List Char) : List Char × List Char :=
  (s.takeWhile Char.isDigit, s.dropWhile Char.isDigit)

/-- The number that one or more digits stand for. -/
def readNat? (s : List Char) : Option Nat :=
  if s ≠ [] ∧ s.all Char.isDigit then some (Nat.ofDigitChars 10 s 0) else none

/-- The integer that digits after an optional sign stand for. -/
def readInt? : List Char → Option Int
  | '+' :: s => (readNat? s).map Int.ofNat
  | '-' :: s => (readNat? s).map fun n => -Int.ofNat n
  | s => (readNat? s).map Int.ofNat

/-- The least integer of 64 bits. -/
def minInt64 : Int := -9223372036854775808

/-- The greatest integer of 64 bits. -/
def maxInt64 : Int := 9223372036854775807

/-- The greatest natural number of 64 bits. -/
def maxWord64 : Nat := 18446744073709551615

/-- Reads a signed integer that fits 64 bits. -/
def readInt64? (s : List Char) : Option Int :=
  (readInt? s).filter fun i => decide (minInt64 ≤ i ∧ i ≤ maxInt64)

/-- Reads a natural number up to `bound`, after an optional plus sign. -/
def readBounded? (bound : Nat) : List Char → Option Nat
  | '+' :: s => (readNat? s).filter (decide <| · ≤ bound)
  | s => (readNat? s).filter (decide <| · ≤ bound)

/-- Reads a natural number of 64 bits. -/
def readWord64? (s : List Char) : Option Nat := readBounded? maxWord64 s

/-- Digits are digits. -/
theorem isDigit_of_mem_digits {n : Nat} {c : Char} (h : c ∈ digits n) : c.isDigit = true :=
  Nat.isDigit_of_mem_toDigits (by decide) (by decide) h

/-- Reading what `digits` writes gives the number back. -/
@[simp]
theorem readNat?_digits (n : Nat) : readNat? (digits n) = some n := by
  have hne : digits n ≠ [] := Nat.toDigits_ne_nil
  have hall : (digits n).all Char.isDigit = true :=
    List.all_eq_true.2 fun _ => isDigit_of_mem_digits
  simp only [readNat?, hne, hall, ne_eq, not_false_eq_true, and_self, if_true]
  exact congrArg some Nat.ofDigitChars_ten_toDigits

/-- Reading what `intDigits` writes gives the integer back. -/
@[simp]
theorem readInt?_intDigits (i : Int) : readInt? (intDigits i) = some i := by
  cases i with
  | ofNat n =>
    have hsign : ∀ c s, digits n = c :: s → c.isDigit = true := fun c s hs =>
      isDigit_of_mem_digits (by rw [hs]; exact List.mem_cons_self)
    show readInt? (digits n) = some (Int.ofNat n)
    unfold readInt?
    split
    · next hs => exact absurd (hsign _ _ hs) (by decide)
    · next hs => exact absurd (hsign _ _ hs) (by decide)
    · rw [readNat?_digits]
      rfl
  | negSucc n =>
    show (readNat? (digits (n + 1))).map (fun n => -Int.ofNat n) = some (Int.negSucc n)
    rw [readNat?_digits]
    rfl

/-- An integer that is read from 64 bits is read again from its digits. -/
theorem readInt64?_intDigits {s : List Char} {i : Int} (h : readInt64? s = some i) :
    readInt64? (intDigits i) = some i := by
  unfold readInt64? at h ⊢
  rw [Option.filter_eq_some_iff] at h
  rw [readInt?_intDigits, Option.filter_eq_some_iff]
  exact ⟨rfl, h.2⟩

end CrashQuery.Text
