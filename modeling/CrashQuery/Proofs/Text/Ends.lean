import CrashQuery.Text.Blank
import CrashQuery.Text.Numeral
import Mathlib.Data.List.DropRight

/-!
# Texts without blanks at their ends

`trim` leaves a text that begins and ends with no blank (`isTrimmed_trim`), and it leaves such a text
as it is (`trim_eq_self`). Texts without any blanks are of this sort, among them the numerals.
-/

namespace CrashQuery.Text

variable {s : List Char} {c : Char}

/-- Whether a text has no blank at either end. -/
structure IsTrimmed (s : List Char) : Prop where
  /-- It does not begin with a blank. -/
  head : ∀ c ∈ s.head?, isBlank c = false
  /-- It does not end with a blank. -/
  last : ∀ c ∈ s.getLast?, isBlank c = false

/-- Texts without blanks have none at their ends. -/
theorem IsTrimmed.of_forall (h : ∀ c ∈ s, isBlank c = false) : IsTrimmed s where
  head c hc := h c (List.mem_of_mem_head? hc)
  last c hc := h c (List.mem_of_mem_getLast? hc)

/-- A text that does not end with a blank is left by `trimEnd`. -/
theorem trimEnd_eq_self (h : ∀ c ∈ s.getLast?, isBlank c = false) : trimEnd s = s := by
  refine List.rdropWhile_eq_self_iff.2 fun hne => ?_
  rw [h _ (List.getLast?_eq_some_getLast hne)]
  exact Bool.false_ne_true

/-- A text without blanks at its ends is left by `trim`. -/
theorem trim_eq_self (h : IsTrimmed s) : trim s = s := by
  unfold trim
  rw [trimStart_eq_self h.head, trimEnd_eq_self h.last]

/-- Trimming leaves no blanks at the ends. -/
theorem isTrimmed_trim (s : List Char) : IsTrimmed (trim s) where
  head c hc := by
    -- What is cut off at the end does not change the beginning, if anything is left.
    obtain ⟨rest, hrest⟩ : trim s <+: trimStart s := List.rdropWhile_prefix isBlank _
    refine head?_trimStart s c ?_
    rw [← hrest, List.head?_append, Option.mem_def.1 hc]
    rfl
  last c hc := by
    obtain ⟨hne, rfl⟩ := List.mem_getLast?_eq_getLast hc
    exact Bool.eq_false_iff.2 (List.rdropWhile_last_not isBlank (trimStart s) hne)

/-- Trimming adds no characters. -/
theorem mem_of_mem_trim (h : c ∈ trim s) : c ∈ s :=
  (List.dropWhile_sublist _).subset ((List.rdropWhile_prefix isBlank _).subset h)

/-- Digits are not blank. -/
theorem isBlank_of_isDigit (h : c.isDigit = true) : isBlank c = false := by
  simp only [Char.isDigit, Bool.and_eq_true, decide_eq_true_eq, UInt32.le_iff_toNat_le] at h
  have hc : 48 ≤ c.toNat ∧ c.toNat ≤ 57 := h
  unfold isBlank
  rw [Bool.eq_false_iff, ne_eq, Ranges.has_iff]
  rintro ⟨r, hr, hle⟩
  simp only [blanks, List.mem_cons, List.not_mem_nil, or_false] at hr
  rcases hr with rfl | rfl | rfl | rfl | rfl | rfl | rfl | rfl | rfl | rfl <;>
    simp only at hle <;> omega

/-- Numerals have no blanks. -/
theorem isBlank_of_mem_intDigits {i : Int} (h : c ∈ intDigits i) : isBlank c = false := by
  cases i with
  | ofNat n => exact isBlank_of_isDigit (isDigit_of_mem_digits h)
  | negSucc n =>
    rcases List.mem_cons.1 h with rfl | h
    · decide
    · exact isBlank_of_isDigit (isDigit_of_mem_digits h)

end CrashQuery.Text
