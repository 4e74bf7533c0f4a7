import CrashQuery.Json.Reader
import CrashQuery.Json.Writer

/-!
# Strings that are read back

A character of a string is written as it is or as an escape (`stringChar_cases`), and only strings
without escaped characters stand for themselves (`flatMap_stringChar_eq_self_iff`). Whatever follows
its closing quote, a written string is read back as it was (`Reader.string?_flatMap_stringChar`), as
a value (`Reader.value?_stringChars`) and as a key (`Reader.fields?_stringChars_comma`,
`Reader.fields?_stringChars_end`).
-/

namespace CrashQuery.Json

open Reader (shortEscape?)
open Text (hexNumber?)

variable {c : Char} {s : List Char}

/-- Whether a character stands in a string as it is: it is no quote, no backslash and no control
character. -/
def IsUnescaped (c : Char) : Prop := c ≠ '"' ∧ c ≠ '\\' ∧ 0x20 ≤ c.toNat

instance : DecidablePred IsUnescaped := fun c =>
  inferInstanceAs (Decidable (c ≠ '"' ∧ c ≠ '\\' ∧ 0x20 ≤ c.toNat))

/-- The escape of a character by its number. -/
def numberedEscape (c : Char) : List Char :=
  ['\\', 'u', '0', '0', Nat.digitChar (c.toNat / 16), Nat.digitChar (c.toNat % 16)]

/-- A character is written as it is, with a letter that stands for it, or with its number. -/
theorem stringChar_cases (c : Char) :
    (IsUnescaped c ∧ stringChar c = [c]) ∨
      (¬IsUnescaped c ∧ ∃ letter, letter ≠ 'u' ∧ shortEscape? letter = some c ∧
        stringChar c = ['\\', letter]) ∨
      (¬IsUnescaped c ∧ c.toNat < 0x20 ∧ stringChar c = numberedEscape c) := by
  by_cases hshort : c ∈ ['"', '\\', '\n', '\r', '\t', '\x08', '\x0c']
  · refine Or.inr (Or.inl ?_)
    simp only [List.mem_cons, List.not_mem_nil, or_false] at hshort
    rcases hshort with rfl | rfl | rfl | rfl | rfl | rfl | rfl <;>
      exact ⟨by decide, _, by decide, by decide, rfl⟩
  · simp only [List.mem_cons, List.not_mem_nil, or_false, not_or] at hshort
    obtain ⟨hquote, hslash, hline, hreturn, htab, hback, hfeed⟩ := hshort
    unfold stringChar
    rw [if_neg hquote, if_neg hslash, if_neg hline, if_neg hreturn, if_neg htab, if_neg hback,
      if_neg hfeed]
    by_cases hcontrol : c.toNat < 0x20
    · exact Or.inr (Or.inr ⟨fun h => Nat.not_lt.2 h.2.2 hcontrol, hcontrol, if_pos hcontrol⟩)
    · exact Or.inl ⟨⟨hquote, hslash, Nat.not_lt.1 hcontrol⟩, if_neg hcontrol⟩

/-- An escape is longer than its character. -/
theorem length_stringChar (c : Char) :
    1 ≤ (stringChar c).length ∧ (¬IsUnescaped c → 2 ≤ (stringChar c).length) := by
  rcases stringChar_cases c with ⟨hplain, hc⟩ | ⟨-, letter, -, -, hc⟩ | ⟨-, -, hc⟩
  · simp [hc, hplain]
  · simp [hc]
  · simp [hc, numberedEscape]

/-- Nothing is written shorter than it is. -/
theorem length_le_flatMap_stringChar (s : List Char) :
    s.length ≤ (s.flatMap stringChar).length := by
  induction s with
  | nil => simp
  | cons c s ih =>
    have hc := (length_stringChar c).1
    rw [List.flatMap_cons, List.length_append, List.length_cons]
    omega

/-- A text is written as it is exactly when each of its characters is. -/
theorem flatMap_stringChar_eq_self_iff :
    s.flatMap stringChar = s ↔ ∀ c ∈ s, IsUnescaped c := by
  induction s with
  | nil => simp
  | cons c s ih =>
    rw [List.flatMap_cons, List.forall_mem_cons]
    by_cases hplain : IsUnescaped c
    · have hc : stringChar c = [c] := by
        rcases stringChar_cases c with ⟨-, hc⟩ | ⟨hescaped, -⟩ | ⟨hescaped, -⟩
        · exact hc
        · exact absurd hplain hescaped
        · exact absurd hplain hescaped
      simp [hc, hplain, ih]
    · refine iff_of_false (fun heq => ?_) fun hall => hplain hall.1
      have hlonger := congrArg List.length heq
      have hescape := (length_stringChar c).2 hplain
      have hrest := length_le_flatMap_stringChar s
      rw [List.length_append, List.length_cons] at hlonger
      omega

namespace Reader

/-- Whether an element of a string stands for a character. -/
def Element.Spells (e : Element) (c : Char) : Prop :=
  e = .char c ∨ e = .unit c.toNat ∧ c.toNat < 0x20

/-- The last two digits of the escape of a control character are those of its number. -/
theorem hexNumber?_control : ∀ n < 0x20,
    hexNumber? ['0', '0', Nat.digitChar (n / 16), Nat.digitChar (n % 16)] = some n := by
  decide

/-- A written character is read as an element that stands for it. -/
theorem exists_elements?_stringChar (c : Char) : ∃ e : Element, e.Spells c ∧
    ∀ s, elements? (stringChar c ++ s) = (elements? s).map fun p => (e :: p.1, p.2) := by
  rcases stringChar_cases c with ⟨⟨hquote, hslash, hcontrol⟩, hc⟩ | ⟨-, letter, hletter, hshort, hc⟩ |
    ⟨-, hcontrol, hc⟩
  · refine ⟨.char c, Or.inl rfl, fun s => ?_⟩
    rw [hc, List.singleton_append, elements?]
    · rw [if_neg (by simp [hslash, hcontrol])]
      cases elements? s <;> rfl
    · exact hquote
    · rintro _ _ _ _ _ rfl
      exact fun _ => hslash rfl
    · rintro _ _ rfl
      exact fun _ => hslash rfl
  · refine ⟨.char c, Or.inl rfl, fun s => ?_⟩
    rw [hc, List.cons_append, List.singleton_append, elements?]
    · rw [hshort]
      cases elements? s <;> rfl
    · rintro _ _ _ _ _ rfl
      exact fun _ => hletter rfl
  · refine ⟨.unit c.toNat, Or.inr ⟨rfl, hcontrol⟩, fun s => ?_⟩
    rw [hc]
    show elements? ('\\' :: 'u' :: '0' :: '0' :: _ :: _ :: s) = _
    rw [elements?, hexNumber?_control _ hcontrol]
    cases elements? s <;> rfl

/-- The elements that stand for characters are put together to them. -/
theorem assemble?_cons {e : Element} (h : e.Spells c) (es : List Element) :
    assemble? (e :: es) = (assemble? es).map (c :: ·) := by
  rcases h with rfl | ⟨rfl, hcontrol⟩
  · rw [assemble?]
  · -- A control character is no half of a surrogate pair.
    have hlead : isLead c.toNat = false := by
      simp only [isLead, decide_eq_false_iff_not]
      omega
    have htrail : isTrail c.toNat = false := by
      simp only [isTrail, decide_eq_false_iff_not]
      omega
    cases es with
    | nil => simp [assemble?, hlead, htrail]
    | cons e es => cases e <;> simp [assemble?, hlead, htrail]

/-- A written string is read back as it was, whatever follows it. -/
theorem string?_flatMap_stringChar (s rest : List Char) :
    string? (s.flatMap stringChar ++ '"' :: rest) = some (some (String.ofList s), rest) := by
  have helements : ∃ es, elements? (s.flatMap stringChar ++ '"' :: rest) = some (es, rest) ∧
      assemble? es = some s := by
    induction s with
    | nil => exact ⟨[], by rw [List.flatMap_nil, List.nil_append, elements?], by rw [assemble?]⟩
    | cons c s ih =>
      obtain ⟨es, hread, hassemble⟩ := ih
      obtain ⟨e, hspells, he⟩ := exists_elements?_stringChar c
      refine ⟨e :: es, ?_, ?_⟩
      · rw [List.flatMap_cons, List.append_assoc, he, hread]
        rfl
      · rw [assemble?_cons hspells, hassemble]
        rfl
  obtain ⟨es, hread, hassemble⟩ := helements
  unfold string?
  rw [hread, Option.map_some, hassemble]
  rfl

section Value

variable {text key : String} {value : Written} {fuel : Nat} {rest : List Char}

/-- A written string begins with a quote, before which there are no blanks. -/
theorem skipGap_stringChars (text : String) (rest : List Char) :
    skipGap (stringChars text ++ rest) =
      '"' :: (text.toList.flatMap stringChar ++ '"' :: rest) := by
  have happend : stringChars text ++ rest =
      '"' :: (text.toList.flatMap stringChar ++ '"' :: rest) := by
    simp [stringChars]
  rw [happend]
  rfl

/-- A written string is read as a value. -/
theorem value?_stringChars (text : String) (fuel : Nat) (rest : List Char) :
    value? (fuel + 1) (stringChars text ++ rest) = some (.text (some text), rest) := by
  rw [value?, skipGap_stringChars]
  simp only [string?_flatMap_stringChar, String.ofList_toList, Option.map_some]

/-- An object is read field by field if it has fields. -/
theorem value?_record (key : String) (fuel : Nat) (s : List Char) :
    value? (fuel + 1) ('\x7b' :: (stringChars key ++ s)) =
      (fields? fuel (stringChars key ++ s)).map fun p => (.record p.1, p.2) := rfl

/-- A field with another one behind it. -/
theorem fields?_stringChars_comma (h : value? fuel s = some (value, ',' :: rest)) :
    fields? (fuel + 1) (stringChars key ++ ':' :: s) =
      (fields? fuel rest).map fun p => ((some key, value) :: p.1, p.2) := by
  have hcolon : skipGap (':' :: s) = ':' :: s := rfl
  have hcomma : skipGap (',' :: rest) = ',' :: rest := rfl
  rw [fields?, skipGap_stringChars]
  simp only [string?_flatMap_stringChar, String.ofList_toList, hcolon, h, hcomma]

/-- The last field of an object. -/
theorem fields?_stringChars_end (h : value? fuel s = some (value, '\x7d' :: rest)) :
    fields? (fuel + 1) (stringChars key ++ ':' :: s) = some ([(some key, value)], rest) := by
  have hcolon : skipGap (':' :: s) = ':' :: s := rfl
  have hbrace : skipGap ('\x7d' :: rest) = '\x7d' :: rest := rfl
  rw [fields?, skipGap_stringChars]
  simp only [string?_flatMap_stringChar, String.ofList_toList, hcolon, h, hbrace]

end Value

end Reader

end CrashQuery.Json
