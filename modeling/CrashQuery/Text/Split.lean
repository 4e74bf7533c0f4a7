/-!
# Cutting texts apart

Splitting at a character, the removal of a beginning or an end, and the lists that callers write
with commas. `splitFirst?_eq_some_iff` says where a text is cut at a character, and `splitAll_ne_nil`
that splitting never gives an empty list.
-/

namespace CrashQuery.Text

/-- The parts before and after the first occurrence of the character, if it occurs. -/
def splitFirst? (sep : Char) : List Char → Option (List Char × List Char)
  | [] => none
  | c :: s =>
    if c = sep then some ([], s)
    else (splitFirst? sep s).map fun p => (c :: p.1, p.2)

/-- The parts between the occurrences of the character. -/
def splitAll (sep : Char) : List Char → List (List Char)
  | [] => [[]]
  | c :: s =>
    if c = sep then [] :: splitAll sep s
    else
      match splitAll sep s with
      | part :: parts => (c :: part) :: parts
      | [] => [[c]]

/-- What follows the given beginning, if the text has it. -/
def dropStart? : List Char → List Char → Option (List Char)
  | [], s => some s
  | _ :: _, [] => none
  | c :: start, d :: s => if c = d then dropStart? start s else none

/-- What precedes the given end, if the text has it. -/
def dropEnd? (ending s : List Char) : Option (List Char) :=
  (dropStart? ending.reverse s.reverse).map List.reverse

/-- `splitFirst?` on strings. -/
def splitOnce? (sep : Char) (s : String) : Option (String × String) :=
  (splitFirst? sep s.toList).map fun p => (String.ofList p.1, String.ofList p.2)

/-- The parts joined by the separator. -/
def joinWith (sep : List Char) : List (List Char) → List Char
  | [] => []
  | [part] => part
  | part :: parts => part ++ sep ++ joinWith sep parts

/-- The two parts with the character between them are the text. -/
theorem eq_append_of_splitFirst? {sep : Char} {s a b : List Char}
    (h : splitFirst? sep s = some (a, b)) : s = a ++ sep :: b := by
  induction s generalizing a with
  | nil => simp [splitFirst?] at h
  | cons c s ih =>
    rw [splitFirst?] at h
    split at h
    · next hc => simp_all
    · obtain ⟨p, hp, he⟩ := Option.map_eq_some_iff.1 h
      obtain ⟨p, q⟩ := p
      simp only [Prod.mk.injEq] at he
      obtain ⟨rfl, rfl⟩ := he
      simp [ih hp]

/-- The part before the first occurrence of a character does not have it. -/
theorem not_mem_of_splitFirst? {sep : Char} {s a b : List Char}
    (h : splitFirst? sep s = some (a, b)) : sep ∉ a := by
  induction s generalizing a with
  | nil => simp [splitFirst?] at h
  | cons c s ih =>
    rw [splitFirst?] at h
    split at h
    · cases h
      simp
    · next hc =>
      obtain ⟨p, hp, he⟩ := Option.map_eq_some_iff.1 h
      cases he
      rw [List.mem_cons, not_or]
      exact ⟨fun hsep => hc hsep.symm, ih hp⟩

/-- A text is split at a character exactly when the character stands between the two parts and not
in the first. -/
theorem splitFirst?_eq_some_iff {sep : Char} {s a b : List Char} :
    splitFirst? sep s = some (a, b) ↔ s = a ++ sep :: b ∧ sep ∉ a := by
  constructor
  · intro h
    exact ⟨eq_append_of_splitFirst? h, not_mem_of_splitFirst? h⟩
  · rintro ⟨rfl, hnot⟩
    induction a with
    | nil => simp [splitFirst?]
    | cons c a ih =>
      obtain ⟨hne, hrest⟩ := not_or.1 (mt List.mem_cons.2 hnot)
      rw [List.cons_append, splitFirst?, if_neg (Ne.symm hne), ih hrest]
      rfl

/-- The beginning and what follows it are the text. -/
theorem eq_append_of_dropStart? {start s rest : List Char}
    (h : dropStart? start s = some rest) : s = start ++ rest := by
  induction start generalizing s with
  | nil => simpa [dropStart?] using h
  | cons c start ih =>
    cases s with
    | nil => simp [dropStart?] at h
    | cons d s =>
      rw [dropStart?] at h
      split at h
      · next hc => simp [hc, ih h]
      · simp at h

/-- Behind a beginning `dropStart?` finds what follows it. -/
@[simp]
theorem dropStart?_append (start rest : List Char) :
    dropStart? start (start ++ rest) = some rest := by
  induction start with
  | nil => rfl
  | cons c start ih => simp [dropStart?, ih]

/-- Splitting gives at least one part. -/
theorem splitAll_ne_nil (sep : Char) (s : List Char) : splitAll sep s ≠ [] := by
  cases s with
  | nil => simp [splitAll]
  | cons c s =>
    rw [splitAll]
    split
    · simp
    · split <;> simp

end CrashQuery.Text
