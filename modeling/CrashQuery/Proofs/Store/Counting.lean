import CrashQuery.Backend.Store
import CrashQuery.Proofs.Entries
import Mathlib.Data.List.Sort

/-!
# The most frequent terms

`Store.IsTop` says what the most frequent terms of a list are, without a word about how they are
found: they are counted right, the more frequent ones come first, and what is left out comes after
them. There is one such list only (`IsTop.unique`), and `isTop_topTerms` says that it is the one
that a store finds: `counts` has an entry for each term (`mem_counts`), sorting brings them in order
(`ordered_mergeSort_counts`), and what is cut off comes last.
-/

namespace CrashQuery.Store

/-- Whether a count stands before another one: the greater first, equal ones by their terms. -/
def Precedes (a b : String × Nat) : Prop := b.2 < a.2 ∨ a.2 = b.2 ∧ a.1 < b.1

/-- Whether a list has the most frequent of some terms with their numbers, so many at most. -/
structure IsTop (terms : List String) (limit : Nat) (top : List (String × Nat)) : Prop where
  /-- What is in the list is a term with the number of its occurrences. -/
  counted : ∀ p ∈ top, p.1 ∈ terms ∧ p.2 = terms.count p.1
  /-- The list is in order, and without repetition. -/
  ordered : top.Pairwise Precedes
  /-- The list is not too long. -/
  length_le : top.length ≤ limit
  /-- A term is left out only when the list is full, and comes after what is in it. -/
  left_out : ∀ t ∈ terms, (∀ p ∈ top, p.1 ≠ t) →
    top.length = limit ∧ ∀ p ∈ top, Precedes p (t, terms.count t)

section Precedes

variable {a b c : String × Nat}

/-- No count stands before itself. -/
theorem not_precedes_self (a : String × Nat) : ¬ Precedes a a := by
  rintro (hlt | ⟨-, hlt⟩)
  · exact Nat.lt_irrefl _ hlt
  · exact String.lt_irrefl _ hlt

instance : Std.Irrefl Precedes := ⟨not_precedes_self⟩

/-- What stands before a count stands before those that this one stands before. -/
theorem Precedes.trans (hab : Precedes a b) (hbc : Precedes b c) : Precedes a c := by
  unfold Precedes at *
  rcases hab with hab | ⟨hab, hab'⟩ <;> rcases hbc with hbc | ⟨hbc, hbc'⟩
  · exact Or.inl (by omega)
  · exact Or.inl (by omega)
  · exact Or.inl (by omega)
  · exact Or.inr ⟨by omega, String.lt_trans hab' hbc'⟩

instance : Std.Antisymm Precedes :=
  ⟨fun a _ hab hba => absurd (hab.trans hba) (not_precedes_self a)⟩

/-- Of two counts one stands before the other, or they are the same. -/
theorem precedes_or_eq_or_precedes (a b : String × Nat) :
    Precedes a b ∨ a = b ∨ Precedes b a := by
  unfold Precedes
  rcases Nat.lt_trichotomy a.2 b.2 with hlt | heq | hgt
  · exact Or.inr (Or.inr (Or.inl hlt))
  · rcases Entries.lt_or_eq_or_lt a.1 b.1 with hlt | hterm | hgt
    · exact Or.inl (Or.inr ⟨heq, hlt⟩)
    · exact Or.inr (Or.inl (Prod.ext hterm heq))
    · exact Or.inr (Or.inr (Or.inr ⟨heq.symm, hgt⟩))
  · exact Or.inl (Or.inl hgt)

/-- The order by which counts are sorted: it puts equal ones beside each other. -/
theorem isBefore_iff : isBefore a b = true ↔ Precedes a b ∨ a = b := by
  unfold isBefore Precedes
  rw [decide_eq_true_eq]
  constructor
  · rintro (hlt | ⟨heq, hlt | hterm⟩)
    · exact Or.inl (Or.inl hlt)
    · exact Or.inl (Or.inr ⟨heq, hlt⟩)
    · exact Or.inr (Prod.ext hterm heq)
  · rintro ((hlt | ⟨heq, hlt⟩) | rfl)
    · exact Or.inl hlt
    · exact Or.inr ⟨heq, Or.inl hlt⟩
    · exact Or.inr ⟨rfl, Or.inr rfl⟩

end Precedes

namespace IsTop

variable {terms : List String} {limit : Nat} {top other : List (String × Nat)}

/-- The counts of one top are those of the other. -/
theorem subset (h : IsTop terms limit top) (hother : IsTop terms limit other) : top ⊆ other := by
  -- A count that the other one leaves out would be one too many in the first one.
  intro p hp
  refine Classical.byContradiction fun hnot => ?_
  have hcounted : ∀ {l}, IsTop terms limit l → ∀ q ∈ l, q = (q.1, terms.count q.1) :=
    fun hl q hq => Prod.ext rfl (hl.counted q hq).2
  obtain ⟨hfull, hafter⟩ := hother.left_out p.1 (h.counted p hp).1 fun q hq heq => hnot <| by
    rw [hcounted h p hp, ← heq, ← hcounted hother q hq]
    exact hq
  rw [← hcounted h p hp] at hafter
  have hsub : other ⊆ top := by
    intro q hq
    refine Classical.byContradiction fun hq' => ?_
    obtain ⟨-, hbefore⟩ := h.left_out q.1 (hother.counted q hq).1 fun r hr heq => hq' <| by
      rw [hcounted hother q hq, ← heq, ← hcounted h r hr]
      exact hr
    rw [← hcounted hother q hq] at hbefore
    exact not_precedes_self p ((hbefore p hp).trans (hafter q hq))
  have hnodup : (p :: other).Nodup := List.nodup_cons.2 ⟨hnot, hother.ordered.nodup⟩
  have hlength : (p :: other).length ≤ top.length :=
    (List.subperm_of_subset hnodup (List.cons_subset.2 ⟨hp, hsub⟩)).length_le
  have hle := h.length_le
  rw [List.length_cons] at hlength
  omega

/-- There is one list of the most frequent terms only. -/
theorem unique (h : IsTop terms limit top) (hother : IsTop terms limit other) : top = other :=
  List.Subset.antisymm_of_pairwise h.ordered hother.ordered (h.subset hother) (hother.subset h)

end IsTop

/-- The counts are sorted by their terms. -/
theorem sorted_counts (terms : List String) : Entries.Sorted (counts terms) := by
  have hfold : ∀ (terms : List String) (m : Entries Nat), Entries.Sorted m →
      Entries.Sorted (terms.foldl (fun m t => Entries.update t 0 (· + 1) m) m) := by
    intro terms
    induction terms with
    | nil => exact fun _ h => h
    | cons t rest ih => exact fun m h => ih _ (Entries.sorted_insert h)
  exact hfold terms [] List.Pairwise.nil

/-- Under each term stands how often it occurs. -/
theorem find?_counts (terms : List String) (t : String) :
    Entries.find? t (counts terms) = if t ∈ terms then some (terms.count t) else none := by
  -- The counts so far are those of the terms before.
  have hfold : ∀ (terms : List String) (m : Entries Nat),
      Entries.find? t (terms.foldl (fun m t => Entries.update t 0 (· + 1) m) m) =
        if t ∈ terms then some ((Entries.find? t m).getD 0 + terms.count t)
        else Entries.find? t m := by
    intro terms
    induction terms with
    | nil => simp
    | cons x rest ih =>
      intro m
      rw [List.foldl_cons, ih, Entries.update, Entries.find?_insert]
      by_cases htx : t = x
      · subst htx
        by_cases hrest : t ∈ rest
        · simp [hrest]
          omega
        · simp [hrest, List.count_eq_zero_of_not_mem hrest]
      · have hcount : (x :: rest).count t = rest.count t :=
          List.count_cons_of_ne fun heq => htx heq.symm
        simp [htx, hcount]
  rw [counts, hfold]
  simp

/-- The counts are the terms with the numbers of their occurrences. -/
theorem mem_counts {terms : List String} {p : String × Nat} :
    p ∈ counts terms ↔ p.1 ∈ terms ∧ p.2 = terms.count p.1 := by
  rw [show p = (p.1, p.2) from rfl, Entries.mem_iff_find? (sorted_counts terms), find?_counts]
  by_cases hmem : p.1 ∈ terms
  · simp [hmem, eq_comm]
  · simp [hmem]

/-- Sorted counts stand before those that follow them, since none occurs twice. -/
theorem ordered_mergeSort_counts (terms : List String) :
    ((counts terms).mergeSort isBefore).Pairwise Precedes := by
  have hle : ((counts terms).mergeSort isBefore).Pairwise fun a b => isBefore a b = true := by
    refine List.pairwise_mergeSort ?_ ?_ _
    · intro a b c hab hbc
      rw [isBefore_iff] at *
      rcases hab with hab | rfl
      · rcases hbc with hbc | rfl
        · exact Or.inl (hab.trans hbc)
        · exact Or.inl hab
      · exact hbc
    · intro a b
      rw [Bool.or_eq_true, isBefore_iff, isBefore_iff]
      rcases precedes_or_eq_or_precedes a b with hab | rfl | hba
      · exact Or.inl (Or.inl hab)
      · exact Or.inl (Or.inr rfl)
      · exact Or.inr (Or.inl hba)
  have hnodup : ((counts terms).mergeSort isBefore).Nodup := by
    refine (List.mergeSort_perm _ _).nodup_iff.2 ((sorted_counts terms).imp ?_)
    rintro a b hlt rfl
    exact String.lt_irrefl _ hlt
  refine (hle.and hnodup).imp ?_
  rintro a b ⟨hab, hne⟩
  exact (isBefore_iff.1 hab).resolve_right hne

/-- What a store finds are the most frequent terms. -/
theorem isTop_topTerms (path : String) (limit : Nat) (docs : List Json) :
    IsTop (termsAt path docs) limit (topTerms path limit docs) := by
  have hordered := ordered_mergeSort_counts (termsAt path docs)
  have hmem : ∀ p, p ∈ (counts (termsAt path docs)).mergeSort isBefore ↔
      p.1 ∈ termsAt path docs ∧ p.2 = (termsAt path docs).count p.1 := by
    intro p
    rw [List.mem_mergeSort, mem_counts]
  unfold topTerms
  refine ⟨fun p hp => (hmem p).1 (List.mem_of_mem_take hp),
    hordered.sublist (List.take_sublist _ _), List.length_take_le _ _, ?_⟩
  intro t ht hnot
  have hin := (hmem (t, (termsAt path docs).count t)).2 ⟨ht, rfl⟩
  rw [← List.take_append_drop limit ((counts (termsAt path docs)).mergeSort isBefore)]
    at hin hordered
  -- It is not in the first part, so it is in the second one.
  have hdrop := (List.mem_append.1 hin).resolve_left fun htake => hnot _ htake rfl
  constructor
  · have hpos := List.length_pos_of_mem hdrop
    rw [List.length_drop] at hpos
    rw [List.length_take]
    omega
  · intro p hp
    exact (List.pairwise_append.1 hordered).2.2 p hp _ hdrop

end CrashQuery.Store
