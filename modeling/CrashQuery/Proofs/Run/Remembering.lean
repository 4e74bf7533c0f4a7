import CrashQuery.MissingCache

/-!
# What a cache remembers

A cache is told of names at the times at which they are found missing (`MissingCache.markAll`). At
no later time does it know others than these and those that it would know anyway
(`MissingCache.has_markAll`). If there was room for all of them, it knows exactly those whose
lifetime is not over (`MissingCache.has_markAll_iff`).
-/

namespace CrashQuery.MissingCache

variable {c : MissingCache} {named : List (String × Nat)} {i : String} {t : Nat}

/-- Remembers names at their times, one after the other. -/
def markAll (c : MissingCache) (named : List (String × Nat)) : MissingCache :=
  named.foldl (fun c m => (c.asOf m.2).mark m.1) c

/-- A crowded cache is crowded after any marks. -/
theorem isCrowded_markAll (h : c.isCrowded = true) :
    (c.markAll named).isCrowded = true := by
  induction named generalizing c with
  | nil => exact h
  | cons m rest ih =>
    have hfirst : ((c.asOf m.2).mark m.1).isCrowded = true := isCrowded_mark h
    exact ih hfirst

/-- A cache that has been told of names knows no others than these and those known anyway. -/
theorem has_markAll (h : ((c.markAll named).asOf t).has i = true) :
    i ∈ named.map Prod.fst ∨ (c.asOf t).has i = true := by
  induction named generalizing c with
  | nil => exact Or.inr h
  | cons m rest ih =>
    rw [List.map_cons, List.mem_cons]
    rcases ih (c := (c.asOf m.2).mark m.1) h with hrest | hfirst
    · exact Or.inl (Or.inr hrest)
    · rcases has_mark hfirst with rfl | hbefore
      · exact Or.inl (Or.inl rfl)
      · exact Or.inr hbefore

/-- In a cache that is not crowded a mark is known until its lifetime is over, and every other name
as long as it would be anyway. -/
theorem has_mark_iff {s : Nat} {index : String}
    (hroom : ((c.asOf s).mark index).isCrowded = false) :
    (((c.asOf s).mark index).asOf t).has i = true ↔
      if i = index then (c.asOf t).isExpired s = false else (c.asOf t).has i = true := by
  -- A mark only adds to the names, so that there was room before it.
  have hbefore : (c.asOf t).isCrowded = false := by
    rw [← Bool.not_eq_true] at hroom ⊢
    exact fun hcrowded => hroom (isCrowded_mark hcrowded)
  have hafter : (((c.asOf s).mark index).asOf t).isCrowded = false := hroom
  have hmarks : (((c.asOf s).mark index).asOf t).marks = (index, s) :: c.marks := rfl
  rw [has_iff_of_room hafter, hmarks, List.lookup_cons]
  by_cases hi : i = index
  · subst hi
    rw [beq_self_eq_true, if_pos rfl]
    constructor
    · rintro ⟨marked, hlast, hfresh⟩
      obtain rfl := Option.some.inj hlast
      exact hfresh
    · exact fun hfresh => ⟨s, rfl, hfresh⟩
  · rw [beq_false_of_ne hi, if_neg hi, has_iff_of_room hbefore]
    exact Iff.rfl

/-- A cache that has been told of names in the course of time, and has room for them, knows those
whose lifetime is not over, and besides what it would know anyway. -/
theorem has_markAll_iff (hroom : (c.markAll named).isCrowded = false)
    (htimes : named.Pairwise fun m later => m.2 ≤ later.2)
    (hnew : ∀ m ∈ named, (c.asOf t).has m.1 = true → (c.asOf t).isExpired m.2 = false) :
    ((c.markAll named).asOf t).has i = true ↔
      (c.asOf t).has i = true ∨
        ∃ time, (i, time) ∈ named ∧ (c.asOf t).isExpired time = false := by
  induction named generalizing c with
  | nil => simp [markAll]
  | cons m rest ih =>
    -- The induction goes on from the cache with the first mark.
    obtain ⟨hfirst, hrest⟩ := List.pairwise_cons.1 htimes
    have hwhole : c.markAll (m :: rest) = ((c.asOf m.2).mark m.1).markAll rest := rfl
    rw [hwhole] at hroom ⊢
    have hroom' : ((c.asOf m.2).mark m.1).isCrowded = false := by
      rw [← Bool.not_eq_true] at hroom ⊢
      exact fun hcrowded => hroom (isCrowded_markAll hcrowded)
    -- What the first mark leaves known is not known longer than what is marked later.
    have hnew' : ∀ later ∈ rest, (((c.asOf m.2).mark m.1).asOf t).has later.1 = true →
        (c.asOf t).isExpired later.2 = false := by
      intro later hlater hknown
      rw [has_mark_iff hroom'] at hknown
      split at hknown
      · exact isExpired_of_le (hfirst later hlater) hknown
      · exact hnew later (List.mem_cons_of_mem _ hlater) hknown
    rw [ih hroom hrest hnew', has_mark_iff hroom']
    have hexpired : ∀ time, (((c.asOf m.2).mark m.1).asOf t).isExpired time =
        (c.asOf t).isExpired time := fun _ => rfl
    simp only [hexpired, List.mem_cons]
    by_cases hi : i = m.1
    · subst hi
      rw [if_pos rfl]
      constructor
      · rintro (hfresh | ⟨time, hmem, hfresh⟩)
        · exact Or.inr ⟨m.2, Or.inl rfl, hfresh⟩
        · exact Or.inr ⟨time, Or.inr hmem, hfresh⟩
      · rintro (hknown | ⟨time, hmem | hmem, hfresh⟩)
        · exact Or.inl (hnew m List.mem_cons_self hknown)
        · obtain rfl := (Prod.mk.inj hmem).2
          exact Or.inl hfresh
        · exact Or.inr ⟨time, hmem, hfresh⟩
    · have hother : ∀ time, (i, time) ≠ m := fun time heq => hi (heq ▸ rfl)
      simp only [if_neg hi, hother, false_or]

end CrashQuery.MissingCache
