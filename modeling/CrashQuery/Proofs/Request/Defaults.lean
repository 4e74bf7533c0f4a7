import CrashQuery.Proofs.Window.Bounds

/-!
# The bounds that a request is given

A request without conditions on the date is completed by bounds on it that depend on the present and
on the default width of a window alone: they are appended to its conditions, whatever these are
(`Window.complete_append`), and each of them is a bound (`Window.isDateBound_of_complete`).
-/

namespace CrashQuery

open Calendar Outcome

namespace Condition

variable {now : Instant} {before rest : List Condition}

/-- A condition is merged behind conditions on other fields. -/
theorem merge_append {new : Condition} (h : ∀ c ∈ before, c.name ≠ new.name) :
    merge new (before ++ rest) = before ++ merge new rest := by
  induction before with
  | nil => rfl
  | cons c before ih =>
    have hne : c.isAlike new = false := by
      simp [isAlike, h c List.mem_cons_self]
    rw [List.cons_append, merge, hne, ih fun d hd => h d (List.mem_cons_of_mem _ hd)]
    rfl

/-- A merged condition is the new one or compares a field in the way of an old one. -/
theorem exists_of_mem_merge {c new : Condition} (h : c ∈ merge new rest) :
    c = new ∨ ∃ old ∈ rest,
      c.field = old.field ∧ c.operator = old.operator ∧ c.negated = old.negated := by
  induction rest with
  | nil => exact Or.inl (List.mem_singleton.1 h)
  | cons d rest ih =>
    rw [merge] at h
    split at h
    · rcases List.mem_cons.1 h with rfl | hrest
      · exact Or.inr ⟨d, List.mem_cons_self, rfl, rfl, rfl⟩
      · exact Or.inr ⟨c, List.mem_cons_of_mem _ hrest, rfl, rfl, rfl⟩
    · rcases List.mem_cons.1 h with rfl | hrest
      · exact Or.inr ⟨c, List.mem_cons_self, rfl, rfl, rfl⟩
      · refine (ih hrest).imp_right ?_
        rintro ⟨old, hold, hsame⟩
        exact ⟨old, List.mem_cons_of_mem _ hold, hsame⟩

/-- A raw value of a field comes behind conditions on other fields. -/
theorem addRaw_append {field : Field} {raw : String}
    (h : ∀ c ∈ before, c.name ≠ field.publicName) :
    addRaw now (before ++ rest) field raw = before ++ addRaw now rest field raw := by
  unfold addRaw
  cases hraw : ofRaw? field raw now with
  | none => rfl
  | some new =>
    refine merge_append fun c hc => ?_
    rw [name, name, field_of_ofRaw? hraw]
    exact h c hc

/-- Whether a condition is a bound on the date, of the kind that requests are given. -/
structure IsDateBound (c : Condition) : Prop where
  /-- It is about the date. -/
  name_eq : c.name = Window.dateField
  /-- It is not negated. -/
  negated_eq : c.negated = false
  /-- It is a bound. -/
  operator_eq : c.operator = .atLeast ∨ c.operator = .atMost

end Condition

namespace Window

variable {catalog : Catalog} {options : RequestOptions} {conditions : List Condition}

section Other

variable (h : ∀ c ∈ conditions, c.name ≠ dateField)

include h

/-- Conditions on other fields do not bound the date. -/
theorem bounds_eq_nil (chosen : Operator → Bool) : bounds chosen conditions = [] := by
  have hnone : (conditions.filter fun c => c.name == dateField && !c.negated &&
      chosen c.operator) = [] := by
    rw [List.filter_eq_nil_iff]
    intro c hc
    simp [h c hc]
  unfold bounds
  rw [hnone, List.flatMap_nil]

/-- A bound is added behind conditions on other fields. -/
theorem addBound_append (now : Instant) (operator : Operator) (t : Instant)
    (rest : List Condition) : addBound catalog now operator t (conditions ++ rest) =
      conditions ++ addBound catalog now operator t rest := by
  unfold addBound
  cases hfield : catalog.lookup dateField with
  | none => rfl
  | some field =>
    refine Condition.addRaw_append fun c hc => ?_
    rw [Catalog.publicName_of_lookup hfield]
    exact h c hc

/-- The window does not depend on conditions on other fields, and the bounds that are added come
behind them. -/
theorem complete_append : complete catalog options conditions =
    (complete catalog options []).map fun p => (p.1, conditions ++ p.2) := by
  have hlower : lower? conditions = none := lower?_eq_none_iff.2 (bounds_eq_nil h _)
  have hupper : upper? conditions = none := upper?_eq_none_iff.2 (bounds_eq_nil h _)
  have hnil : lower? [] = none ∧ upper? [] = none := ⟨rfl, rfl⟩
  have hadd : ∀ operator t, addBound catalog options.now operator t conditions =
      conditions ++ addBound catalog options.now operator t [] := by
    intro operator t
    have happend : addBound catalog options.now operator t (conditions ++ []) =
        conditions ++ addBound catalog options.now operator t [] :=
      addBound_append h options.now operator t []
    rwa [List.append_nil] at happend
  rw [complete_eq, complete_eq]
  simp only [hlower, hupper, hnil, Option.isSome_none, Bool.false_eq_true, if_false, hadd,
    addBound_append h]
  split
  · rfl
  · split
    · rfl
    · split
      · rfl
      · split <;> rfl

end Other

/-- Adding a bound to bounds on the date gives bounds on the date. -/
theorem isDateBound_addBound {now t : Instant} {operator : Operator}
    (hoperator : operator = .atLeast ∨ operator = .atMost)
    (h : ∀ c ∈ conditions, c.IsDateBound) :
    ∀ c ∈ addBound catalog now operator t conditions, c.IsDateBound := by
  unfold addBound
  cases hfield : catalog.lookup dateField with
  | none => exact h
  | some field =>
    have hnew : ∀ new, Condition.ofRaw? field
        (operator.glyph ++ Request.temporalText field.kind t) now = some new →
          new.IsDateBound := by
      intro new hnew
      rw [Condition.ofRaw?_bound hoperator] at hnew
      obtain ⟨v, -, rfl⟩ := Option.map_eq_some_iff.1 hnew
      exact ⟨Catalog.publicName_of_lookup hfield, rfl, hoperator⟩
    simp only
    unfold Condition.addRaw
    split
    · next new hraw =>
      intro c hc
      rcases Condition.exists_of_mem_merge hc with rfl | ⟨old, hold, hf, hop, hneg⟩
      · exact hnew c hraw
      · obtain ⟨hname, hnegated, hop'⟩ := h old hold
        refine ⟨?_, hneg.trans hnegated, hop ▸ hop'⟩
        rw [← hname, Condition.name, Condition.name, hf]
    · exact h

/-- What an empty request is given are bounds on the date. -/
theorem isDateBound_of_complete {w : Window} {bounds : List Condition}
    (h : complete catalog options [] = .ok (w, bounds)) : ∀ c ∈ bounds, c.IsDateBound := by
  obtain ⟨-, -, hbounds, -⟩ := parts_of_complete h
  have hupper : ∀ c ∈ addBound catalog options.now .atMost options.now [], c.IsDateBound :=
    isDateBound_addBound (Or.inr rfl) (by simp)
  rw [hbounds]
  exact isDateBound_addBound (Or.inl rfl) hupper

end Window

end CrashQuery
