import CrashQuery.Proofs.Request.Parameter

/-!
# The conditions of a request

The conditions of a request begin as none, and raw values of fields of the catalog are added to
them one after the other: those of its parameters, and then the bounds that its window was missing.
So they have every property that no added value takes away (`Request.conditions_induction`). One of
these is that just the conditions that ask for absence have no values (`Condition.IsFilled`); it is
kept where version keys are taken out of the conditions, since those that have lost all their values
are dropped (`Request.isFilled_remaining`).
-/

namespace CrashQuery

open Calendar

namespace Request

variable {catalog : Catalog} {p : List Condition → Prop}

/-- Raw values are those of the field that the catalog has for its name. -/
theorem lookup_of_mem_fieldValues {raw : RawRequest} {e : Field × String}
    (he : e ∈ fieldValues catalog raw) : catalog.lookup e.1.publicName = some e.1 := by
  obtain ⟨⟨key, values⟩, -, he⟩ := List.mem_flatMap.1 he
  simp only at he
  split at he
  · cases he
  · split at he
    · next f hf =>
      obtain ⟨value, -, rfl⟩ := List.mem_map.1 he
      rw [Catalog.publicName_of_lookup hf]
      exact hf
    · cases he

/-- What holds without conditions, and is kept by adding a raw value of a field of the catalog,
holds of the conditions that the parameters give. -/
theorem conditionsOf_induction {now : Instant} {raw : RawRequest} (hnil : p [])
    (hadd : ∀ conditions f value, catalog.lookup f.publicName = some f → p conditions →
      p (Condition.addRaw now conditions f value)) : p (conditionsOf catalog now raw) := by
  unfold conditionsOf
  exact List.foldlRecOn _ _ hnil fun conditions hp e he =>
    hadd conditions e.1 e.2 (lookup_of_mem_fieldValues he) hp

/-- What holds of the conditions before a window is completed, and is kept by adding a raw value of
the date, holds of those after it. -/
theorem complete_induction {options : RequestOptions} {conditions completed : List Condition}
    {window : Window} (h : Window.complete catalog options conditions = .ok (window, completed))
    (hgiven : p conditions)
    (hadd : ∀ conditions f value, catalog.lookup Window.dateField = some f → p conditions →
      p (Condition.addRaw options.now conditions f value)) : p completed := by
  have hbound : ∀ operator t conditions, p conditions →
      p (Window.addBound catalog options.now operator t conditions) := by
    intro operator t conditions hp
    unfold Window.addBound
    split
    · next f hf => exact hadd conditions f _ hf hp
    · exact hp
  obtain ⟨-, -, hcompleted, -⟩ := Window.parts_of_complete h
  rw [hcompleted]
  -- Each of the two bounds may have been given already.
  simp only
  split <;> split
  · exact hgiven
  · exact hbound _ _ _ hgiven
  · exact hbound _ _ _ hgiven
  · exact hbound _ _ _ (hbound _ _ _ hgiven)

/-- What holds without conditions, and is kept by adding a raw value of a field of the catalog,
holds of the conditions of a request. -/
theorem conditions_induction {options : RequestOptions} {raw : RawRequest} {r : Request}
    (h : ofRaw catalog options raw = .ok r) (hnil : p [])
    (hadd : ∀ conditions f value, catalog.lookup f.publicName = some f → p conditions →
      p (Condition.addRaw options.now conditions f value)) : p r.conditions := by
  refine complete_induction (complete_of_ofRaw h) (conditionsOf_induction hnil hadd) ?_
  intro conditions f value hf
  refine hadd conditions f value ?_
  rw [Catalog.publicName_of_lookup hf]
  exact hf

end Request

namespace Condition

/-- A condition after a raw value is added is on the field of the value or on that of a condition
before. -/
theorem field_of_mem_addRaw {conditions : List Condition} {f : Field} {value : String}
    {now : Instant} {c : Condition} (h : c ∈ addRaw now conditions f value) :
    c.field = f ∨ ∃ old ∈ conditions, c.field = old.field := by
  unfold addRaw at h
  split at h
  · next new hnew =>
    rcases exists_of_mem_merge h with rfl | ⟨old, hold, hfield, -⟩
    · exact Or.inl (field_of_ofRaw? hnew)
    · exact Or.inr ⟨old, hold, hfield⟩
  · exact Or.inr ⟨c, h, rfl⟩

/-- Whether just a condition that asks for absence has no values. -/
def IsFilled (c : Condition) : Prop := c.values = [] ↔ c.operator = .isNull

variable {c new : Condition} {conditions : List Condition}

/-- Nothing is merged only where there are no values on either side. -/
theorem mergeValues_eq_nil_iff {values new : List String} :
    mergeValues values new = [] ↔ values = [] ∧ new = [] := by
  simp only [List.eq_nil_iff_forall_not_mem, mem_mergeValues, not_or, forall_and]

/-- A raw value gives a condition with its value, unless it asks for absence. -/
theorem isFilled_of_ofRaw? {f : Field} {raw : String} {now : Instant}
    (h : ofRaw? f raw now = some c) : c.IsFilled := by
  obtain ⟨-, ⟨hnull, hvalues⟩ | ⟨hnull, v, hvalues⟩⟩ := eq_of_ofRaw? h
  · exact iff_of_true hvalues hnull
  · refine iff_of_false ?_ hnull
    rw [hvalues]
    exact List.cons_ne_nil v []

/-- Merged conditions are filled if those before them and the new one are. -/
theorem isFilled_merge (hnew : new.IsFilled) (h : ∀ c ∈ conditions, c.IsFilled) :
    ∀ c ∈ merge new conditions, c.IsFilled := by
  induction conditions with
  | nil =>
    intro c hc
    rw [List.mem_singleton.1 hc]
    exact hnew
  | cons first rest ih =>
    have hrest : ∀ c ∈ rest, c.IsFilled := fun c hc => h c (List.mem_cons_of_mem _ hc)
    have hfirst : first.IsFilled := h first List.mem_cons_self
    rw [merge]
    split
    · next halike =>
      -- Conditions that are alike ask for absence both or neither.
      have hoperator : first.operator = new.operator := by
        simp only [isAlike, Bool.and_eq_true, beq_iff_eq] at halike
        exact halike.1.2
      have hmerged : ({ first with values := mergeValues first.values new.values } :
          Condition).IsFilled := by
        unfold IsFilled at hfirst hnew ⊢
        rw [mergeValues_eq_nil_iff, hfirst, hnew, hoperator, and_self_iff]
      intro c hc
      rcases List.mem_cons.1 hc with rfl | hc
      · exact hmerged
      · exact hrest c hc
    · intro c hc
      rcases List.mem_cons.1 hc with rfl | hc
      · exact hfirst
      · exact ih hrest c hc

/-- Adding a raw value keeps the conditions filled. -/
theorem isFilled_addRaw {now : Instant} {f : Field} {raw : String}
    (h : ∀ c ∈ conditions, c.IsFilled) : ∀ c ∈ addRaw now conditions f raw, c.IsFilled := by
  unfold addRaw
  split
  · next new hnew => exact isFilled_merge (isFilled_of_ofRaw? hnew) h
  · exact h

end Condition

namespace Request

variable {catalog : Catalog} {options : RequestOptions} {raw : RawRequest} {r : Request}

/-- Just the conditions of a request that ask for absence have no values. -/
theorem isFilled_of_ofRaw (h : ofRaw catalog options raw = .ok r) :
    ∀ c ∈ r.conditions, c.IsFilled :=
  conditions_induction (p := fun conditions => ∀ c ∈ conditions, c.IsFilled) h (by simp)
    fun _ _ _ _ => Condition.isFilled_addRaw

/-- That is still so when version keys have been taken out of them. -/
theorem isFilled_remaining (h : ofRaw catalog options raw = .ok r) :
    ∀ c ∈ VersionRule.remaining r.conditions, c.IsFilled := by
  intro e he
  obtain ⟨c, hc, rfl, hleft⟩ := VersionRule.mem_remaining.1 he
  have hfilled : c.IsFilled := isFilled_of_ofRaw h c hc
  cases htakes : VersionRule.takesKeys c with
  | false => rwa [VersionRule.withoutKeys_of_not_takesKeys htakes]
  | true =>
    obtain ⟨-, -, hoperator⟩ := VersionRule.takesKeys_iff.1 htakes
    obtain ⟨v, hv, hplain⟩ := (VersionRule.isLeft_withoutKeys_iff htakes).1 hleft
    have hmem : v ∈ (VersionRule.withoutKeys c).values := by
      simp only [VersionRule.withoutKeys, htakes, if_true]
      exact List.mem_filter.2 ⟨hv, by rw [hplain]; rfl⟩
    have hsame : (VersionRule.withoutKeys c).operator = c.operator := by
      simp only [VersionRule.withoutKeys, htakes, if_true]
    refine iff_of_false (List.ne_nil_of_mem hmem) ?_
    rw [hsame]
    rcases hoperator with hop | hop <;> rw [hop] <;> decide

end Request

end CrashQuery
