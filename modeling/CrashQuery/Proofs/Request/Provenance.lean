import CrashQuery.Proofs.Request.Grouping

/-!
# Where the values of a request come from

A condition of a request is a group of entries, so each of its values is that of an entry with the
same field, operator and negation. An entry is there for a raw value of the request or for a bound
that its window was missing: a value is coerced either from an operand of the request
(`Condition.HasOperand`) or from the text of such a bound (`Condition.IsBound`), and no value comes
from anywhere else (`Request.exists_operand_or_isBound`).
-/

namespace CrashQuery

open Calendar Condition

namespace Condition

variable {entries : List Condition} {g e : Condition} {v : String}

/-- The values of a group are those of the entries with its key. -/
theorem exists_of_mem_values_grouped (h : g ∈ grouped entries) (hv : v ∈ g.values) :
    ∃ e ∈ entries, e.key = g.key ∧ v ∈ e.values := by
  obtain ⟨k, -, hg⟩ := List.mem_filterMap.1 h
  have hkey := key_of_groupOf? hg
  obtain ⟨first, -, rfl⟩ := Option.map_eq_some_iff.1 hg
  obtain ⟨e, he, hvalue⟩ := List.mem_flatMap.1 (List.mem_eraseDups.1 hv)
  obtain ⟨hmem, hsame⟩ := List.mem_filter.1 he
  exact ⟨e, hmem, (beq_iff_eq.1 hsame).trans hkey.symm, hvalue⟩

/-- The field of a group is that of one of the entries with its key. -/
theorem exists_of_mem_grouped (h : g ∈ grouped entries) :
    ∃ e ∈ entries, e.key = g.key ∧ e.field = g.field := by
  obtain ⟨k, -, hg⟩ := List.mem_filterMap.1 h
  have hkey := key_of_groupOf? hg
  obtain ⟨first, hfirst, rfl⟩ := Option.map_eq_some_iff.1 hg
  exact ⟨first, List.mem_of_find?_eq_some hfirst, rfl, rfl⟩

/-- A raw value has an entry with its negation and operator, whose values are coerced from its
operand. -/
theorem parts_of_ofRaw? {f : Field} {raw : String} {now : Instant} (h : ofRaw? f raw now = some e) :
    e.field = f ∧ Comparison.ofText raw = ⟨e.negated, e.operator, (Comparison.ofText raw).operand⟩ ∧
      ∀ v ∈ e.values,
        Request.coerce f.kind e.operator (Comparison.ofText raw).operand now = some v := by
  simp only [ofRaw?] at h
  split at h
  · next hnull =>
    rw [← Option.some.inj h, ← hnull]
    exact ⟨rfl, rfl, by simp⟩
  · obtain ⟨v, hv, rfl⟩ := Option.map_eq_some_iff.1 h
    refine ⟨rfl, rfl, fun w hw => ?_⟩
    rw [List.mem_singleton.1 hw]
    exact hv

/-- Whether a request has an operand for a condition: a raw value of the field of the condition
negates as the condition does, and has its operator before the operand. -/
def HasOperand (catalog : Catalog) (raw : RawRequest) (c : Condition) (operand : List Char) : Prop :=
  ∃ text, (c.field, text) ∈ Request.fieldValues catalog raw ∧
    Comparison.ofText text = ⟨c.negated, c.operator, operand⟩

/-- Whether a value is that of a bound which a window was missing: the present from above, or the
beginning of the window from below. -/
structure IsBound (catalog : Catalog) (now : Instant) (window : Window) (c : Condition)
    (v : String) : Prop where
  /-- The condition is on the date. -/
  field : catalog.lookup Window.dateField = some c.field
  /-- It is not negated. -/
  negated : c.negated = false
  /-- The text of the bound is coerced into the value. -/
  coerced : ∃ t, (c.operator = .atMost ∧ t = now ∨ c.operator = .atLeast ∧ t = window.first) ∧
    Request.coerce c.field.kind c.operator (Request.temporalText c.field.kind t).toList now = some v

end Condition

/-- A bound has an entry on the field of the date, with its value. -/
theorem Window.isBound_of_bound? {catalog : Catalog} {now t : Instant} {window : Window}
    {operator : Operator} {e : Condition} {v : String}
    (ht : operator = .atMost ∧ t = now ∨ operator = .atLeast ∧ t = window.first)
    (h : bound? catalog now operator t = some e) (hv : v ∈ e.values) :
    e.IsBound catalog now window v := by
  obtain ⟨f, hf, he⟩ := Option.bind_eq_some_iff.1 h
  obtain ⟨w, hw, rfl⟩ := Option.map_eq_some_iff.1 he
  rw [List.mem_singleton] at hv
  subst hv
  exact ⟨hf, rfl, t, ht, hw⟩

/-- The entries for missing bounds are bounds. -/
theorem Window.isBound_of_mem_missingBounds {catalog : Catalog} {options : RequestOptions}
    {window : Window} {conditions : List Condition} {e : Condition} {v : String}
    (h : e ∈ missingBounds catalog options window conditions) (hv : v ∈ e.values) :
    e.IsBound catalog options.now window v := by
  unfold missingBounds at h
  rcases List.mem_append.1 h with h | h
  · split at h
    · cases h
    · exact isBound_of_bound? (Or.inl ⟨rfl, rfl⟩) (Option.mem_toList.1 h) hv
  · split at h
    · cases h
    · exact isBound_of_bound? (Or.inr ⟨rfl, rfl⟩) (Option.mem_toList.1 h) hv

/-- The entries for missing bounds are on the field that the catalog has for their name. -/
theorem Window.lookup_of_mem_missingBounds {catalog : Catalog} {options : RequestOptions}
    {window : Window} {conditions : List Condition} {e : Condition}
    (h : e ∈ missingBounds catalog options window conditions) :
    catalog.lookup e.name = some e.field := by
  have hbound : ∀ operator t, bound? catalog options.now operator t = some e →
      catalog.lookup e.name = some e.field := by
    intro operator t hsome
    obtain ⟨f, hf, he⟩ := Option.bind_eq_some_iff.1 hsome
    obtain ⟨w, -, rfl⟩ := Option.map_eq_some_iff.1 he
    show catalog.lookup f.publicName = some f
    rw [Catalog.publicName_of_lookup hf]
    exact hf
  unfold missingBounds at h
  rcases List.mem_append.1 h with h | h
  · split at h
    · cases h
    · exact hbound _ _ (Option.mem_toList.1 h)
  · split at h
    · cases h
    · exact hbound _ _ (Option.mem_toList.1 h)

namespace Request

variable {catalog : Catalog} {options : RequestOptions} {raw : RawRequest} {r : Request}
  {c e : Condition} {v : String}

/-- The values of an entry for the raw values of a request are coerced from an operand. -/
theorem exists_operand_of_mem_entriesOf {now : Instant} (h : e ∈ entriesOf catalog now raw)
    (hv : v ∈ e.values) : ∃ operand, e.HasOperand catalog raw operand ∧
      coerce e.field.kind e.operator operand now = some v := by
  obtain ⟨⟨f, text⟩, hmem, hraw⟩ := List.mem_filterMap.1 h
  obtain ⟨rfl, hparts, hcoerce⟩ := parts_of_ofRaw? hraw
  exact ⟨_, ⟨text, hmem, hparts⟩, hcoerce v hv⟩

/-- The entries of a request and of the bounds that its window was missing. -/
def allEntries (catalog : Catalog) (options : RequestOptions) (raw : RawRequest)
    (window : Window) : List Condition :=
  entriesOf catalog options.now raw ++
    Window.missingBounds catalog options window (grouped (entriesOf catalog options.now raw))

/-- The conditions of a request are the groups of these entries. -/
theorem conditions_eq_grouped_allEntries (h : ofRaw catalog options raw = .ok r) :
    r.conditions = grouped (allEntries catalog options raw r.window) := by
  have hcomplete := complete_of_ofRaw h
  rw [conditionsOf_eq_grouped] at hcomplete
  exact Window.complete_grouped hcomplete

/-- These entries are on the fields that the catalog has for their names. -/
theorem lookup_of_mem_allEntries {window : Window}
    (h : e ∈ allEntries catalog options raw window) : catalog.lookup e.name = some e.field := by
  rcases List.mem_append.1 h with h | h
  · obtain ⟨⟨f, text⟩, hmem, hraw⟩ := List.mem_filterMap.1 h
    obtain ⟨hfield, -⟩ := parts_of_ofRaw? hraw
    rw [name, hfield]
    exact lookup_of_mem_fieldValues hmem
  · exact Window.lookup_of_mem_missingBounds h

/-- Conditions are on the fields that the catalog has for their names. -/
theorem lookup_of_mem_conditions (h : ofRaw catalog options raw = .ok r) (hc : c ∈ r.conditions) :
    catalog.lookup c.name = some c.field := by
  rw [conditions_eq_grouped_allEntries h] at hc
  obtain ⟨e, he, -, hfield⟩ := exists_of_mem_grouped hc
  have hlookup := lookup_of_mem_allEntries he
  rwa [name, hfield] at hlookup

/-- A value of a condition is that of an entry that differs from the condition in its values only. -/
theorem exists_entry_of_mem_values (h : ofRaw catalog options raw = .ok r) (hc : c ∈ r.conditions)
    (hv : v ∈ c.values) : ∃ e ∈ allEntries catalog options raw r.window,
      e.field = c.field ∧ e.operator = c.operator ∧ e.negated = c.negated ∧ v ∈ e.values := by
  rw [conditions_eq_grouped_allEntries h] at hc
  obtain ⟨e, he, hkey, hvalue⟩ := exists_of_mem_values_grouped hc hv
  obtain ⟨first, hfirst, hkeyfirst, hfield⟩ := exists_of_mem_grouped hc
  have hsame : e.key = first.key := hkey.trans hkeyfirst.symm
  -- Entries with the same name are on the same field.
  have hname : e.name = first.name := congrArg Prod.fst hsame
  have hlookup := lookup_of_mem_allEntries he
  rw [hname, lookup_of_mem_allEntries hfirst] at hlookup
  have hoperator : e.operator = c.operator := congrArg (fun k => k.2.1) hkey
  have hnegated : e.negated = c.negated := congrArg (fun k => k.2.2) hkey
  exact ⟨e, he, (Option.some.inj hlookup).symm.trans hfield, hoperator, hnegated, hvalue⟩

/-- Each value of a condition of a request is coerced from an operand of the request, or it is that of
a bound which the window was missing. -/
theorem exists_operand_or_isBound (h : ofRaw catalog options raw = .ok r) (hc : c ∈ r.conditions)
    (hv : v ∈ c.values) :
    (∃ operand, c.HasOperand catalog raw operand ∧
        coerce c.field.kind c.operator operand options.now = some v) ∨
      c.IsBound catalog options.now r.window v := by
  obtain ⟨e, he, hfield, hoperator, hnegated, hvalue⟩ := exists_entry_of_mem_values h hc hv
  rcases List.mem_append.1 he with he | he
  · obtain ⟨operand, ⟨text, hmem, hparts⟩, hcoerce⟩ := exists_operand_of_mem_entriesOf he hvalue
    rw [hfield] at hmem
    rw [hnegated, hoperator] at hparts
    rw [hfield, hoperator] at hcoerce
    exact Or.inl ⟨operand, ⟨text, hmem, hparts⟩, hcoerce⟩
  · obtain ⟨hlookup, hpositive, hcoerced⟩ := Window.isBound_of_mem_missingBounds he hvalue
    rw [hfield] at hlookup
    rw [hfield, hoperator] at hcoerced
    exact Or.inr ⟨hlookup, hnegated.symm.trans hpositive, hcoerced⟩

end Request

end CrashQuery
