import CrashQuery.Operator
import Mathlib.Data.List.Infix

/-!
# The longest glyph

Some glyphs begin with others, and the empty one begins every text. They are looked for in an order
in which no glyph stands before one that it begins (`Operator.pairwise_glyphs`), so the first one
found is the longest (`Operator.not_prefix_of_matchFirst`). Hence a raw value has one reading:
`Comparison.ofText_lossless` says that it stands for the comparison that spells it with the longest
glyph, and which comparisons are read back from what they are written as.
-/

namespace CrashQuery

/-- A text has no rest behind a beginning exactly when it does not begin so. -/
theorem Text.dropStart?_eq_none_iff {start s : List Char} :
    dropStart? start s = none ↔ ¬ start <+: s := by
  constructor
  · rintro hnone ⟨rest, rfl⟩
    rw [dropStart?_append] at hnone
    cases hnone
  · intro hnot
    cases hdrop : dropStart? start s with
    | none => rfl
    | some rest => exact absurd ⟨rest, (eq_append_of_dropStart? hdrop).symm⟩ hnot

namespace Operator

/-- Every operator is listed. -/
theorem mem_all (op : Operator) : op ∈ all := by
  cases op <;> decide

/-- Operators are told apart by their glyphs. -/
theorem eq_of_glyph_eq {a b : Operator} (h : a.glyph = b.glyph) : a = b := by
  have hall : ∀ a ∈ all, ∀ b ∈ all, a.glyph = b.glyph → a = b := by decide
  exact hall a (mem_all a) b (mem_all b) h

/-- Every operator with a glyph is looked for by it. -/
theorem mem_glyphs {op : Operator} (h : op.glyph ≠ "") : (op.glyph, op) ∈ glyphs := by
  have hall : ∀ op ∈ all, op.glyph ≠ "" → (op.glyph, op) ∈ glyphs := by decide
  exact hall op (mem_all op) h

/-- No glyph is looked for before one that it begins. -/
theorem pairwise_glyphs : glyphs.Pairwise fun e later => ¬ e.1.toList <+: later.1.toList := by
  decide

/-- Where no glyph is looked for before one that it begins, none that begins the text is longer than
the one that is found. -/
theorem not_prefix_of_matchFirst {table : List (String × Operator)} {s : List Char}
    (hshown : ∀ e ∈ table, e.1 = e.2.glyph)
    (horder : table.Pairwise fun e later => ¬ e.1.toList <+: later.1.toList) :
    ∀ e ∈ table, (matchFirst s table).1.glyph.length < e.1.length → ¬ e.1.toList <+: s := by
  induction table with
  | nil => simp
  | cons first rest ih =>
    obtain ⟨start, op⟩ := first
    obtain ⟨(rfl : start = op.glyph), hrest⟩ := List.forall_mem_cons.1 hshown
    obtain ⟨hfirst, horder⟩ := List.pairwise_cons.1 horder
    intro e he hlonger hbegins
    rw [matchFirst] at hlonger
    split at hlonger
    · next operand hdrop =>
      have hstart : op.glyph.toList <+: s := ⟨operand, (Text.eq_append_of_dropStart? hdrop).symm⟩
      rcases List.mem_cons.1 he with rfl | he
      · exact lt_irrefl _ hlonger
      · -- Of two beginnings the shorter one begins the longer one.
        have hlength : op.glyph.toList.length ≤ e.1.toList.length := by
          rw [String.length_toList, String.length_toList]
          exact le_of_lt hlonger
        exact hfirst e he (List.prefix_of_prefix_length_le hstart hbegins hlength)
    · next hdrop =>
      rcases List.mem_cons.1 he with rfl | he
      · exact Text.dropStart?_eq_none_iff.1 hdrop hbegins
      · exact ih hrest horder e he hlonger hbegins

end Operator

namespace Comparison

/-- Whether no longer glyph begins the glyph and the operand. -/
def IsLongest (c : Comparison) : Prop :=
  ∀ op : Operator, c.operator.glyph.length < op.glyph.length →
    ¬ op.glyph.toList <+: c.operator.glyph.toList ++ c.operand

/-- Whether a comparison is the reading of a raw value. -/
structure Spells (c : Comparison) (raw : String) : Prop where
  /-- The mark, the glyph and the operand make up the value. -/
  chars_eq : c.chars = raw.toList
  /-- The comparison is to fail if the value begins with the mark. -/
  negated_iff : c.negated = true ↔ [mark] <+: raw.toList
  /-- The glyph is the longest one. -/
  longest : c.IsLongest

variable {c d : Comparison} {raw : String}

/-- The first glyph found in a text is the longest one that begins it. -/
theorem isLongest_of_matchFirst {s operand : List Char} {operator : Operator}
    (h : Operator.matchFirst s Operator.glyphs = (operator, operand)) (negated : Bool) :
    IsLongest ⟨negated, operator, operand⟩ := by
  intro op hlonger
  have hne : op.glyph ≠ "" := by
    intro hempty
    rw [hempty] at hlonger
    exact Nat.not_lt_zero _ hlonger
  have hwhole := Operator.append_matchFirst s Operator.eq_glyph_of_mem
  have hfound := Operator.not_prefix_of_matchFirst Operator.eq_glyph_of_mem
    Operator.pairwise_glyphs (s := s) _ (Operator.mem_glyphs hne)
  rw [h] at hwhole hfound
  rw [hwhole]
  exact hfound hlonger

/-- A raw value is read as a comparison that spells it. -/
theorem spells_ofText (raw : String) : (ofText raw).Spells raw where
  chars_eq := chars_ofChars raw.toList
  negated_iff := by
    unfold ofText ofChars
    split
    · next rest hdrop =>
      exact ⟨fun _ => ⟨rest, (Text.eq_append_of_dropStart? hdrop).symm⟩, fun _ => rfl⟩
    · next hdrop => simpa using Text.dropStart?_eq_none_iff.1 hdrop
  longest := by
    unfold ofText ofChars
    split
    · next rest _ =>
      cases hfound : Operator.matchFirst rest Operator.glyphs
      exact isLongest_of_matchFirst hfound true
    · cases hfound : Operator.matchFirst raw.toList Operator.glyphs
      exact isLongest_of_matchFirst hfound false

/-- A raw value is spelled by one comparison only. -/
theorem Spells.unique (hc : c.Spells raw) (hd : d.Spells raw) : c = d := by
  obtain ⟨negated, op, operand⟩ := c
  obtain ⟨negated', op', operand'⟩ := d
  have hnegated : negated = negated' := by
    rw [Bool.eq_iff_iff, hc.negated_iff, hd.negated_iff]
  subst hnegated
  have htext : op.glyph.toList ++ operand = op'.glyph.toList ++ operand' := by
    have hchars := hc.chars_eq.trans hd.chars_eq.symm
    simpa only [chars, List.append_assoc, List.append_cancel_left_eq] using hchars
  -- Both glyphs begin the text, and neither is longer.
  have hlength : op.glyph.length = op'.glyph.length := by
    refine le_antisymm (not_lt.1 fun hlt => ?_) (not_lt.1 fun hlt => ?_)
    · exact hd.longest op hlt (htext ▸ List.prefix_append _ _)
    · exact hc.longest op' hlt (htext ▸ List.prefix_append _ _)
  obtain ⟨hglyph, rfl⟩ :=
    List.append_inj htext (by rwa [String.length_toList, String.length_toList])
  rw [Operator.eq_of_glyph_eq (String.toList_injective hglyph)]

/-- A raw value is read as a comparison exactly when the comparison spells it. A comparison is read
back from what it is written as exactly when no longer glyph begins its glyph and operand, and what
is written without a mark does not begin with one. -/
theorem ofText_lossless (raw : String) (c : Comparison) :
    (ofText raw = c ↔ c.Spells raw) ∧
      (ofText (String.ofList c.chars) = c ↔
        c.IsLongest ∧ (c.negated = false → ¬ [mark] <+: c.chars)) := by
  have hiff : ∀ raw, ofText raw = c ↔ c.Spells raw := fun raw =>
    ⟨fun h => h ▸ spells_ofText raw, fun h => (spells_ofText raw).unique h⟩
  refine ⟨hiff raw, ?_⟩
  rw [hiff]
  constructor
  · intro h
    refine ⟨h.longest, fun hnegated hmark => ?_⟩
    rw [h.negated_iff.2 (by rwa [String.toList_ofList])] at hnegated
    cases hnegated
  · rintro ⟨hlongest, hunmarked⟩
    refine ⟨String.toList_ofList.symm, ?_, hlongest⟩
    rw [String.toList_ofList]
    cases hnegated : c.negated with
    | false => simpa using hunmarked hnegated
    | true => simp [chars, hnegated]

/-- One mark is taken, and the longer of two glyphs. -/
example : ofText "!!x" = ⟨true, .any, ['!', 'x']⟩ ∧
    ofText ">==x" = ⟨false, .atLeast, ['=', 'x']⟩ := by
  decide

end Comparison

end CrashQuery
