import CrashQuery.Proofs.Mapping.Declared
import CrashQuery.Proofs.Query.Patterns
import CrashQuery.Proofs.Text.LowerCase

/-!
# Wildcards and the letter case of stored texts

The full version of a field is declared as not analyzed, so that a backend has each stored text
there as it is (`Mapping.Analysis`), and the clauses of wildcard operators go to it. Only exact
comparisons keep the letter case of their operands, and these operators are not exact: what their
clauses find is the operand in lower case (`Condition.finds_lowered_iff`). An operand that is not in
lower case is itself a text that holds it and is not found, as its lower-case text is no shorter
than it and differs from it (`Condition.finds_lower_iff`).
-/

namespace CrashQuery

namespace Mapping

/-- How a backend takes stored texts apart into terms, by the type that they are declared with. -/
structure Analysis where
  /-- The terms of a text. -/
  terms : Json → String → List String
  /-- A text that is not analyzed is its only term. -/
  verbatim (type : Json) (text : String) :
    type.field "index" = .str "not_analyzed" → terms type text = [text]

/-- Whether a clause finds a stored text that is declared with a type. -/
def Analysis.Finds (a : Analysis) (type : Json) (w : Wildcard) (text : String) : Prop :=
  ∃ term ∈ a.terms type text, w.Matches term

/-- Full versions are not analyzed. -/
theorem index_fullType : fullType.field "index" = .str "not_analyzed" := by
  simp [fullType, Json.field_object, Entries.find?_ofList_cons]

/-- A clause finds the full versions that match its pattern. -/
theorem Analysis.finds_fullType (a : Analysis) (w : Wildcard) (text : String) :
    a.Finds fullType w text ↔ w.Matches text := by
  unfold Finds
  rw [a.verbatim fullType text index_fullType]
  simp only [List.mem_singleton, exists_eq_left]

/-- Words in lower case, but for what is not analyzed. -/
def wordsAnalysis : Analysis where
  terms type text :=
    match type.field "index" with
    | .str "not_analyzed" => [text]
    | _ => (Text.splitAll ' ' (Text.lower text.toList)).map String.ofList
  verbatim type text h := by simp only [h]

end Mapping

/-- Lower-casing an operand makes no characters that do not stand for themselves in a pattern. -/
theorem Wildcard.isPlain_of_mem_lower {s : List Char} (h : ∀ c ∈ s, isPlain c = true) :
    ∀ c ∈ Text.lower s, isPlain c = true := by
  intro c hc
  by_contra hspecial
  -- The three special characters lie before the small letters.
  have hcode : c.toNat < 97 := by
    have hthree : c = '*' ∨ c = '?' ∨ c = '\\' := by
      simpa [isPlain, or_iff_not_imp_left] using hspecial
    rcases hthree with rfl | rfl | rfl <;> decide
  exact hspecial (h c (Text.mem_of_mem_lower hc hcode))

namespace Condition

open Operator (Finds)
open Mapping (Analysis)

variable {f : Field} {operator : Operator} {v : String}

/-- The value of a text is the text in lower case, if the comparison is not exact. -/
theorem coerce_lower (htext : f.kind.isTextual = true) (hexact : operator.isExact = false)
    (hne : v ≠ "") (htrim : Text.trim v.toList = v.toList) (now : Calendar.Instant) :
    Request.coerce f.kind operator v.toList now = some (Text.lowered v) := by
  have hchars : v.toList ≠ [] := fun hnil => hne (String.toList_eq_nil_iff.1 hnil)
  unfold Request.coerce
  simp only [htrim, hchars, hexact, if_false]
  cases hkind : f.kind <;> first | rfl | simp [hkind, Kind.isTextual] at htext

/-- A raw value with a wildcard operator stands for the comparison with its operand in lower
case. -/
theorem ofRaw?_wildcard (htext : f.kind.isTextual = true) (hwild : operator.isWildcard = true)
    (hne : v ≠ "") (htrim : Text.trim v.toList = v.toList) (now : Calendar.Instant) :
    ofRaw? f (operator.glyph ++ v) now = some ⟨f, operator, false, [Text.lowered v]⟩ := by
  have hglyph : operator ∉ [.any, .greater, .less, .isNull] := by
    cases operator <;> first | decide | cases hwild
  have hexact : operator.isExact = false := by
    cases operator <;> first | rfl | cases hwild
  rw [ofRaw?_glyph hglyph, coerce_lower htext hexact hne htrim now, Option.map_some]

/-- The clause of an operand in lower case finds the full versions in which this operand is
found. -/
theorem finds_patternOf_lowered (hwild : operator.isWildcard = true)
    (hplain : ∀ c ∈ v.toList, Wildcard.isPlain c = true) (a : Analysis) (path text : String) :
    a.Finds Mapping.fullType ⟨path, Wildcard.patternOf operator (Text.lowered v)⟩ text ↔
      Finds operator (Text.lower v.toList) text.toList := by
  have hlowered : (Text.lowered v).toList = Text.lower v.toList := String.toList_ofList
  have hliteral : Operator.TakesLiterally operator (Text.lowered v).toList := by
    rw [hlowered]
    exact Or.inl (Wildcard.isPlain_of_mem_lower hplain)
  rw [a.finds_fullType, ← hlowered]
  exact (Wildcard.matches_iff_finds_iff hwild _ _).2 hliteral text

/-- The lower-case text of an operand is found wherever the operand is exactly when the two are the
same. -/
theorem finds_lower_iff (operator : Operator) (v : String) :
    (∀ text : String, Finds operator v.toList text.toList →
      Finds operator (Text.lower v.toList) text.toList) ↔ Text.lower v.toList = v.toList := by
  constructor
  · intro hall
    -- The operand itself is a text in which it is found.
    have hself := hall v (Operator.finds_self operator v.toList)
    exact (hself.eq_of_length_le (Text.length_le_length_lower v.toList)).symm
  · intro hlower text htarget
    rw [hlower]
    exact htarget

/-- A raw value with a wildcard operator for a field of texts with a full version has one clause, at
the full version. If its operand has no blanks at its ends and stands for itself in patterns, this
clause finds the stored texts in which the operand in lower case is found. So it finds all those in
which the operand is found exactly when the operand is in lower case. -/
theorem finds_lowered_iff (htext : f.kind.isTextual = true) (hfull : f.hasFull = true)
    (hwild : operator.isWildcard = true) (hne : v ≠ "") (htrim : Text.trim v.toList = v.toList)
    (hplain : ∀ c ∈ v.toList, Wildcard.isPlain c = true) (now : Calendar.Instant) (a : Analysis) :
    ∃ c w type, ofRaw? f (operator.glyph ++ v) now = some c ∧ c.compile = .ok (.wildcards [w]) ∧
      w.path = f.storagePath ++ "." ++ Field.fullName ∧
      ((Mapping.ofField f).field "fields").get? Field.fullName = some type ∧
      (∀ text : String, a.Finds type w text ↔
        Finds operator (Text.lower v.toList) text.toList) ∧
      ((∀ text : String, Finds operator v.toList text.toList → a.Finds type w text) ↔
        Text.lower v.toList = v.toList) := by
  obtain ⟨w, hw⟩ : ∃ w : Wildcard,
      w = ⟨f.exactPath, Wildcard.patternOf operator (Text.lowered v)⟩ := ⟨_, rfl⟩
  have hraw := ofRaw?_wildcard htext hwild hne htrim now
  have hcompile : (⟨f, operator, false, [Text.lowered v]⟩ : Condition).compile =
      .ok (.wildcards [w]) := by
    rw [compile_wildcard htext hwild (List.cons_ne_nil _ _), hw]
    rfl
  have hpath : w.path = f.storagePath ++ "." ++ Field.fullName := by
    rw [hw]
    exact if_pos hfull
  have htype : ((Mapping.ofField f).field "fields").get? Field.fullName =
      some Mapping.fullType := by
    rw [Mapping.fields_ofField hfull, if_pos rfl]
  have hfinds : ∀ text : String, a.Finds Mapping.fullType w text ↔
      Finds operator (Text.lower v.toList) text.toList := by
    rw [hw]
    exact finds_patternOf_lowered hwild hplain a f.exactPath
  refine ⟨_, w, _, hraw, hcompile, hpath, htype, hfinds, ?_⟩
  simp only [hfinds]
  exact finds_lower_iff operator v

/-- All signatures that begin with `js::` are found by it. -/
theorem finds_lowered_js : ∃ f c w type, Catalog.builtin.lookup "signature" = some f ∧
    ofRaw? f "$js::" .earliest = some c ∧ c.compile = .ok (.wildcards [w]) ∧
    ((Mapping.ofField f).field "fields").get? Field.fullName = some type ∧
    ∀ text : String, Finds .startsWith "js::".toList text.toList →
      Mapping.wordsAnalysis.Finds type w text := by
  obtain ⟨f, hf, htext, hfull⟩ : ∃ f, Catalog.builtin.lookup "signature" = some f ∧
      f.kind.isTextual = true ∧ f.hasFull = true := ⟨_, rfl, rfl, rfl⟩
  have hwild : Operator.startsWith.isWildcard = true := rfl
  have htrim : Text.trim "js::".toList = "js::".toList := by decide
  have hplain : ∀ c ∈ "js::".toList, Wildcard.isPlain c = true := List.all_eq_true.1 (by decide)
  obtain ⟨c, w, type, hraw, hcompile, -, htype, -, hall⟩ := finds_lowered_iff (v := "js::") htext
    hfull hwild (by decide) htrim hplain .earliest Mapping.wordsAnalysis
  exact ⟨f, c, w, type, hf, hraw, hcompile, htype, hall.2 (by decide +kernel)⟩

/-- No backend that keeps full versions as they are finds the signature `OOM | small` by the operand
`OOM`, which it begins with. -/
theorem not_finds_capitals : ∃ f w, Catalog.builtin.lookup "signature" = some f ∧
    (f.kind.isTextual = true ∧ f.hasFull = true) ∧
    (∀ now, (ofRaw? f "~OOM" now).map compile = some (.ok (.wildcards [w]))) ∧
    Finds .contains "OOM".toList "OOM | small".toList ∧
    ∀ (a : Analysis) type, ((Mapping.ofField f).field "fields").get? Field.fullName = some type →
      ¬a.Finds type w "OOM | small" := by
  obtain ⟨f, hf, hpath, htext, hfull⟩ : ∃ f, Catalog.builtin.lookup "signature" = some f ∧
      f.exactPath = "processed_crash.signature.full" ∧ f.kind.isTextual = true ∧
      f.hasFull = true := ⟨_, rfl, rfl, rfl, rfl⟩
  have hwild : Operator.contains.isWildcard = true := rfl
  have htrim : Text.trim "OOM".toList = "OOM".toList := by decide
  have hlowered : Text.lowered "OOM" = "oom" := by decide +kernel
  have hraw : ∀ now, (ofRaw? f "~OOM" now).map compile =
      some (.ok (.wildcards [⟨"processed_crash.signature.full", "*oom*"⟩])) := by
    intro now
    have hcondition : ofRaw? f "~OOM" now = some ⟨f, .contains, false, ["oom"]⟩ := by
      rw [← hlowered]
      exact ofRaw?_wildcard (v := "OOM") htext hwild (by decide) htrim now
    rw [hcondition, Option.map_some, compile_wildcard htext hwild (List.cons_ne_nil _ _), ← hpath]
    rfl
  refine ⟨f, ⟨"processed_crash.signature.full", "*oom*"⟩, hf, ⟨htext, hfull⟩, hraw, ?_, ?_⟩
  · unfold Finds
    decide
  · intro a type htype
    rw [Mapping.fields_ofField hfull, if_pos rfl, Option.some.injEq] at htype
    rw [← htype, a.finds_fullType]
    decide

end Condition

end CrashQuery
