import CrashQuery.Proofs.Request.Prepared

/-!
# Requests with one parameter

A request that gives values to one parameter has the conditions that the values stand for, added one
after the other (`Request.conditionsOf_parameter`). The exclamation mark before a value negates the
condition that it stands for (`Condition.ofRaw?_mark`), and values without operators are merged into
one condition (`Request.exists_conditionsOf_plain`).
-/

namespace CrashQuery

open Calendar Outcome

namespace Comparison

/-- Whether a raw value has neither a mark nor an operator. -/
def IsPlain (raw : String) : Prop := ofText raw = ⟨false, .any, raw.toList⟩

instance (raw : String) : Decidable (IsPlain raw) :=
  inferInstanceAs (Decidable (ofText raw = ⟨false, .any, raw.toList⟩))

/-- The mark before a raw value that has none makes the comparison one that is to fail. -/
theorem ofText_mark {raw : String} (h : raw.toList.head? ≠ some mark) :
    ofText ("!" ++ raw) = { ofText raw with negated := true } := by
  have hnone : Text.dropStart? [mark] raw.toList = none := by
    cases hraw : raw.toList with
    | nil => rfl
    | cons c rest =>
      have hne : mark ≠ c := by
        rintro rfl
        exact h (by rw [hraw]; rfl)
      simp [Text.dropStart?, hne]
  have hsome : Text.dropStart? [mark] ("!" ++ raw).toList = some raw.toList := by
    rw [String.toList_append]
    exact Text.dropStart?_append [mark] raw.toList
  unfold ofText ofChars
  rw [hnone, hsome]

/-- A raw value without a mark is not compared to fail. -/
theorem negated_ofText {raw : String} (h : raw.toList.head? ≠ some mark) :
    (ofText raw).negated = false := by
  have hchars := chars_ofChars raw.toList
  cases hneg : (ofText raw).negated with
  | false => rfl
  | true =>
    unfold ofText at hneg
    rw [chars, hneg] at hchars
    rw [← hchars] at h
    exact absurd rfl h

end Comparison

namespace Condition

variable {f : Field} {now : Instant} {raw : String} {c : Condition}

/-- A condition is negated when its raw value is, and it has one value unless it asks for absence. -/
theorem eq_of_ofRaw? (h : ofRaw? f raw now = some c) :
    c.negated = (Comparison.ofText raw).negated ∧
      (c.operator = .isNull ∧ c.values = [] ∨ c.operator ≠ .isNull ∧ ∃ v, c.values = [v]) := by
  simp only [ofRaw?] at h
  split at h
  · rw [Option.some.injEq] at h
    subst h
    exact ⟨rfl, Or.inl ⟨rfl, rfl⟩⟩
  · next hnull =>
    obtain ⟨v, -, rfl⟩ := Option.map_eq_some_iff.1 h
    exact ⟨rfl, Or.inr ⟨hnull, v, rfl⟩⟩

/-- The mark before a raw value that has none negates the condition that the value stands for. -/
theorem ofRaw?_mark (h : raw.toList.head? ≠ some Comparison.mark) :
    ofRaw? f ("!" ++ raw) now = (ofRaw? f raw now).map fun c => { c with negated := true } := by
  simp only [ofRaw?, Comparison.ofText_mark h]
  split
  · rfl
  · rw [Option.map_map]
    rfl

/-- A plain raw value stands for the comparison with the value that it is coerced into. -/
theorem ofRaw?_plain (h : Comparison.IsPlain raw) :
    ofRaw? f raw now =
      (Request.coerce f.kind .any raw.toList now).map fun v => ⟨f, .any, false, [v]⟩ := by
  simp only [ofRaw?, show Comparison.ofText raw = _ from h]
  rfl

/-- A plain raw value adds its value to a plain condition. -/
theorem addRaw_plain (h : Comparison.IsPlain raw) (values : List String) :
    addRaw now [⟨f, .any, false, values⟩] f raw =
      [⟨f, .any, false, mergeValues values
        (Request.coerce f.kind .any raw.toList now).toList⟩] := by
  unfold addRaw
  rw [ofRaw?_plain h]
  cases Request.coerce f.kind .any raw.toList now with
  | none => rfl
  | some v => simp [merge, isAlike, name]

variable (f now) in
/-- Plain raw values are merged into one plain condition with what they are coerced into. -/
theorem exists_foldl_addRaw_plain {raws : List String} (h : ∀ raw ∈ raws, Comparison.IsPlain raw)
    (values : List String) : ∃ merged,
      raws.foldl (fun conditions raw => addRaw now conditions f raw) [⟨f, .any, false, values⟩] =
        [⟨f, .any, false, merged⟩] ∧
      ∀ v, v ∈ merged ↔
        v ∈ values ∨ ∃ raw ∈ raws, Request.coerce f.kind .any raw.toList now = some v := by
  induction raws generalizing values with
  | nil => exact ⟨values, rfl, by simp⟩
  | cons raw rest ih =>
    rw [List.foldl_cons, addRaw_plain (h raw List.mem_cons_self)]
    obtain ⟨merged, hmerged, hmem⟩ := ih (fun r hr => h r (List.mem_cons_of_mem _ hr)) _
    refine ⟨merged, hmerged, fun v => ?_⟩
    rw [hmem, mem_mergeValues, Option.mem_toList, List.exists_mem_cons_iff, or_assoc]

end Condition

/-- Values that are all given to one parameter are its values, in order. -/
theorem RawRequest.ofPairs_parameter {key : String} {raws : List String} (h : raws ≠ []) :
    ofPairs (raws.map fun raw => (key, raw)) = [(key, raws)] := by
  have hfold : ∀ rest values : List String,
      (rest.map fun raw => (key, raw)).foldl (fun raw p => RawRequest.add raw p.1 p.2)
        [(key, values)] = [(key, values ++ rest)] := by
    intro rest
    induction rest with
    | nil => simp
    | cons raw rest ih =>
      intro values
      have hadd : RawRequest.add [(key, values)] key raw = [(key, values ++ [raw])] := by
        simp [RawRequest.add, Entries.update, Entries.insert, Entries.find?]
      rw [List.map_cons, List.foldl_cons, hadd, ih, List.append_assoc]
      rfl
  obtain ⟨raw, rest, rfl⟩ := List.exists_cons_of_ne_nil h
  exact hfold rest [raw]

namespace Request

variable {catalog : Catalog} {now : Instant} {key : String} {raws : List String} {f : Field}

/-- A parameter that steers the request gives no conditions. -/
theorem conditionsOf_meta (h : isMeta key = true) :
    conditionsOf catalog now [(key, raws)] = [] := by
  simp [conditionsOf, fieldValues, h]

/-- A parameter that names a field gives the conditions that its values stand for. -/
theorem conditionsOf_parameter (h : isMeta key = false)
    (hfield : catalog.lookup (resolveAlias key) = some f) :
    conditionsOf catalog now [(key, raws)] =
      raws.foldl (fun conditions raw => Condition.addRaw now conditions f raw) [] := by
  simp [conditionsOf, fieldValues, h, hfield, List.foldl_map]

/-- A single value of a field gives the condition that it stands for. -/
theorem conditionsOf_value {raw : String} {c : Condition}
    (hfield : catalog.lookup (resolveAlias key) = some f)
    (hraw : Condition.ofRaw? f raw now = some c) :
    conditionsOf catalog now (RawRequest.ofPairs [(key, raw)]) =
      if isMeta key then [] else [c] := by
  have hpairs : RawRequest.ofPairs [(key, raw)] = [(key, [raw])] :=
    RawRequest.ofPairs_parameter (List.cons_ne_nil raw [])
  rw [hpairs]
  cases h : isMeta key with
  | true => exact conditionsOf_meta h
  | false =>
    rw [conditionsOf_parameter h hfield]
    simp [Condition.addRaw, hraw, Condition.merge]

/-- Plain values of a field give one plain condition with what they are coerced into. -/
theorem exists_conditionsOf_plain (h : isMeta key = false)
    (hfield : catalog.lookup (resolveAlias key) = some f) (hne : raws ≠ [])
    (hplain : ∀ raw ∈ raws, Comparison.IsPlain raw)
    (hkept : ∀ raw ∈ raws, ∃ v, coerce f.kind .any raw.toList now = some v) : ∃ values,
      conditionsOf catalog now [(key, raws)] = [⟨f, .any, false, values⟩] ∧
      ∀ v, v ∈ values ↔ ∃ raw ∈ raws, coerce f.kind .any raw.toList now = some v := by
  obtain ⟨raw, rest, rfl⟩ := List.exists_cons_of_ne_nil hne
  obtain ⟨v, hv⟩ := hkept raw List.mem_cons_self
  have hfirst : Condition.addRaw now [] f raw = [⟨f, .any, false, [v]⟩] := by
    simp [Condition.addRaw, Condition.ofRaw?_plain (hplain raw List.mem_cons_self), hv,
      Condition.merge]
  obtain ⟨values, hvalues, hmem⟩ := Condition.exists_foldl_addRaw_plain f now
    (fun r hr => hplain r (List.mem_cons_of_mem _ hr)) [v]
  refine ⟨values, ?_, fun w => ?_⟩
  · rw [conditionsOf_parameter h hfield, List.foldl_cons, hfirst, hvalues]
  · rw [hmem, List.mem_singleton, List.exists_mem_cons_iff, hv, Option.some.injEq, eq_comm]

end Request

/-- Something is left of a condition that a raw value stands for. -/
theorem VersionRule.isLeft_of_ofRaw? {f : Field} {now : Instant} {raw : String} {c : Condition}
    (h : Condition.ofRaw? f raw now = some c) : isLeft c = true := by
  obtain ⟨-, ⟨hnull, -⟩ | ⟨-, v, hvalues⟩⟩ := Condition.eq_of_ofRaw? h
  · simp [isLeft, hnull]
  · simp [isLeft, hvalues]

/-- A condition that a raw value stands for has one value if it asks for a key. -/
theorem VersionRule.exists_value_of_ofRaw? {f : Field} {now : Instant} {raw : String}
    {c : Condition} (h : Condition.ofRaw? f raw now = some c) (hasks : AsksKey c) :
    ∃ k, c.values = [k] := by
  obtain ⟨-, ⟨-, hnone⟩ | ⟨-, hvalue⟩⟩ := Condition.eq_of_ofRaw? h
  · obtain ⟨-, k, hk, -⟩ := hasks
    rw [hnone] at hk
    cases hk
  · exact hvalue

namespace Service

variable {s : Service} {key raw : String} {f : Field} {c : Condition} {r : Request} {body : Json}
  {α : Type} (m : Meaning α) (d : α)

section Value

variable (hfield : s.catalog.lookup (Request.resolveAlias key) = some f)
  (hraw : Condition.ofRaw? f raw s.now = some c)
  (h : s.prepare (RawRequest.ofPairs [(key, raw)]) = .ok (r, body))

include hfield hraw h

/-- The value of a parameter that steers the request keeps no report from being selected. -/
theorem selects_value_of_meta (hmeta : Request.isMeta key = true) :
    Body.Selects m d body ↔ s.MeetsBounds m d := by
  refine selects_of_conditionsOf_eq_nil m d h ?_
  rw [Request.conditionsOf_value hfield hraw, hmeta]
  rfl

variable (hdate : f.publicName ≠ Window.dateField)

include hdate

/-- The conditions of a request for one value on the date are the bounds that it is given. -/
theorem meetsDates_value_iff : r.MeetsDates m d ↔ s.MeetsBounds m d := by
  refine meetsDates_iff m d h fun e he => ?_
  rw [Request.conditionsOf_value hfield hraw] at he
  split at he
  · cases he
  · rw [List.mem_singleton.1 he, Condition.name, Condition.field_of_ofRaw? hraw]
    exact hdate

variable (hmeta : Request.isMeta key = false)

include hmeta

/-- The value of a parameter that names a field selects by its condition, and by its key if it is
one. -/
theorem selects_value_iff : Body.Selects m d body ↔ s.MeetsBounds m d ∧
    (VersionRule.isLeft (VersionRule.withoutKeys c) = true →
      (VersionRule.withoutKeys c).Accepts m d) ∧
    (VersionRule.AsksKey c →
      ∃ k ∈ c.values, VersionRule.isKey k = true ∧ s.MeetsKey m d k) := by
  have hname : c.name ≠ Window.dateField := by
    rw [Condition.name, Condition.field_of_ofRaw? hraw]
    exact hdate
  refine selects_of_conditionsOf_eq_singleton m d h ?_ hname
  rw [Request.conditionsOf_value hfield hraw, hmeta]
  rfl

/-- A value that is no version key selects the reports that its condition accepts. -/
theorem selects_value_of_not_asksKey (hasks : ¬ VersionRule.AsksKey c) :
    Body.Selects m d body ↔ s.MeetsBounds m d ∧ c.Accepts m d := by
  rw [selects_value_iff m d hfield hraw h hdate hmeta, VersionRule.withoutKeys_of_not_asksKey hasks]
  simp [VersionRule.isLeft_of_ofRaw? hraw, hasks]

/-- A version key selects the reports of the version that it is resolved into. -/
theorem selects_value_of_asksKey (hasks : VersionRule.AsksKey c) {k : String}
    (hvalues : c.values = [k]) :
    Body.Selects m d body ↔ s.MeetsBounds m d ∧ s.MeetsKey m d k := by
  have hkey : VersionRule.isKey k = true := by
    obtain ⟨-, v, hv, hkey⟩ := hasks
    rw [hvalues, List.mem_singleton] at hv
    rw [← hv]
    exact hkey
  rw [selects_value_iff m d hfield hraw h hdate hmeta, VersionRule.isLeft_withoutKeys_iff hasks.1,
    hvalues]
  simp [hkey, hasks]

end Value

end Service

end CrashQuery
