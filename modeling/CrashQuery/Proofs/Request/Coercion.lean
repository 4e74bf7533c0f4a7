import CrashQuery.Proofs.Text.LowerCase
import CrashQuery.Proofs.Window.Bounds

/-!
# Coercing a value again

Operands are brought into spellings that stand for themselves: texts without blanks at their ends and
in lower case, numerals, the two truth values, and dates up to the present (`Spelling`). All of them
are left by a second coercion but instants of a year without four digits, which are written with a
sign before the year and the letter Z at the end and cannot be read in any form. So a value is its
own value exactly when `StaysReadable` holds of its operand: `coerce_again_iff`. The window of a
request is found from the values of the date, and an instant that cannot be read again does not
bound it.
-/

namespace CrashQuery.Request

open Calendar Text

variable {kind : Kind} {operator : Operator} {operand : List Char} {now t : Instant}
  {value : String}

/-- An integer that is read from 64 bits is read again from its numeral. -/
theorem readInt64?_intText {s : List Char} {i : Int} (h : readInt64? s = some i) :
    readInt64? (intText i).toList = some i := by
  rw [intText, String.toList_ofList]
  exact readInt64?_intDigits h

/-- A whole number is written for the integer that an operand stands for. -/
theorem coerce_integer : coerce .integer operator operand now = some value ↔
    ∃ i, readInt64? (trim operand) = some i ∧ intText i = value := by
  unfold coerce
  simp only
  split
  · next hempty =>
    rw [hempty]
    exact iff_of_false nofun fun ⟨i, hi, _⟩ => by cases hi
  · exact Option.map_eq_some_iff

/-- A word is written for the truth value that an operand stands for. -/
theorem coerce_boolean : coerce .boolean operator operand now = some value ↔
    ∃ b, readBool? (trim operand) = some b ∧ (if b then "true" else "false") = value := by
  unfold coerce
  simp only
  split
  · next hempty =>
    rw [hempty]
    exact iff_of_false nofun fun ⟨b, hb, _⟩ => by cases hb
  · exact Option.map_eq_some_iff

/-- The spellings that values have after coercion. -/
inductive Spelling (operator : Operator) (now : Instant) : Kind → String → Prop where
  /-- Dates are not in the future. -/
  | temporal {kind : Kind} {t : Instant} (hkind : kind.isTemporal = true) (hnow : t ≤ now) :
      Spelling operator now kind (temporalText kind t)
  /-- Integers are written by their digits. -/
  | integer {s : List Char} {i : Int} (hread : readInt64? s = some i) :
      Spelling operator now .integer (intText i)
  /-- Truth values are written as words. -/
  | boolean (b : Bool) : Spelling operator now .boolean (if b then "true" else "false")
  /-- Texts have no blanks at their ends and are in lower case unless the comparison is exact. -/
  | text {kind : Kind} {s : List Char} (hkind : kind = .text ∨ kind = .term) (hne : s ≠ [])
      (hends : IsTrimmed s) (hlower : operator.isExact = false → lower s = s) :
      Spelling operator now kind (String.ofList s)

/-- Coercion gives one of the spellings. -/
theorem spelling_of_coerce (h : coerce kind operator operand now = some value) :
    Spelling operator now kind value := by
  by_cases hkind : kind.isTemporal = true
  · obtain ⟨t, -, rfl⟩ := (coerce_temporal hkind).1 h
    exact .temporal hkind Std.min_le_right
  · unfold coerce at h
    simp only at h
    split at h
    · cases h
    · next hne =>
      have hends := isTrimmed_trim operand
      -- A trimmed text stays so in lower case, and it is not emptied.
      have htext : ∀ s, s = (if operator.isExact then trim operand else lower (trim operand)) →
          s ≠ [] ∧ IsTrimmed s ∧ (operator.isExact = false → lower s = s) := by
        rintro s rfl
        cases hexact : operator.isExact with
        | true => exact ⟨hne, hends, nofun⟩
        | false => exact ⟨mt lower_eq_nil_iff.1 hne, hends.lower, fun _ => lower_lower _⟩
      obtain ⟨hnonempty, htrimmed, hlower⟩ := htext _ rfl
      cases kind with
      | date | datetime => exact absurd rfl hkind
      | integer =>
        obtain ⟨i, hi, rfl⟩ := Option.map_eq_some_iff.1 h
        exact .integer hi
      | boolean =>
        obtain ⟨b, -, rfl⟩ := Option.map_eq_some_iff.1 h
        exact .boolean b
      | text =>
        obtain rfl := Option.some.inj h
        exact .text (Or.inl rfl) hnonempty htrimmed hlower
      | term =>
        obtain rfl := Option.some.inj h
        exact .text (Or.inr rfl) hnonempty htrimmed hlower

/-- Values are not empty. -/
theorem Spelling.ne_empty (h : Spelling operator now kind value) : value ≠ "" := by
  have hlist : value.toList ≠ [] := by
    cases h with
    | @temporal _ t htemporal =>
      cases kind with
      | date => simp [temporalText, dayText, Date.chars]
      | datetime => simp [temporalText, Instant.secondsText]
      | _ => cases htemporal
    | integer hread =>
      intro hnil
      have hagain := readInt64?_intText hread
      rw [hnil] at hagain
      cases hagain
    | boolean b => cases b <;> decide
    | text _ hne =>
      rw [String.toList_ofList]
      exact hne
  rintro rfl
  exact hlist rfl

/-- A value of a field of whole numbers is the numeral of the integer that it is read as. -/
theorem Spelling.exists_integer (h : Spelling operator now .integer value) :
    ∃ i, readInt64? value.toList = some i ∧ value = intText i := by
  cases h with
  | temporal htemporal => cases htemporal
  | @integer s i hread => exact ⟨i, readInt64?_intText hread, rfl⟩
  | text hkind => simp at hkind

/-- A value of a field of truth values is the word for one. -/
theorem Spelling.exists_boolean (h : Spelling operator now .boolean value) :
    ∃ b : Bool, value = if b then "true" else "false" := by
  cases h with
  | temporal htemporal => cases htemporal
  | boolean b => exact ⟨b, rfl⟩
  | text hkind => simp at hkind

/-- A date that is not in the future is left as it is, if it can be read. -/
theorem coerce_temporalText (hkind : kind.isTemporal = true) (hnow : t ≤ now) :
    coerce kind operator (temporalText kind t).toList now =
      if (Instant.ofText? (temporalText kind t)).isSome then some (temporalText kind t)
      else none := by
  refine Option.ext fun v => ?_
  rw [coerce_temporal hkind, trim_temporalText, String.ofList_toList]
  cases hread : Instant.ofText? (temporalText kind t) with
  | none => simp
  | some x =>
    -- What is read is not after the instant, so that it is not moved to the present.
    have hmin : min x now = x := by
      rw [Instant.min_def, if_pos (Std.le_trans (read_temporalText hread).1 hnow)]
    simp only [Option.some.injEq, exists_eq_left', Option.isSome_some, if_true, hmin,
      temporalText_of_read hread, eq_comm]

/-- A spelling other than of a date is left as it is. -/
theorem coerce_spelling (h : Spelling operator now kind value) (hkind : kind.isTemporal = false) :
    coerce kind operator value.toList now = some value := by
  cases h with
  | temporal htemporal => simp [htemporal] at hkind
  | @integer s i hread =>
    have htrim : trim (intText i).toList = intDigits i := by
      rw [intText, String.toList_ofList]
      exact trim_eq_self (.of_forall fun c => isBlank_of_mem_intDigits)
    have hagain := readInt64?_intDigits hread
    have hne : intDigits i ≠ [] := by
      intro hnil
      rw [hnil] at hagain
      cases hagain
    unfold coerce
    rw [htrim]
    simp [hne, hagain]
  | boolean b => cases b <;> rfl
  | @text _ s hkinds hne hends hlower =>
    have hcase : (if operator.isExact then s else lower s) = s := by
      split
      · rfl
      · next hexact => exact hlower (Bool.eq_false_iff.2 hexact)
    unfold coerce
    rw [String.toList_ofList, trim_eq_self hends]
    rcases hkinds with rfl | rfl <;> simp [hne, hcase]

/-- Whether the value of an operand can be read again: an instant that is written to the second has
a year of four digits. -/
def StaysReadable (kind : Kind) (operand : List Char) (now : Instant) : Prop :=
  kind = .datetime →
    ∀ t ∈ Instant.ofText? (String.ofList (trim operand)), (min t now).HasFourDigits

instance : Decidable (StaysReadable kind operand now) := inferInstanceAs (Decidable (_ → _))

/-- The value of a date can be read exactly when it stays readable. -/
theorem isSome_ofText?_iff (hkind : kind.isTemporal = true)
    (h : coerce kind operator operand now = some value) :
    (Instant.ofText? value).isSome = true ↔ StaysReadable kind operand now := by
  obtain ⟨t, ht, rfl⟩ := (coerce_temporal hkind).1 h
  rw [isSome_read_temporalText]
  unfold StaysReadable
  rw [ht]
  cases kind with
  | date => simp
  | datetime => simp
  | _ => simp [Kind.isTemporal] at hkind

/-- A value is coerced into itself exactly when it stays readable, and otherwise it is no value. In
particular the dates that stay readable are those that can be read. -/
theorem coerce_again_iff (h : coerce kind operator operand now = some value) :
    (coerce kind operator value.toList now = some value ↔ StaysReadable kind operand now) ∧
    (coerce kind operator value.toList now = none ↔ ¬StaysReadable kind operand now) ∧
    (kind.isTemporal = true →
      ((Instant.ofText? value).isSome = true ↔ StaysReadable kind operand now)) := by
  by_cases hkind : kind.isTemporal = true
  · have hreads := isSome_ofText?_iff hkind h
    obtain ⟨t, -, rfl⟩ := (coerce_temporal hkind).1 h
    rw [coerce_temporalText hkind Std.min_le_right, ← hreads]
    cases (Instant.ofText? (temporalText kind (min t now))).isSome <;> simp
  · have hreads : StaysReadable kind operand now := by
      rintro rfl
      exact absurd rfl hkind
    rw [coerce_spelling (spelling_of_coerce h) (Bool.eq_false_iff.2 hkind)]
    exact ⟨iff_of_true rfl hreads, iff_of_false nofun (not_not_intro hreads),
      fun htemporal => absurd htemporal hkind⟩

/-- Noon of 2024-03-15. -/
def sampleNow : Instant := (Instant.make? 19797 43200 0).getD .earliest

/-- A date of the future is coerced into the present, which is its own value. -/
theorem coerce_again_future :
    coerce .datetime .any " 2030-01-01".toList sampleNow = some "2024-03-15T12:00:00Z" ∧
    coerce .datetime .any "2024-03-15T12:00:00Z".toList sampleNow =
      some "2024-03-15T12:00:00Z" := by
  have hfuture : coerce .datetime .any " 2030-01-01".toList sampleNow =
      some "2024-03-15T12:00:00Z" := by
    decide +kernel
  exact ⟨hfuture, (coerce_again_iff hfuture).1.2 (by decide +kernel)⟩

/-- The day before the year 0 is coerced into an instant that cannot be read. -/
theorem not_coerce_again_ancient :
    coerce .datetime .any "-0001-12-31".toList sampleNow = some "-0001-12-31T00:00:00Z" ∧
    coerce .datetime .any "-0001-12-31T00:00:00Z".toList sampleNow = none ∧
    Instant.ofText? "-0001-12-31T00:00:00Z" = none := by
  decide +kernel

end CrashQuery.Request
