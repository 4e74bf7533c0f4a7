import CrashQuery.Proofs.Calendar.Order
import CrashQuery.Proofs.Calendar.RoundTrip
import CrashQuery.Proofs.Request.Normalized

/-!
# The dates of a request

What matters about the conditions on the date is which values they compare it with by which
operators. `Window.Compares` says so, `compares_merge` and `compares_addRaw` follow it through the
merging of raw values, and `compares_complete` through the completion of the window, which adds the
bounds that were missing as far as their texts can be read back.
-/

namespace CrashQuery

open Calendar Outcome

namespace Condition

/-- Merging keeps the values and adds the new ones. -/
theorem mem_mergeValues (v : String) (values new : List String) :
    v ∈ mergeValues values new ↔ v ∈ values ∨ v ∈ new := by
  induction new generalizing values with
  | nil => simp [mergeValues]
  | cons w rest ih =>
    rw [mergeValues, ih]
    split
    · next hw =>
      rw [List.mem_cons]
      constructor
      · rintro (h | h)
        · exact Or.inl h
        · exact Or.inr (Or.inr h)
      · rintro (h | rfl | h)
        · exact Or.inl h
        · exact Or.inl hw
        · exact Or.inr h
    · rw [List.mem_append, List.mem_singleton, List.mem_cons, or_assoc]

/-- Whether a condition compares the date with a value by an operator, and is not negated. -/
def ComparesDate (c : Condition) (operator : Operator) (value : String) : Prop :=
  c.name = Window.dateField ∧ c.negated = false ∧ c.operator = operator ∧ value ∈ c.values

end Condition

namespace Window

/-- Whether one of the conditions compares the date with a value by an operator. -/
def Compares (conditions : List Condition) (operator : Operator) (value : String) : Prop :=
  ∃ c ∈ conditions, c.ComparesDate operator value

section Compares

variable {conditions : List Condition} {operator : Operator} {value : String}

/-- The first condition compares, or the others do. -/
theorem compares_cons (c : Condition) : Compares (c :: conditions) operator value ↔
    c.ComparesDate operator value ∨ Compares conditions operator value := by
  simp [Compares]

/-- Merged conditions compare the date with the values of both. -/
theorem compares_merge (new : Condition) : Compares (Condition.merge new conditions) operator value ↔
    Compares conditions operator value ∨ new.ComparesDate operator value := by
  induction conditions with
  | nil => simp [Condition.merge, Compares]
  | cons c rest ih =>
    rw [Condition.merge]
    split
    · next halike =>
      -- Conditions that are alike have the same name, operator and negation.
      obtain ⟨⟨hname, hoperator⟩, hnegated⟩ : (c.name = new.name ∧ c.operator = new.operator) ∧
          c.negated = new.negated := by
        simpa [Condition.isAlike] using halike
      have hmerged : ({ c with values := Condition.mergeValues c.values new.values } :
          Condition).ComparesDate operator value ↔
            c.ComparesDate operator value ∨ new.ComparesDate operator value := by
        unfold Condition.ComparesDate
        rw [← hname, ← hoperator, ← hnegated, Condition.mem_mergeValues]
        constructor
        · rintro ⟨hdate, hpos, hop, hvalue | hvalue⟩
          · exact Or.inl ⟨hdate, hpos, hop, hvalue⟩
          · exact Or.inr ⟨hdate, hpos, hop, hvalue⟩
        · rintro (⟨hdate, hpos, hop, hvalue⟩ | ⟨hdate, hpos, hop, hvalue⟩)
          · exact ⟨hdate, hpos, hop, Or.inl hvalue⟩
          · exact ⟨hdate, hpos, hop, Or.inr hvalue⟩
      rw [compares_cons, compares_cons, hmerged, or_right_comm]
    · rw [compares_cons, compares_cons, ih, or_assoc]

/-- A raw value of a field adds what it stands for. -/
theorem compares_addRaw (now : Instant) (field : Field) (raw : String) :
    Compares (Condition.addRaw now conditions field raw) operator value ↔
      Compares conditions operator value ∨
        ∃ c, Condition.ofRaw? field raw now = some c ∧ c.ComparesDate operator value := by
  unfold Condition.addRaw
  cases hraw : Condition.ofRaw? field raw now with
  | none => simp
  | some c => simp [compares_merge]

/-- The bounds are the instants that the date is compared with. -/
theorem mem_bounds (chosen : Operator → Bool) (x : Instant) :
    x ∈ bounds chosen conditions ↔ ∃ operator value, chosen operator = true ∧
      Compares conditions operator value ∧ Instant.ofText? value = some x := by
  simp only [bounds, List.mem_flatMap, List.mem_filter, List.mem_filterMap, Bool.and_eq_true,
    beq_iff_eq, Bool.not_eq_true']
  constructor
  · rintro ⟨c, ⟨hc, ⟨hname, hpos⟩, hchosen⟩, value, hvalue, hx⟩
    exact ⟨c.operator, value, hchosen, ⟨c, hc, hname, hpos, rfl, hvalue⟩, hx⟩
  · rintro ⟨operator, value, hchosen, ⟨c, hc, hname, hpos, rfl, hvalue⟩, hx⟩
    exact ⟨c, ⟨hc, ⟨hname, hpos⟩, hchosen⟩, value, hvalue, hx⟩

/-- The lower bound is one of the instants that bound the date from below, and none is greater. -/
theorem lower?_eq_some_iff {x : Instant} : lower? conditions = some x ↔
    x ∈ bounds boundsBelow conditions ∧ ∀ y ∈ bounds boundsBelow conditions, y ≤ x :=
  List.max?_eq_some_iff

/-- The upper bound is one of the instants that bound the date from above, and none is less. -/
theorem upper?_eq_some_iff {x : Instant} : upper? conditions = some x ↔
    x ∈ bounds boundsAbove conditions ∧ ∀ y ∈ bounds boundsAbove conditions, x ≤ y :=
  List.min?_eq_some_iff

/-- There is no lower bound exactly when no instant bounds the date from below. -/
theorem lower?_eq_none_iff : lower? conditions = none ↔ bounds boundsBelow conditions = [] :=
  List.max?_eq_none_iff

/-- There is no upper bound exactly when no instant bounds the date from above. -/
theorem upper?_eq_none_iff : upper? conditions = none ↔ bounds boundsAbove conditions = [] :=
  List.min?_eq_none_iff

end Compares

end Window

section Texts

open Request (temporalText coerce)

variable {kind : Kind} {t x now : Instant} {value : String}

/-- What a date value is read as lies on its day and not after it; a day is read as its midnight. -/
theorem read_temporalText (h : Instant.ofText? (temporalText kind t) = some x) :
    x ≤ t ∧ x.day = t.day ∧ (kind = .date → x.second = 0 ∧ x.nano = 0) := by
  unfold temporalText at h
  split at h
  · rw [Instant.ofText?_dayText t.day_ge t.day_le, Option.some.injEq] at h
    subst h
    exact ⟨Instant.midnight_le t, rfl, fun _ => ⟨rfl, rfl⟩⟩
  · next hkind =>
    rw [Instant.ofText?_secondsText] at h
    split at h
    · rw [Option.some.injEq] at h
      subst h
      exact ⟨t.floor_le, rfl, fun hdate => absurd hdate hkind⟩
    · simp at h

/-- What a date value is read as is the same date value. -/
theorem temporalText_of_read (h : Instant.ofText? (temporalText kind t) = some x) :
    temporalText kind x = temporalText kind t := by
  unfold temporalText at h ⊢
  split at h
  · rw [Instant.ofText?_dayText t.day_ge t.day_le, Option.some.injEq] at h
    subst h
    rfl
  · rw [Instant.ofText?_secondsText] at h
    split at h
    · rw [Option.some.injEq] at h
      subst h
      exact t.secondsText_floor
    · simp at h

/-- Days can be read back, and of the other values those of a year with four digits. -/
theorem isSome_read_temporalText : (Instant.ofText? (temporalText kind t)).isSome = true ↔
    kind = .date ∨ t.HasFourDigits := by
  unfold temporalText
  split
  · rw [Instant.ofText?_dayText t.day_ge t.day_le]
    simp
  · next hkind =>
    rw [Instant.ofText?_secondsText, or_iff_right hkind]
    by_cases hyear : t.HasFourDigits <;> simp [hyear]

/-- Date values have no blanks at their ends. -/
theorem trim_temporalText (kind : Kind) (t : Instant) :
    Text.trim (temporalText kind t).toList = (temporalText kind t).toList := by
  refine Text.trim_eq_self (.of_forall fun c hc => ?_)
  unfold temporalText at hc
  split at hc
  · rw [dayText, String.toList_ofList] at hc
    exact isBlank_of_mem_chars hc
  · exact isBlank_of_mem_secondsText hc

/-- A date value is written for an instant that is read, or for the present if that is earlier. -/
theorem coerce_temporal (hkind : kind.isTemporal = true) {operator : Operator}
    {operand : List Char} : coerce kind operator operand now = some value ↔
      ∃ y, Instant.ofText? (String.ofList (Text.trim operand)) = some y ∧
        value = temporalText kind (min y now) := by
  have hempty : Instant.ofText? (String.ofList []) = none := rfl
  unfold coerce
  cases kind with
  | date | datetime =>
    simp only
    split
    · next h => simp [h, hempty]
    · rw [Option.map_eq_some_iff]
      exact exists_congr fun y => and_congr_right fun _ => eq_comm
  | _ => simp [Kind.isTemporal] at hkind

end Texts

namespace Condition

variable {field : Field} {raw value : String} {now : Instant} {c : Condition} {operator : Operator}

/-- A raw value of a field stands for a condition on the field. -/
theorem field_of_ofRaw? (h : ofRaw? field raw now = some c) : c.field = field := by
  simp only [ofRaw?] at h
  split at h
  · rw [Option.some.injEq] at h
    subst h
    rfl
  · obtain ⟨v, -, rfl⟩ := Option.map_eq_some_iff.1 h
    rfl

/-- A raw value of a field of dates stands for dates that are not in the future. -/
theorem date_of_ofRaw? (hkind : field.kind.isTemporal = true)
    (h : ofRaw? field raw now = some c) (hvalue : value ∈ c.values) :
    ∃ t, t ≤ now ∧ value = Request.temporalText field.kind t := by
  simp only [ofRaw?] at h
  split at h
  · rw [Option.some.injEq] at h
    subst h
    simp at hvalue
  · obtain ⟨v, hv, rfl⟩ := Option.map_eq_some_iff.1 h
    obtain ⟨y, -, rfl⟩ := (coerce_temporal hkind).1 hv
    exact ⟨min y now, Std.min_le_right, List.mem_singleton.1 hvalue⟩

end Condition

/-- A bound stands for the comparison with its text as a value of the field. -/
theorem Condition.ofRaw?_bound {operator : Operator}
    (h : operator = .atLeast ∨ operator = .atMost) (field : Field) (text : String) (now : Instant) :
    ofRaw? field (operator.glyph ++ text) now =
      (Request.coerce field.kind operator text.toList now).map fun v =>
        ⟨field, operator, false, [v]⟩ := by
  refine ofRaw?_glyph ?_ field text now
  rcases h with rfl | rfl <;> decide

/-- A field is found under its public name. -/
theorem Catalog.publicName_of_lookup {catalog : Catalog} {name : String} {f : Field}
    (h : catalog.lookup name = some f) : f.publicName = name :=
  (lookup_eq_some_iff.1 h).2

section Dates

variable {catalog : Catalog} {f : Field} (hfield : catalog.lookup Window.dateField = some f)
  (hkind : f.kind.isTemporal = true)

include hfield

/-- The raw values of the date are those of its field. -/
theorem Request.field_of_fieldValues {raw : RawRequest} {p : Field × String}
    (hp : p ∈ fieldValues catalog raw) (hname : p.1.publicName = Window.dateField) : p.1 = f := by
  obtain ⟨⟨key, values⟩, -, hp⟩ := List.mem_flatMap.1 hp
  simp only at hp
  split at hp
  · simp at hp
  · split at hp
    · next g hg =>
      obtain ⟨w, -, rfl⟩ := List.mem_map.1 hp
      rw [← Catalog.publicName_of_lookup hg, hname, hfield, Option.some.injEq] at hg
      exact hg.symm
    · simp at hp

include hkind

/-- The conditions of a request compare the date with dates that are not in the future. -/
theorem Request.date_of_conditionsOf {now : Instant} {raw : RawRequest} {operator : Operator}
    {value : String} (h : Window.Compares (conditionsOf catalog now raw) operator value) :
    ∃ t, t ≤ now ∧ value = temporalText f.kind t := by
  -- The conditions grow by one raw value after the other.
  have hgrow : ∀ (pairs : List (Field × String)) (conditions : List Condition),
      (∀ p ∈ pairs, p.1.publicName = Window.dateField → p.1 = f) →
      (Window.Compares conditions operator value →
        ∃ t, t ≤ now ∧ value = temporalText f.kind t) →
      Window.Compares (pairs.foldl (fun cs p => Condition.addRaw now cs p.1 p.2) conditions)
        operator value →
      ∃ t, t ≤ now ∧ value = temporalText f.kind t := by
    intro pairs
    induction pairs with
    | nil => exact fun conditions _ hstart => hstart
    | cons p rest ih =>
      intro conditions hp hstart
      refine ih _ (fun q hq => hp q (List.mem_cons_of_mem _ hq)) ?_
      rw [Window.compares_addRaw]
      rintro (hold | ⟨c, hc, hname, -, -, hvalue⟩)
      · exact hstart hold
      · have hpublic : p.1.publicName = Window.dateField := by
          rw [← Condition.field_of_ofRaw? hc]
          exact hname
        have hpf := hp p List.mem_cons_self hpublic
        rw [hpf] at hc
        exact Condition.date_of_ofRaw? hkind hc hvalue
  exact hgrow _ [] (fun p hp => field_of_fieldValues hfield hp) (by simp [Window.Compares]) h

/-- An added bound is compared with the date if its text can be read back. -/
theorem Window.compares_addBound {now t : Instant} {conditions : List Condition}
    {added operator : Operator} {value : String} (hadded : added = .atLeast ∨ added = .atMost) :
    Compares (addBound catalog now added t conditions) operator value ↔
      Compares conditions operator value ∨ operator = added ∧
        ∃ y, Instant.ofText? (Request.temporalText f.kind t) = some y ∧
          value = Request.temporalText f.kind (min y now) := by
  have hname : f.publicName = dateField := Catalog.publicName_of_lookup hfield
  unfold addBound
  rw [hfield]
  simp only
  rw [compares_addRaw, Condition.ofRaw?_bound hadded]
  refine or_congr_right ?_
  constructor
  · rintro ⟨c, hc, -, -, hoperator, hvalue⟩
    obtain ⟨v, hv, rfl⟩ := Option.map_eq_some_iff.1 hc
    obtain ⟨y, hy, rfl⟩ := (coerce_temporal hkind).1 hv
    rw [trim_temporalText, String.ofList_toList] at hy
    exact ⟨hoperator.symm, y, hy, List.mem_singleton.1 hvalue⟩
  · rintro ⟨rfl, y, hy, hvalue⟩
    have hcoerce : Request.coerce f.kind operator (Request.temporalText f.kind t).toList now =
        some value := by
      rw [coerce_temporal hkind, trim_temporalText, String.ofList_toList]
      exact ⟨y, hy, hvalue⟩
    exact ⟨⟨f, operator, false, [value]⟩, by rw [hcoerce]; rfl, hname, rfl, rfl,
      List.mem_singleton_self value⟩

omit hfield hkind in
/-- A window is completed step by step: the default number of days is looked at, the beginning is
found, the greatest number of days is looked at, and then the width. Missing bounds are added, the
upper one first. -/
theorem Window.complete_eq (catalog : Catalog) (options : RequestOptions)
    (conditions : List Condition) : complete catalog options conditions =
      let last := (upper? conditions).getD options.now
      if Instant.isSpan options.defaultDays = false then
        .error (.abort (.spanTooLong options.defaultDays))
      else
        match (lower? conditions).or (last.minusDays? options.defaultDays) with
        | none => .error (.abort .outsideCalendar)
        | some first =>
          if Instant.isSpan options.maxDays = false then
            .error (.abort (.spanTooLong options.maxDays))
          else if last.isMoreThanDaysAfter first options.maxDays = true then
            .error (.error (.badArgument (.windowTooWide first.day last.day options.maxDays)))
          else
            .ok (⟨first, last⟩,
              let upperAdded := if (upper? conditions).isSome then conditions
                else addBound catalog options.now .atMost options.now conditions
              if (lower? conditions).isSome then upperAdded
              else addBound catalog options.now .atLeast first upperAdded) := by
  unfold complete defaultFirst
  simp only [bind, Except.bind, throw, throwThe, MonadExceptOf.throw, pure, Except.pure]
  cases Instant.isSpan options.defaultDays with
  | false => rfl
  | true =>
    cases lower? conditions with
    | some first => cases Instant.isSpan options.maxDays <;> rfl
    | none =>
      cases ((upper? conditions).getD options.now).minusDays? options.defaultDays with
      | none => rfl
      | some first => cases Instant.isSpan options.maxDays <;> rfl

omit hfield hkind in
/-- A completed window ends at the upper bound or at the present, and begins at the lower bound or
the default number of days earlier; missing bounds are added, the upper one first. It has at most
the greatest number of days. -/
theorem Window.parts_of_complete {options : RequestOptions} {conditions completed : List Condition}
    {window : Window} (h : complete catalog options conditions = .ok (window, completed)) :
    window.last = (upper? conditions).getD options.now ∧
      (lower? conditions = some window.first ∨
        lower? conditions = none ∧
          window.last.minusDays? options.defaultDays = some window.first) ∧
      (completed =
        let upperAdded := if (upper? conditions).isSome then conditions
          else addBound catalog options.now .atMost options.now conditions
        if (lower? conditions).isSome then upperAdded
        else addBound catalog options.now .atLeast window.first upperAdded) ∧
      window.last.isMoreThanDaysAfter window.first options.maxDays = false := by
  rw [complete_eq] at h
  simp only at h
  split at h
  · cases h
  · split at h
    · cases h
    · next first hfirst =>
      split at h
      · cases h
      · split at h
        · cases h
        · next hwidth =>
          cases h
          exact ⟨rfl, Option.or_eq_some_iff.1 hfirst, rfl, Bool.eq_false_iff.2 hwidth⟩

/-- The conditions of a completed window compare the date with what they compared it with before,
and with the bounds that were missing, if their texts can be read back. -/
theorem Window.compares_complete {options : RequestOptions}
    {conditions completed : List Condition} {window : Window}
    (h : complete catalog options conditions = .ok (window, completed)) (operator : Operator)
    (value : String) : Compares completed operator value ↔
      Compares conditions operator value ∨
        (upper? conditions = none ∧ operator = .atMost ∧
          ∃ y, Instant.ofText? (Request.temporalText f.kind options.now) = some y ∧
            value = Request.temporalText f.kind (min y options.now)) ∨
        lower? conditions = none ∧ operator = .atLeast ∧
          ∃ y, Instant.ofText? (Request.temporalText f.kind window.first) = some y ∧
            value = Request.temporalText f.kind (min y options.now) := by
  obtain ⟨-, -, hcompleted, -⟩ := parts_of_complete h
  rw [hcompleted]
  cases hupper : upper? conditions with
  | some last =>
    cases hlower : lower? conditions with
    | some first => simp
    | none => simp [compares_addBound hfield hkind (Or.inl rfl)]
  | none =>
    cases hlower : lower? conditions with
    | some first => simp [compares_addBound hfield hkind (Or.inr rfl)]
    | none =>
      simp [compares_addBound hfield hkind (Or.inl rfl),
        compares_addBound hfield hkind (Or.inr rfl), or_assoc]

end Dates

end CrashQuery
