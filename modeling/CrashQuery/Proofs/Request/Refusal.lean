import CrashQuery.Proofs.Calendar.Elapsed
import CrashQuery.Proofs.Request.Grouping
import CrashQuery.Proofs.Window.Overflow

/-!
# What normalization refuses

A raw request is refused for the first parameter with a fault, in the order of the keys, or else for
the first required field without a condition, in the order of the settings, or else for a window
that is too wide: `Request.Refusal` has one constructor for each. `Request.refusal_iff` shows that
these are all errors there are, and that a request without one is normalized unless its dates leave
the calendar. A window without a lower bound is never too wide, since its width is the default one
then (`Window.IsOf.lower?_ne_none`).
-/

namespace CrashQuery

open Calendar Outcome

namespace Window

variable {catalog : Catalog} {options : RequestOptions} {conditions : List Condition} {w : Window}

/-- Whether a window is that of conditions. -/
structure IsOf (options : RequestOptions) (conditions : List Condition) (w : Window) : Prop where
  /-- It ends at the upper bound, or else at the present. -/
  last : w.last = (upper? conditions).getD options.now
  /-- It begins at the lower bound, or else the default number of days before its end. -/
  first : (lower? conditions).or (w.last.minusDays? options.defaultDays) = some w.first

/-- A window is refused just for being too wide, once the two numbers of days are spans. -/
theorem complete_eq_error_iff {e : SearchError} :
    complete catalog options conditions = .error (.error e) ↔
      Instant.isSpan options.defaultDays = true ∧ Instant.isSpan options.maxDays = true ∧
        ∃ w, IsOf options conditions w ∧
          w.last.isMoreThanDaysAfter w.first options.maxDays = true ∧
          e = .badArgument (.windowTooWide w.first.day w.last.day options.maxDays) := by
  -- Where a window begins is said of its end, which is put in for it.
  have hwindow : ∀ w, IsOf options conditions w ↔ w.last = (upper? conditions).getD options.now ∧
      (lower? conditions).or (((upper? conditions).getD options.now).minusDays?
        options.defaultDays) = some w.first := by
    intro w
    constructor
    · rintro ⟨hlast, hfirst⟩
      exact ⟨hlast, hlast ▸ hfirst⟩
    · rintro ⟨hlast, hfirst⟩
      exact ⟨hlast, hlast ▸ hfirst⟩
  rw [complete_eq]
  simp only [hwindow]
  cases Instant.isSpan options.defaultDays with
  | false => simp
  | true =>
    rw [if_neg (by decide)]
    split
    · next hnone => simp [hnone]
    · next first hfirst =>
      cases Instant.isSpan options.maxDays with
      | false => simp
      | true =>
        rw [if_neg (by decide), hfirst]
        constructor
        · intro h
          split at h
          · next hwide =>
            cases h
            exact ⟨rfl, rfl, ⟨first, _⟩, ⟨rfl, rfl⟩, hwide, rfl⟩
          · cases h
        · rintro ⟨-, -, w, ⟨hlast, hw⟩, hwide, rfl⟩
          cases hw
          rw [hlast] at hwide
          rw [if_pos hwide, hlast]

/-- What is wider than the greatest number of days allows is so for a number of days that is a
span. -/
theorem maxDays_le_of_wide {a b : Instant} {days : Int}
    (h : a.isMoreThanDaysAfter b days = true) : days ≤ Instant.maxSpanDays := by
  have hle := Instant.nanosSince_le a b
  have hlt := of_decide_eq_true h
  simp only [daySeconds, billion] at hle hlt
  omega

/-- A window that is too wide has a lower bound. -/
theorem IsOf.lower?_ne_none (h : IsOf options conditions w) (hpos : 0 < options.defaultDays)
    (hle : options.defaultDays ≤ options.maxDays)
    (hwide : w.last.isMoreThanDaysAfter w.first options.maxDays = true) :
    lower? conditions ≠ none := by
  intro hnone
  -- Without a lower bound the window has the default width, which is within the limit.
  have hfirst := h.first
  rw [hnone, Option.none_or] at hfirst
  have hwidth := Instant.nanosSince_minusDays?_le hpos hfirst
  have hlt := of_decide_eq_true hwide
  simp only [daySeconds, billion] at hwidth hlt
  omega

/-- A window is too wide just when that is the error. -/
theorem complete_eq_error_iff_wide (hpos : 0 < options.defaultDays)
    (hle : options.defaultDays ≤ options.maxDays) {e : SearchError} :
    complete catalog options conditions = .error (.error e) ↔
      ∃ w, IsOf options conditions w ∧
        w.last.isMoreThanDaysAfter w.first options.maxDays = true ∧
        e = .badArgument (.windowTooWide w.first.day w.last.day options.maxDays) := by
  have hspan : ∀ days : Int, 0 < days → days ≤ Instant.maxSpanDays →
      Instant.isSpan days = true := by
    intro days hdays hmax
    have hmin : -Instant.maxSpanDays ≤ 0 := by decide
    exact decide_eq_true ⟨by omega, hmax⟩
  rw [complete_eq_error_iff]
  constructor
  · rintro ⟨-, -, hwide⟩
    exact hwide
  · rintro ⟨w, hw, hwide, he⟩
    have hmax := maxDays_le_of_wide hwide
    exact ⟨hspan _ hpos (by omega), hspan _ (by omega) hmax, w, hw, hwide, he⟩

/-- Grouped entries compare the date with the values of all of them. -/
theorem compares_grouped {entries : List Condition} (h : ∀ e ∈ entries, e.values.Nodup)
    {operator : Operator} {value : String} : Compares (Condition.grouped entries) operator value ↔
      ∃ e ∈ entries, e.ComparesDate operator value := by
  induction entries using List.reverseRecOn with
  | nil => simp [Compares, Condition.grouped]
  | append_singleton entries e ih =>
    rw [Condition.grouped_concat (h e (by simp)), compares_merge,
      ih fun d hd => h d (List.mem_append_left _ hd)]
    simp [or_and_right, exists_or]

end Window

namespace Request

/-- Whether a parameter has a fault. -/
inductive HasFault (catalog : Catalog) (maxResults : Nat) :
    String × List String → ArgumentFault → Prop
  /-- It does not steer the request, and no field has the name that it stands for. -/
  | unknownField {key : String} {values : List String} :
    isMeta key = false → catalog.lookup (resolveAlias key) = none →
    HasFault catalog maxResults (key, values) (.unknownField key)
  /-- Its last value asks for more results than are allowed. -/
  | tooManyResults {values : List String} {value : String} {n : Nat} :
    values.getLast? = some value → Text.readWord64? (Text.trim value.toList) = some n →
    maxResults < n →
    HasFault catalog maxResults (sizeKey, values) (.tooManyResults maxResults)

/-- Whether the parameters give a condition on the field of a name. -/
def HasCondition (catalog : Catalog) (now : Instant) (raw : RawRequest) (name : String) : Prop :=
  ∃ c ∈ conditionsOf catalog now raw, c.name = name

/-- Whether a raw value bounds the window from below: one of the date, not negated, with an operator
that does so and an operand that is read as a date. -/
def GivesLowerBound (catalog : Catalog) (now : Instant) (raw : RawRequest) : Prop :=
  ∃ e ∈ entriesOf catalog now raw, e.name = Window.dateField ∧ e.negated = false ∧
    e.operator ∈ [Operator.greater, .atLeast, .equal, .any] ∧
    ∃ value ∈ e.values, (Instant.ofText? value).isSome = true

/-- What a raw request is refused for. -/
inductive Refusal (catalog : Catalog) (options : RequestOptions) (raw : RawRequest) :
    SearchError → Prop
  /-- The first parameter with a fault. -/
  | parameter {p : String × List String} {fault : ArgumentFault} :
    p ∈ raw → HasFault catalog options.maxResults p fault →
    (∀ q ∈ raw, ∀ other, HasFault catalog options.maxResults q other → p.1 ≤ q.1) →
    Refusal catalog options raw (.badArgument fault)
  /-- The first required field without a condition, if no parameter has a fault. -/
  | required {before after : List String} {name : String} :
    (∀ p ∈ raw, ∀ fault, ¬ HasFault catalog options.maxResults p fault) →
    options.required = before ++ name :: after →
    (∀ other ∈ before, HasCondition catalog options.now raw (resolveAlias other)) →
    ¬ HasCondition catalog options.now raw (resolveAlias name) →
    Refusal catalog options raw (.missingArgument (resolveAlias name))
  /-- The window of the conditions, if there are no other faults and it has more than the greatest
  number of days. -/
  | window {w : Window} :
    (∀ p ∈ raw, ∀ fault, ¬ HasFault catalog options.maxResults p fault) →
    (∀ name ∈ options.required, HasCondition catalog options.now raw (resolveAlias name)) →
    w.IsOf options (conditionsOf catalog options.now raw) →
    options.maxDays * daySeconds * billion < w.last.nanosSince w.first →
    Refusal catalog options raw
      (.badArgument (.windowTooWide w.first.day w.last.day options.maxDays))

variable {catalog : Catalog} {options : RequestOptions} {raw : RawRequest}

/-- The fault of a parameter. -/
theorem keyFault?_eq_some_iff {maxResults : Nat} {p : String × List String}
    {fault : ArgumentFault} : keyFault? catalog maxResults p.1 p.2 = some fault ↔
      HasFault catalog maxResults p fault := by
  obtain ⟨key, values⟩ := p
  constructor
  · intro h
    simp only [keyFault?] at h
    split at h
    · next hkey =>
      subst hkey
      split at h
      · next size hsize =>
        split at h
        · next hlt =>
          cases h
          obtain ⟨value, hvalue, hread⟩ := Option.bind_eq_some_iff.1 hsize
          exact .tooManyResults hvalue hread hlt
        · cases h
      · cases h
    · split at h
      · cases h
      · next hmeta =>
        split at h
        · cases h
        · next hknown =>
          cases h
          refine .unknownField (Bool.eq_false_iff.2 hmeta) ?_
          rw [Catalog.isKnown_eq_isSome_lookup] at hknown
          exact Option.not_isSome_iff_eq_none.1 hknown
  · intro h
    cases h with
    | unknownField hmeta hlookup =>
      have hkey : key ≠ sizeKey := by
        rintro rfl
        cases hmeta
      simp [keyFault?, hkey, hmeta, Catalog.isKnown_eq_isSome_lookup, hlookup]
    | tooManyResults hvalue hread hlt =>
      simp [keyFault?, lastNumber?, hvalue, hread, hlt]

/-- No fault is found just when no parameter has one. -/
theorem firstFault?_eq_none_iff {maxResults : Nat} : firstFault? catalog maxResults raw = none ↔
    ∀ p ∈ raw, ∀ fault, ¬ HasFault catalog maxResults p fault := by
  unfold firstFault?
  rw [List.findSome?_eq_none_iff]
  refine forall₂_congr fun p _ => ?_
  rw [Option.eq_none_iff_forall_ne_some]
  exact forall_congr' fun fault => not_congr keyFault?_eq_some_iff

/-- The fault that is found is that of the first parameter that has one. -/
theorem firstFault?_eq_some_iff (hraw : Entries.Sorted raw) {maxResults : Nat}
    {fault : ArgumentFault} : firstFault? catalog maxResults raw = some fault ↔
      ∃ p ∈ raw, HasFault catalog maxResults p fault ∧
        ∀ q ∈ raw, ∀ other, HasFault catalog maxResults q other → p.1 ≤ q.1 := by
  unfold firstFault?
  rw [List.findSome?_eq_some_iff]
  constructor
  · rintro ⟨before, p, after, rfl, hp, hbefore⟩
    -- The parameters before have no fault, and those behind have greater keys.
    obtain ⟨-, hafter, -⟩ := List.pairwise_append.1 hraw
    refine ⟨p, by simp, keyFault?_eq_some_iff.1 hp, fun q hq other hother => ?_⟩
    rcases List.mem_append.1 hq with hq | hq
    · have hnone := hbefore q hq
      rw [keyFault?_eq_some_iff.2 hother] at hnone
      cases hnone
    · rcases List.mem_cons.1 hq with rfl | hq
      · exact String.le_refl _
      · exact String.not_lt.1 (String.lt_asymm ((List.pairwise_cons.1 hafter).1 q hq))
  · rintro ⟨p, hp, hfault, hleast⟩
    obtain ⟨before, after, rfl⟩ := List.append_of_mem hp
    obtain ⟨-, -, hbefore⟩ := List.pairwise_append.1 hraw
    refine ⟨before, p, after, rfl, keyFault?_eq_some_iff.2 hfault, fun q hq => ?_⟩
    rw [Option.eq_none_iff_forall_ne_some]
    intro other hother
    have hle := hleast q (List.mem_append_left _ hq) other (keyFault?_eq_some_iff.1 hother)
    exact String.not_lt.2 hle (hbefore q hq p List.mem_cons_self)

/-- The conditions are searched for the name of a field. -/
theorem any_name_iff {now : Instant} {name : String} :
    (conditionsOf catalog now raw).any (fun c => c.name == name) = true ↔
      HasCondition catalog now raw name := by
  simp [HasCondition]

/-- No required field is missing just when there are conditions on all of them. -/
theorem missingField?_eq_none_iff :
    missingField? options.required (conditionsOf catalog options.now raw) = none ↔
      ∀ name ∈ options.required, HasCondition catalog options.now raw (resolveAlias name) := by
  unfold missingField?
  rw [List.find?_eq_none]
  simp [← any_name_iff]

/-- The missing field is the first required one without a condition. -/
theorem missingField?_eq_some_iff {missing : String} :
    missingField? options.required (conditionsOf catalog options.now raw) = some missing ↔
      ∃ before name after, options.required = before ++ name :: after ∧
        (∀ other ∈ before, HasCondition catalog options.now raw (resolveAlias other)) ∧
        ¬ HasCondition catalog options.now raw (resolveAlias name) ∧
        resolveAlias name = missing := by
  unfold missingField?
  rw [List.find?_map, Option.map_eq_some_iff]
  simp only [List.find?_eq_some_iff_append, Function.comp_apply, Bool.not_not, any_name_iff,
    Bool.not_eq_true', ← Bool.not_eq_true]
  constructor
  · rintro ⟨name, ⟨hnot, before, after, hrequired, hbefore⟩, rfl⟩
    exact ⟨before, name, after, hrequired, hbefore, hnot, rfl⟩
  · rintro ⟨before, name, after, hrequired, hbefore, hnot, rfl⟩
    exact ⟨name, ⟨hnot, before, after, hrequired, hbefore⟩, rfl⟩

/-- The window has no lower bound just when no raw value gives it one. -/
theorem lower?_eq_none_iff : Window.lower? (conditionsOf catalog options.now raw) = none ↔
    ¬ GivesLowerBound catalog options.now raw := by
  have hbelow : ∀ operator : Operator, Window.boundsBelow operator = true ↔
      operator ∈ [Operator.greater, .atLeast, .equal, .any] := by
    intro operator
    cases operator <;> decide
  rw [Window.lower?_eq_none_iff, List.eq_nil_iff_forall_not_mem, ← not_exists,
    conditionsOf_eq_grouped]
  refine not_congr ?_
  simp only [Window.mem_bounds, hbelow,
    Window.compares_grouped fun e => nodup_values_of_mem_entriesOf]
  constructor
  · rintro ⟨t, operator, value, hoperator, ⟨e, he, hname, hpositive, rfl, hvalue⟩, hread⟩
    exact ⟨e, he, hname, hpositive, hoperator, value, hvalue, by rw [hread]; rfl⟩
  · rintro ⟨e, he, hname, hpositive, hoperator, value, hvalue, hread⟩
    obtain ⟨t, ht⟩ := Option.isSome_iff_exists.1 hread
    exact ⟨t, e.operator, value, hoperator, ⟨e, he, hname, hpositive, rfl, hvalue⟩, ht⟩

section Refusal

variable (hraw : Entries.Sorted raw) (hpos : 0 < options.defaultDays)
  (hle : options.defaultDays ≤ options.maxDays)

include hraw hpos hle

/-- A raw request ends with an error just when it is refused for it. -/
theorem ofRaw_eq_error_iff {e : SearchError} :
    ofRaw catalog options raw = .error (.error e) ↔ Refusal catalog options raw e := by
  rw [ofRaw_eq]
  -- The stages come one after the other. What is refused at a later stage has passed this one, and
  -- what is refused at an earlier one has not come here.
  cases hfault : firstFault? catalog options.maxResults raw with
  | some fault =>
    obtain ⟨p, hp, hhas, hleast⟩ := (firstFault?_eq_some_iff hraw).1 hfault
    constructor
    · intro h
      cases h
      exact .parameter hp hhas hleast
    · intro h
      cases h with
      | parameter hq hother hleast' =>
        have hsame := (firstFault?_eq_some_iff hraw).2 ⟨_, hq, hother, hleast'⟩
        rw [hfault] at hsame
        cases hsame
        rfl
      | required hnone => exact absurd hhas (hnone p hp fault)
      | window hnone => exact absurd hhas (hnone p hp fault)
  | none =>
    have hnone := firstFault?_eq_none_iff.1 hfault
    simp only
    cases hmissing : missingField? options.required (conditionsOf catalog options.now raw) with
    | some name =>
      obtain ⟨before, name, after, hrequired, hbefore, hnot, rfl⟩ :=
        missingField?_eq_some_iff.1 hmissing
      constructor
      · intro h
        cases h
        exact .required hnone hrequired hbefore hnot
      · intro h
        cases h with
        | parameter hp hhas => exact absurd hhas (hnone _ hp _)
        | required _ hrequired' hbefore' hnot' =>
          have hsame := missingField?_eq_some_iff.2 ⟨_, _, _, hrequired', hbefore', hnot', rfl⟩
          rw [hmissing] at hsame
          rw [Option.some.inj hsame]
        | window _ hall => exact absurd (hall name (by simp [hrequired])) hnot
    | none =>
      have hall := missingField?_eq_none_iff.1 hmissing
      simp only [map_eq_error, Window.complete_eq_error_iff_wide hpos hle]
      constructor
      · rintro ⟨w, hw, hwide, rfl⟩
        exact .window hnone hall hw (of_decide_eq_true hwide)
      · intro h
        cases h with
        | parameter hp hhas => exact absurd hhas (hnone _ hp _)
        | required _ hrequired _ hnot => exact absurd (hall _ (by simp [hrequired])) hnot
        | window _ _ hw hwide => exact ⟨_, hw, decide_eq_true hwide, rfl⟩

/-- A raw request is refused just as listed. If it is not refused, it is normalized, unless the
greatest number of days is no span or the window would begin before the calendar. If no raw value
bounds the window from below, it is not refused for its window. -/
theorem refusal_iff :
    (∀ e, ofRaw catalog options raw = .error (.error e) ↔ Refusal catalog options raw e) ∧
    ((∃ a, ofRaw catalog options raw = .error (.abort a)) ↔
      (∀ e, ¬ Refusal catalog options raw e) ∧
        ¬ (options.maxDays ≤ Instant.maxSpanDays ∧
          Window.BeginsInCalendar options (conditionsOf catalog options.now raw))) ∧
    (¬ GivesLowerBound catalog options.now raw → ∀ first last days,
      ¬ Refusal catalog options raw (.badArgument (.windowTooWide first last days))) := by
  have herror : ∀ {e}, ofRaw catalog options raw = .error (.error e) ↔
      Refusal catalog options raw e := ofRaw_eq_error_iff hraw hpos hle
  have hrange := Window.complete_ne_abort_iff catalog options
    (conditionsOf catalog options.now raw) hpos hle
  refine ⟨fun e => herror, ⟨?_, ?_⟩, ?_⟩
  · rintro ⟨a, ha⟩
    refine ⟨fun e he => ?_, fun hin => hrange.2 hin a (ofRaw_eq_abort_iff.1 ha).2⟩
    rw [herror.2 he] at ha
    cases ha
  · rintro ⟨hnot, hout⟩
    -- A normalized request has a window in the calendar, and every error is a refusal.
    cases hresult : ofRaw catalog options raw with
    | ok r =>
      refine absurd (hrange.1 fun a ha => ?_) hout
      rw [complete_of_ofRaw hresult] at ha
      cases ha
    | error failure =>
      cases failure with
      | error e => exact absurd (herror.1 hresult) (hnot e)
      | abort a => exact ⟨a, rfl⟩
  · intro hbound first last days h
    cases h with
    | parameter _ hhas => cases hhas
    | window _ _ hw hwide =>
      exact hw.lower?_ne_none hpos hle (decide_eq_true hwide) (lower?_eq_none_iff.2 hbound)

end Refusal

/-- Limits that leave a window just its default width. -/
def oneDay : RequestOptions := { Service.sampleService.options with defaultDays := 1, maxDays := 1 }

/-- A request that asks for too many results and names no field is refused for the first; one for
what came before a leap second is not refused for its window. -/
theorem refusal_results_leap :
    Entries.Sorted [("_results_number", ["10", "2000"]), ("platfrom", ["Linux"])] ∧
    0 < oneDay.defaultDays ∧ oneDay.defaultDays ≤ oneDay.maxDays ∧
    Refusal Catalog.builtin oneDay
      [("_results_number", ["10", "2000"]), ("platfrom", ["Linux"])]
      (.badArgument (.tooManyResults 1000)) ∧
    ¬ GivesLowerBound Catalog.builtin oneDay.now [("date", ["<=2016-12-31T23:59:60Z"])] ∧
    ∀ first last days, ¬ Refusal Catalog.builtin oneDay [("date", ["<=2016-12-31T23:59:60Z"])]
      (.badArgument (.windowTooWide first last days)) := by
  have hresults : Entries.Sorted
      [("_results_number", ["10", "2000"]), ("platfrom", ["Linux"])] := by
    unfold Entries.Sorted
    decide
  have hleap : ¬ GivesLowerBound Catalog.builtin oneDay.now
      [("date", ["<=2016-12-31T23:59:60Z"])] := lower?_eq_none_iff.1 (by decide +kernel)
  obtain ⟨herror, -, -⟩ := @refusal_iff Catalog.builtin oneDay _ hresults (by decide) (by decide)
  obtain ⟨-, -, hwindow⟩ := @refusal_iff Catalog.builtin oneDay
    [("date", ["<=2016-12-31T23:59:60Z"])] (List.pairwise_singleton _ _) (by decide) (by decide)
  exact ⟨hresults, by decide, by decide, (herror _).1 rfl, hleap, hwindow hleap⟩

end Request

end CrashQuery
