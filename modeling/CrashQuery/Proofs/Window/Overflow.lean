import CrashQuery.Proofs.Window.Coverage

/-!
# Windows that leave the calendar

Two computations with dates have no result: a number of days that is no span of time, and a day
before the calendar begins. `Instant.reach` is how many days the calendar goes back from an instant
(`isSome_minusDays?`). The check of the settings bounds the numbers of days from below only, so it
does not keep a request out of the two cases: `Service.overflow_free_iff` says which requests stay
in the calendar. When dates have a time of day, numbers of days that are not too great keep all
requests there (`overflow_free_of_datetime`); when they are days, no settings do
(`overflow_of_days`).
-/

namespace CrashQuery

open Calendar Outcome

namespace Calendar.Instant

variable {t : Instant} {days : Int}

/-- Parts make an instant exactly when they are in the calendar and in the day. -/
theorem isSome_make? {day : Int} {second nano : Nat} :
    (make? day second nano).isSome = true ↔ (minDay ≤ day ∧ day ≤ maxDay) ∧ second < daySeconds ∧
      nano < 2 * billion ∧ (billion ≤ nano → second % 60 = 59) := by
  unfold make?
  split
  · next h => exact iff_of_true rfl h
  · next h => exact iff_of_false (by simp) h

/-- The days from the beginning of the calendar to an instant. The leap second at the end of a day
counts as the next day. -/
def reach (t : Instant) : Int :=
  t.day - minDay + if t.isLeap = true ∧ t.second + 1 = daySeconds then 1 else 0

/-- The calendar goes back less than a span of time can. -/
theorem reach_le_maxSpanDays (t : Instant) : t.reach ≤ maxSpanDays := by
  have hday := t.day_le
  have hcalendar : maxDay - minDay + 1 ≤ maxSpanDays := by decide
  unfold reach
  split <;> omega

/-- The calendar goes back so many days from an instant exactly when they are at most its reach. -/
theorem isSome_minusDays? (hdays : 0 < days) :
    (t.minusDays? days).isSome = true ↔ days ≤ t.reach := by
  have hmax := t.day_le
  have hsecond := t.second_lt
  have hnano := t.nano_lt
  have hminute := t.leap_ends_minute
  rw [minusDays?_of_pos hdays]
  cases hleap : t.isLeap with
  | false =>
    have hreach : t.reach = t.day - minDay := by simp [reach, hleap]
    rw [if_pos rfl, isSome_make?, hreach]
    constructor
    · rintro ⟨⟨hmin, -⟩, -⟩
      omega
    · intro hle
      exact ⟨⟨by omega, by omega⟩, hsecond, hnano, hminute⟩
  | true =>
    have hless : ¬ billion ≤ t.nano - billion := by
      simp only [billion] at hnano ⊢
      omega
    rw [if_neg (by decide)]
    by_cases hend : t.second + 1 = daySeconds
    · have hreach : t.reach = t.day - minDay + 1 := by simp [reach, hleap, hend]
      rw [if_pos hend, isSome_make?, hreach]
      constructor
      · rintro ⟨⟨hmin, -⟩, -⟩
        omega
      · intro hle
        exact ⟨⟨by omega, by omega⟩, by decide, by omega, fun hge => absurd hge hless⟩
    · have hreach : t.reach = t.day - minDay := by simp [reach, hleap, hend]
      rw [if_neg hend, isSome_make?, hreach]
      constructor
      · rintro ⟨⟨hmin, -⟩, -⟩
        omega
      · intro hle
        exact ⟨⟨by omega, by omega⟩, by omega, by omega, fun hge => absurd hge hless⟩

/-- From the years of four digits the calendar goes back at least to its beginning from the first of
them. -/
theorem le_reach_of_hasFourDigits (h : t.HasFourDigits) :
    Date.toDay ⟨0, 1, 1⟩ - minDay ≤ t.reach := by
  have hday : Date.toDay ⟨0, 1, 1⟩ ≤ t.day := by
    have hyear := daysBeforeYear_mono h.1
    have hfirst := (Date.exists_ofDay t.day).2.2.1
    have hdate := Date.toDay_ofDay t.day
    unfold Date.toDay at hdate ⊢
    simp only [daysBeforeMonth]
    omega
  unfold reach
  split <;> omega

end Calendar.Instant

/-- The widest window of accepted settings is at least the default one. -/
theorem Settings.defaultDays_le_maxDays {settings : Settings} (h : settings.check = .ok ()) :
    settings.defaultDays ≤ settings.maxDays := by
  have hpos := defaultDays_pos h
  unfold check at h
  obtain ⟨-, -, h⟩ := bind_eq_ok.1 h
  rw [if_neg (Int.not_le.2 hpos)] at h
  by_cases hless : settings.maxDays < settings.defaultDays
  · simp [hless, bind, Except.bind, throw, throwThe, MonadExceptOf.throw] at h
  · omega

namespace Window

variable (catalog : Catalog) (options : RequestOptions) (conditions : List Condition)

/-- Whether the window of the conditions begins in the calendar: with a lower bound that is given,
or with the instant the default number of days before its end. -/
def BeginsInCalendar : Prop :=
  lower? conditions ≠ none ∨
    options.defaultDays ≤ ((upper? conditions).getD options.now).reach

/-- A window is computed unless one of the two numbers of days is no span, or its beginning lies
before the calendar. -/
theorem complete_eq_abort_iff :
    (∃ a, complete catalog options conditions = .error (.abort a)) ↔
      Instant.isSpan options.defaultDays = false ∨ Instant.isSpan options.maxDays = false ∨
        lower? conditions = none ∧
          ((upper? conditions).getD options.now).minusDays? options.defaultDays = none := by
  rw [complete_eq]
  simp only
  cases Instant.isSpan options.defaultDays with
  | false => simp
  | true =>
    rw [if_neg (by decide)]
    split
    · next hfirst =>
      obtain ⟨hlower, hmoves⟩ := Option.or_eq_none_iff.1 hfirst
      simp [hlower, hmoves]
    · next first hfirst =>
      have hbegins : ¬ (lower? conditions = none ∧
          ((upper? conditions).getD options.now).minusDays? options.defaultDays = none) := by
        rw [← Option.or_eq_none_iff, hfirst]
        exact Option.some_ne_none first
      cases Instant.isSpan options.maxDays with
      | false => simp
      | true =>
        rw [if_neg (by decide)]
        split <;> simp [hbegins]

/-- With a positive default width that is at most the greatest one, a window is computed exactly
when the greatest width is a span and the window begins in the calendar. -/
theorem complete_ne_abort_iff (hpos : 0 < options.defaultDays)
    (hle : options.defaultDays ≤ options.maxDays) :
    (∀ a, complete catalog options conditions ≠ .error (.abort a)) ↔
      options.maxDays ≤ Instant.maxSpanDays ∧ BeginsInCalendar options conditions := by
  have hspan : ∀ days : Int, 0 < days →
      (Instant.isSpan days = false ↔ Instant.maxSpanDays < days) := by
    intro days hdays
    have hmin : -Instant.maxSpanDays ≤ 0 := by decide
    unfold Instant.isSpan
    rw [decide_eq_false_iff_not]
    omega
  have hmoves : ((upper? conditions).getD options.now).minusDays? options.defaultDays = none ↔
      ¬ options.defaultDays ≤ ((upper? conditions).getD options.now).reach := by
    rw [← Instant.isSome_minusDays? hpos, Option.not_isSome_iff_eq_none]
  rw [← not_exists, complete_eq_abort_iff, hspan _ hpos, hspan _ (by omega), hmoves]
  unfold BeginsInCalendar
  -- A default width that is no span makes the greatest width none.
  constructor
  · intro h
    obtain ⟨-, hmax, hbegins⟩ := (not_or.trans (and_congr_right' not_or)).1 h
    refine ⟨Int.not_lt.1 hmax, ?_⟩
    by_cases hlower : lower? conditions = none
    · exact Or.inr (Decidable.not_not.1 fun hnot => hbegins ⟨hlower, hnot⟩)
    · exact Or.inl hlower
  · rintro ⟨hmax, hbegins⟩ (hdefault | hmax' | ⟨hlower, hnot⟩)
    · omega
    · omega
    · exact hbegins.elim (fun hsome => hsome hlower) hnot

end Window

/-- Whether a request is refused before its window is looked at: for one of its parameters, or for a
required field without a condition. -/
def Request.IsRefusedEarly (catalog : Catalog) (options : RequestOptions) (raw : RawRequest) :
    Prop :=
  (∃ p ∈ raw, (keyFault? catalog options.maxResults p.1 p.2).isSome = true) ∨
    (missingField? options.required (conditionsOf catalog options.now raw)).isSome = true

/-- A request ends without a result exactly when it is not refused early and the computation of its
window ends without one. -/
theorem Request.ofRaw_eq_abort_iff {catalog : Catalog} {options : RequestOptions}
    {raw : RawRequest} {a : Abort} :
    ofRaw catalog options raw = .error (.abort a) ↔
      ¬ IsRefusedEarly catalog options raw ∧
        Window.complete catalog options (conditionsOf catalog options.now raw) =
          .error (.abort a) := by
  have hfault : (∃ p ∈ raw, (keyFault? catalog options.maxResults p.1 p.2).isSome = true) ↔
      (firstFault? catalog options.maxResults raw).isSome = true := by
    unfold firstFault?
    rw [List.findSome?_isSome_iff]
  unfold IsRefusedEarly
  rw [hfault, ofRaw_eq]
  cases firstFault? catalog options.maxResults raw with
  | some fault => simp
  | none =>
    cases missingField? options.required (conditionsOf catalog options.now raw) with
    | some name => simp
    | none => simp [map_eq_error]

/-- The indices of the last days are those of a window exactly when the calendar goes back so many
days. -/
theorem Index.recent_eq_covering_iff {pattern : String} {now : Instant} {days : Int}
    (hdays : 0 < days) :
    (∃ first, now.minusDays? days = some first ∧
      recent pattern now days = covering pattern first now) ↔ days ≤ now.reach := by
  rw [← Instant.isSome_minusDays? hdays]
  constructor
  · rintro ⟨first, hfirst, -⟩
    rw [hfirst]
    rfl
  · intro hsome
    obtain ⟨first, hfirst⟩ := Option.isSome_iff_exists.1 hsome
    have hreach := (Instant.isSome_minusDays? hdays).1 hsome
    have hspan : Instant.isSpan days = true := by
      have hle := now.reach_le_maxSpanDays
      have hmin : -Instant.maxSpanDays ≤ 0 := by decide
      unfold Instant.isSpan
      rw [decide_eq_true_eq]
      omega
    refine ⟨first, hfirst, ?_⟩
    unfold recent
    rw [hspan, hfirst]
    rfl

namespace Service

variable {s : Service}

/-- Under accepted settings a request stays in the calendar exactly when it is refused before its
window is looked at, or the greatest number of days is a span and the window begins in the
calendar. -/
theorem ofRaw_ne_abort_iff (hcheck : s.settings.check = .ok ()) (raw : RawRequest) :
    (∀ a, Request.ofRaw s.catalog s.options raw ≠ .error (.abort a)) ↔
      Request.IsRefusedEarly s.catalog s.options raw ∨
        s.settings.maxDays ≤ Instant.maxSpanDays ∧
          Window.BeginsInCalendar s.options (Request.conditionsOf s.catalog s.now raw) := by
  have hcomplete := Window.complete_ne_abort_iff s.catalog s.options
    (Request.conditionsOf s.catalog s.now raw) (Settings.defaultDays_pos hcheck)
    (Settings.defaultDays_le_maxDays hcheck)
  rw [show s.settings.maxDays = s.options.maxDays from rfl, ← hcomplete]
  constructor
  · intro h
    by_cases hearly : Request.IsRefusedEarly s.catalog s.options raw
    · exact Or.inl hearly
    · exact Or.inr fun a ha => h a (Request.ofRaw_eq_abort_iff.2 ⟨hearly, ha⟩)
  · rintro (hearly | hwindow) a ha
    · exact (Request.ofRaw_eq_abort_iff.1 ha).1 hearly
    · exact hwindow a (Request.ofRaw_eq_abort_iff.1 ha).2

/-- Under accepted settings a request stays in the calendar exactly when it is refused before its
window is looked at, or the greatest number of days is a span and the window begins in the calendar;
and the indices of the last days are looked up exactly when the calendar goes back so far. -/
theorem overflow_free_iff (hcheck : s.settings.check = .ok ()) (raw : RawRequest) :
    ((∀ a, Request.ofRaw s.catalog s.options raw ≠ .error (.abort a)) ↔
      Request.IsRefusedEarly s.catalog s.options raw ∨
        s.settings.maxDays ≤ Instant.maxSpanDays ∧
          Window.BeginsInCalendar s.options (Request.conditionsOf s.catalog s.now raw)) ∧
    ((∃ first, s.now.minusDays? s.settings.defaultDays = some first ∧
      Index.recent s.settings.indexPattern s.now s.settings.defaultDays =
        Index.covering s.settings.indexPattern first s.now) ↔
      s.settings.defaultDays ≤ s.now.reach) :=
  ⟨ofRaw_ne_abort_iff hcheck raw, Index.recent_eq_covering_iff (Settings.defaultDays_pos hcheck)⟩

/-- A request for what came before a month, under the default settings. -/
theorem overflow_free_before_month : sampleService.settings.check = .ok () ∧
    (∀ a, Request.ofRaw sampleService.catalog sampleService.options [("date", ["<2024-03-01"])] ≠
      .error (.abort a)) ∧
    ∃ first, sampleService.now.minusDays? 7 = some first ∧
      Index.recent "socorro_%y%m%d" sampleService.now 7 =
        Index.covering "socorro_%y%m%d" first sampleService.now := by
  obtain ⟨hrequest, hrecent⟩ :=
    overflow_free_iff (s := sampleService) rfl [("date", ["<2024-03-01"])]
  exact ⟨rfl, hrequest.2 (Or.inr ⟨by decide, Or.inr (by decide +kernel)⟩),
    hrecent.2 (by decide)⟩

/-- One day more than a span of time can have is accepted as the greatest width of windows, and not
even a request without parameters has a window then. -/
theorem overflow_of_wide_window : ∃ s : Service,
    s.settings.check = .ok () ∧ s.now.HasFourDigits ∧
    Request.ofRaw s.catalog s.options [] = .error (.abort (.spanTooLong 106751991168)) :=
  ⟨{ sampleService with settings := { maxDays := 106751991168 } }, rfl, by decide +kernel, rfl⟩

/-- When dates have a time of day, the present has a year of four digits, the greatest number of
days is a span and the default one goes back to the beginning of the calendar from the year 0 at
most, all requests stay in the calendar. -/
theorem overflow_free_of_datetime (hcheck : s.settings.check = .ok ()) {f : Field}
    (hfield : s.catalog.lookup Window.dateField = some f) (hkind : f.kind = .datetime)
    (hnow : s.now.HasFourDigits) (hmax : s.settings.maxDays ≤ Instant.maxSpanDays)
    (hdefault : s.settings.defaultDays ≤ Date.toDay ⟨0, 1, 1⟩ - minDay) :
    (∀ raw a, Request.ofRaw s.catalog s.options raw ≠ .error (.abort a)) ∧
    ∃ first, s.now.minusDays? s.settings.defaultDays = some first ∧
      Index.recent s.settings.indexPattern s.now s.settings.defaultDays =
        Index.covering s.settings.indexPattern first s.now := by
  have htemporal : f.kind.isTemporal = true := by
    rw [hkind]
    rfl
  have hreach : s.settings.defaultDays ≤ s.now.reach :=
    Int.le_trans hdefault (Instant.le_reach_of_hasFourDigits hnow)
  refine ⟨fun raw => (ofRaw_ne_abort_iff hcheck raw).2 (Or.inr ⟨hmax, Or.inr ?_⟩),
    (Index.recent_eq_covering_iff (Settings.defaultDays_pos hcheck)).2 hreach⟩
  cases hupper : Window.upper? (Request.conditionsOf s.catalog s.now raw) with
  | none => exact hreach
  | some last =>
    -- An upper bound has been read from the text of an instant, which has a year of four digits.
    obtain ⟨operator, value, -, hcompares, hread⟩ :=
      (Window.mem_bounds _ _).1 (Window.upper?_eq_some_iff.1 hupper).1
    obtain ⟨t, -, rfl⟩ := Request.date_of_conditionsOf hfield htemporal hcompares
    have hday : last.day = t.day := (read_temporalText hread).2.1
    have hfour : t.HasFourDigits := by
      rw [hkind] at hread
      replace hread : Instant.ofText? t.secondsText = some last := hread
      rw [Instant.ofText?_secondsText] at hread
      split at hread
      · assumption
      · simp at hread
    have hlast : last.HasFourDigits := by
      unfold Instant.HasFourDigits
      rw [hday]
      exact hfour
    exact Int.le_trans hdefault (Instant.le_reach_of_hasFourDigits hlast)

/-- A request for what came before the calendar. -/
def beforeCalendar : RawRequest := [("date", ["<-262143-01-01"])]

/-- When dates are days, the condition of a request for what came before the calendar is on its
first day. -/
theorem conditionsOf_beforeCalendar {catalog : Catalog} {f : Field} {now : Instant}
    (hfield : catalog.lookup Window.dateField = some f) (hkind : f.kind = .date) :
    Request.conditionsOf catalog now beforeCalendar = [⟨f, .less, false, [dayText minDay]⟩] := by
  have hcomparison : Comparison.ofText "<-262143-01-01" =
      ⟨false, .less, "-262143-01-01".toList⟩ := rfl
  have hread : Instant.ofText? (String.ofList (Text.trim "-262143-01-01".toList)) =
      some .earliest := by
    decide +kernel
  have hmin : min Instant.earliest now = .earliest := by
    rw [Instant.min_def, if_pos (Instant.earliest_le now)]
  have hcoerce : Request.coerce f.kind .less "-262143-01-01".toList now =
      some (dayText minDay) := by
    rw [hkind]
    exact (coerce_temporal rfl).2 ⟨.earliest, hread, by rw [hmin]; rfl⟩
  have hraw : Condition.ofRaw? f "<-262143-01-01" now =
      some ⟨f, .less, false, [dayText minDay]⟩ := by
    simp only [Condition.ofRaw?, hcomparison, reduceCtorEq, if_false, hcoerce, Option.map_some]
  have hvalues : Request.fieldValues catalog beforeCalendar = [(f, "<-262143-01-01")] := by
    have hname : Request.resolveAlias "date" = Window.dateField := rfl
    have hmeta : Request.isMeta "date" = false := rfl
    simp [Request.fieldValues, beforeCalendar, hname, hmeta, hfield]
  unfold Request.conditionsOf
  rw [hvalues, List.foldl_cons, List.foldl_nil, Condition.addRaw, hraw]
  rfl

/-- When dates are days, no accepted settings keep all requests in the calendar: the default width
leads out of it from its first day. -/
theorem overflow_of_days (hcheck : s.settings.check = .ok ()) {f : Field}
    (hfield : s.catalog.lookup Window.dateField = some f) (hkind : f.kind = .date)
    (hearly : ¬ Request.IsRefusedEarly s.catalog s.options beforeCalendar) :
    ∃ a, Request.ofRaw s.catalog s.options beforeCalendar = .error (.abort a) := by
  have hpos := Settings.defaultDays_pos hcheck
  have hname : f.publicName = Window.dateField := Catalog.publicName_of_lookup hfield
  have hread : Instant.ofText? (dayText minDay) = some .earliest :=
    Instant.ofText?_dayText (by decide) (by decide)
  have hlower : Window.lower? [⟨f, .less, false, [dayText minDay]⟩] = none := by
    simp [Window.lower?, Window.bounds, Window.boundsBelow]
  have hupper : Window.upper? [⟨f, .less, false, [dayText minDay]⟩] = some .earliest := by
    simp [Window.upper?, Window.bounds, Window.boundsAbove, Condition.name, hname, hread]
  refine Classical.byContradiction fun hnot => ?_
  rcases (ofRaw_ne_abort_iff hcheck beforeCalendar).1 (not_exists.1 hnot) with
    hrefused | ⟨-, hbegins⟩
  · exact hearly hrefused
  · rw [conditionsOf_beforeCalendar hfield hkind] at hbegins
    rcases hbegins with hsome | hle
    · exact hsome hlower
    · rw [hupper] at hle
      have hreach : Instant.earliest.reach = 0 := by decide
      have hdays : s.options.defaultDays = s.settings.defaultDays := rfl
      rw [Option.getD_some, hreach, hdays] at hle
      omega

end Service

end CrashQuery
