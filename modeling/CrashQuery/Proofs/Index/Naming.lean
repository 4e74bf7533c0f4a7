import CrashQuery.Proofs.Calendar.Order
import CrashQuery.Proofs.Index.Covering
import CrashQuery.Settings

/-!
# The names that an accepted pattern gives

The settings accept a pattern that is not empty and whose percent signs all introduce something
known (`checkPattern_eq_ok`). Naming a day needs more: the pattern may not ask for the time of day
either, which a day does not have (`exists_nameOf_iff`). An accepted pattern that asks for it names
no day at all, and covers only the windows that end before they begin (`named_iff_of_accepted`);
`not_named_hourly` is about such a pattern.
-/

namespace CrashQuery

open Calendar Outcome

namespace Calendar.Pattern

/-- Pieces can be written for a day exactly when every day has them. -/
theorem exists_renderItems_iff (day : Int) (items : List PatternItem) :
    (∃ cs, renderItems? day items = some cs) ↔
      ∀ item ∈ items, item ≠ .timeOfDay ∧ item ≠ .invalid := by
  refine ⟨?_, exists_renderItems day⟩
  induction items with
  | nil => simp
  | cons item rest ih =>
    rintro ⟨cs, hcs⟩
    rw [renderItems?] at hcs
    split at hcs
    · next here more hhere hmore =>
      intro other hother
      rcases List.mem_cons.1 hother with rfl | hrest
      · constructor
        · rintro rfl
          cases hhere
        · rintro rfl
          cases hhere
      · exact ih ⟨more, hmore⟩ other hrest
    · cases hcs

/-- A pattern asks only for what every day has when it is valid and does not ask for the time of
day. -/
theorem isDatePattern_iff (pattern : String) :
    isDatePattern pattern = true ↔
      isValid pattern = true ∧ .timeOfDay ∉ items pattern.toList := by
  unfold isDatePattern isValid
  rw [List.all_eq_true, decide_eq_true_eq]
  constructor
  · intro h
    exact ⟨fun hinvalid => by simpa using h _ hinvalid, fun htime => by simpa using h _ htime⟩
  · rintro ⟨hvalid, htime⟩ item hitem
    have hne : item ≠ .timeOfDay := fun he => htime (he ▸ hitem)
    have hne' : item ≠ .invalid := fun he => hvalid (he ▸ hitem)
    simp [hne, hne']

end Calendar.Pattern

namespace Settings

/-- The patterns that are accepted: those that are not empty and are valid. -/
theorem checkPattern_eq_ok (pattern : String) :
    checkPattern pattern = .ok () ↔
      pattern.isEmpty = false ∧ Pattern.isValid pattern = true := by
  unfold checkPattern
  cases hempty : pattern.isEmpty <;> cases hvalid : Pattern.isValid pattern <;> simp

end Settings

namespace Index

/-- A day has a name exactly when the pattern asks only for what every day has. -/
theorem exists_nameOf_iff (pattern : String) (day : Int) :
    (∃ name, nameOf pattern day = .ok name) ↔ Pattern.isDatePattern pattern = true := by
  refine ⟨?_, fun h => exists_nameOf h day⟩
  rintro ⟨name, hname⟩
  unfold nameOf Pattern.render? at hname
  cases hcs : Pattern.renderItems? day (Pattern.items pattern.toList) with
  | none =>
    rw [hcs] at hname
    cases hname
  | some cs =>
    unfold Pattern.isDatePattern
    rw [List.all_eq_true]
    intro item hitem
    obtain ⟨htime, hvalid⟩ := (Pattern.exists_renderItems_iff day _).1 ⟨cs, hcs⟩ item hitem
    simp [htime, hvalid]

/-- A day ends the computation exactly when the pattern asks for more than every day has. -/
theorem nameOf_eq_abort_iff (pattern : String) (day : Int) :
    nameOf pattern day = .error (.abort (.unwritablePattern pattern)) ↔
      Pattern.isDatePattern pattern = false := by
  constructor
  · intro habort
    cases hpattern : Pattern.isDatePattern pattern with
    | false => rfl
    | true =>
      obtain ⟨name, hname⟩ := exists_nameOf hpattern day
      rw [hname] at habort
      cases habort
  · intro hpattern
    cases hrender : Pattern.render? pattern day with
    | none =>
      unfold nameOf
      rw [hrender]
    | some name =>
      have hname : nameOf pattern day = .ok name := by
        unfold nameOf
        rw [hrender]
      rw [(exists_nameOf_iff pattern day).1 ⟨name, hname⟩] at hpattern
      cases hpattern

/-- A window has indices exactly when it ends before it begins or its days have names. -/
theorem exists_covering_iff (pattern : String) (first last : Instant) :
    (∃ names, covering pattern first last = .ok names) ↔
      last < first ∨ Pattern.isDatePattern pattern = true := by
  constructor
  · rintro ⟨names, hnames⟩
    by_cases hlt : last < first
    · exact Or.inl hlt
    · unfold covering at hnames
      rw [if_neg hlt] at hnames
      obtain ⟨all, hall, -⟩ := map_eq_ok.1 hnames
      -- The first day of the window is one of those that are named.
      have hday : first.day ≤ last.day := Instant.day_le_of_le (Int.not_lt.1 hlt)
      obtain ⟨name, -, hname⟩ :=
        exists_of_mapM_ok hall (mem_daysFrom.2 ⟨Int.le_refl first.day, hday⟩)
      exact Or.inr ((exists_nameOf_iff pattern _).1 ⟨name, hname⟩)
  · rintro (hlt | hpattern)
    · exact ⟨[], covering_of_lt hlt⟩
    · by_cases hlt : last < first
      · exact ⟨[], covering_of_lt hlt⟩
      · obtain ⟨names, hnames, -⟩ := exists_covering hpattern hlt
        exact ⟨names, hnames⟩

/-- An accepted pattern names a day, whichever it is, exactly when it does not ask for the time of
day, and otherwise the computation ends without a result; and it covers a window exactly when this
ends before it begins or the pattern does not ask for the time of day. -/
theorem named_iff_of_accepted {pattern : String} (h : Settings.checkPattern pattern = .ok ()) :
    (∀ day, (∃ name, nameOf pattern day = .ok name) ↔
      .timeOfDay ∉ Pattern.items pattern.toList) ∧
    (∀ day, nameOf pattern day = .error (.abort (.unwritablePattern pattern)) ↔
      .timeOfDay ∈ Pattern.items pattern.toList) ∧
    ∀ first last, (∃ names, covering pattern first last = .ok names) ↔
      last < first ∨ .timeOfDay ∉ Pattern.items pattern.toList := by
  obtain ⟨-, hvalid⟩ := (Settings.checkPattern_eq_ok pattern).1 h
  have hdate : Pattern.isDatePattern pattern = true ↔
      .timeOfDay ∉ Pattern.items pattern.toList := by
    rw [Pattern.isDatePattern_iff]
    exact and_iff_right hvalid
  have hnotDate : Pattern.isDatePattern pattern = false ↔
      .timeOfDay ∈ Pattern.items pattern.toList := by
    rw [← Bool.not_eq_true, hdate, Decidable.not_not]
  exact ⟨fun day => (exists_nameOf_iff pattern day).trans hdate,
    fun day => (nameOf_eq_abort_iff pattern day).trans hnotDate,
    fun first last => (exists_covering_iff pattern first last).trans (or_congr_right hdate)⟩

/-- The default pattern is accepted and names the days of every window. -/
theorem named_daily :
    Settings.checkPattern "socorro_%y%m%d" = .ok () ∧
    (∀ day, ∃ name, nameOf "socorro_%y%m%d" day = .ok name) ∧
    ∀ first last, ∃ names, covering "socorro_%y%m%d" first last = .ok names := by
  have htime : .timeOfDay ∉ Pattern.items "socorro_%y%m%d".toList := by decide +kernel
  have haccepted : Settings.checkPattern "socorro_%y%m%d" = .ok () := rfl
  obtain ⟨hname, -, hcovering⟩ := named_iff_of_accepted haccepted
  exact ⟨haccepted, fun day => (hname day).2 htime,
    fun first last => (hcovering first last).2 (Or.inr htime)⟩

/-- A pattern for hourly indices is accepted, but no day has a name by it and a window of a single
day has no indices. -/
theorem not_named_hourly :
    Settings.checkPattern "socorro_%y%m%d%H" = .ok () ∧
    nameOf "socorro_%y%m%d%H" 19797 =
      .error (.abort (.unwritablePattern "socorro_%y%m%d%H")) ∧
    ∃ noon : Instant, noon.day = 19797 ∧
      covering "socorro_%y%m%d%H" noon noon =
        .error (.abort (.unwritablePattern "socorro_%y%m%d%H")) :=
  ⟨rfl, rfl, (Instant.make? 19797 43200 0).getD .earliest, rfl, rfl⟩

end Index

end CrashQuery
