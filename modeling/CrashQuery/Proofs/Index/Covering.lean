import CrashQuery.Index
import CrashQuery.Proofs.Outcome

/-!
# The indices of a window

Every day has a name under a pattern that asks only for what every day has (`exists_nameOf`), and
the indices that cover a window are the names of its days (`exists_covering`), unless the window
ends before it begins (`covering_of_lt`).
-/

namespace CrashQuery

open Calendar Outcome

namespace Calendar.Pattern

/-- Pieces that every day has can be written for a day. -/
theorem exists_renderItems {items : List PatternItem} (day : Int)
    (h : ∀ item ∈ items, item ≠ .timeOfDay ∧ item ≠ .invalid) :
    ∃ cs, renderItems? day items = some cs := by
  induction items with
  | nil => exact ⟨[], rfl⟩
  | cons item rest ih =>
    obtain ⟨more, hmore⟩ := ih fun i hi => h i (List.mem_cons_of_mem _ hi)
    obtain ⟨htime, hvalid⟩ := h item List.mem_cons_self
    have hitem : ∃ cs, itemChars? day item = some cs := by
      cases item with
      | timeOfDay => exact absurd rfl htime
      | invalid => exact absurd rfl hvalid
      | _ => exact ⟨_, rfl⟩
    obtain ⟨cs, hcs⟩ := hitem
    exact ⟨cs ++ more, by simp [renderItems?, hcs, hmore]⟩

end Calendar.Pattern

namespace Index

/-- Every day has a name under a pattern that asks only for what every day has. -/
theorem exists_nameOf {pattern : String} (h : Pattern.isDatePattern pattern = true) (day : Int) :
    ∃ name, nameOf pattern day = .ok name := by
  have hitems : ∀ item ∈ Pattern.items pattern.toList, item ≠ .timeOfDay ∧ item ≠ .invalid := by
    intro item hitem
    simpa using List.all_eq_true.1 h item hitem
  obtain ⟨cs, hcs⟩ := Pattern.exists_renderItems day hitems
  exact ⟨String.ofList cs, by simp [nameOf, Pattern.render?, hcs]⟩

/-- Dropping repetitions loses no name. -/
theorem mem_dropRepeats (name : String) (names : List String) :
    name ∈ dropRepeats names ↔ name ∈ names := by
  induction names with
  | nil => simp [dropRepeats]
  | cons first rest ih =>
    cases rest with
    | nil => simp [dropRepeats]
    | cons next rest =>
      rw [dropRepeats]
      split
      · next heq =>
        subst heq
        rw [ih]
        simp
      · rw [List.mem_cons, ih]
        simp

/-- A window that ends before it begins has no indices. -/
theorem covering_of_lt {pattern : String} {first last : Instant} (h : last < first) :
    covering pattern first last = .ok [] := by
  unfold covering
  rw [if_pos h]

/-- A window that does not end before it begins has the names of its days as indices. -/
theorem exists_covering {pattern : String} (hpattern : Pattern.isDatePattern pattern = true)
    {first last : Instant} (h : ¬ last < first) :
    ∃ names, covering pattern first last = .ok names ∧
      ∀ name, name ∈ names ↔
        ∃ day, first.day ≤ day ∧ day ≤ last.day ∧ nameOf pattern day = .ok name := by
  obtain ⟨names, hnames⟩ := exists_mapM_ok fun day (_ : day ∈ daysFrom first.day last.day) =>
    exists_nameOf hpattern day
  refine ⟨dropRepeats names, ?_, ?_⟩
  · unfold covering
    rw [if_neg h, hnames]
    rfl
  · intro name
    rw [mem_dropRepeats, mem_mapM_ok hnames]
    constructor
    · rintro ⟨day, hday, hname⟩
      obtain ⟨hfirst, hlast⟩ := mem_daysFrom.1 hday
      exact ⟨day, hfirst, hlast, hname⟩
    · rintro ⟨day, hfirst, hlast, hname⟩
      exact ⟨day, mem_daysFrom.2 ⟨hfirst, hlast⟩, hname⟩

end Index

end CrashQuery
