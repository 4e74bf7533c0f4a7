import CrashQuery.Proofs.Calendar.Order
import CrashQuery.Proofs.Index.Covering
import CrashQuery.Settings
import Mathlib.Data.List.Sort

/-!
# Repeated indices

`dropRepeats` compares a name with the one before it only, so a name that comes back after another
one stays in the list twice (`nodup_dropRepeats_iff`). The days of a window are named in their order
(`covering_eq_map`), and its indices are distinct exactly when the days of one name are next to each
other (`nodup_covering_iff`): a name for the week of its year gives one entry a week, and a name for
the weekday comes back after a week (`not_nodup_weekdays`).
-/

namespace CrashQuery

open Calendar Outcome

/-- The days of a window come in their order. -/
theorem Calendar.pairwise_daysFrom (first last : Int) :
    (daysFrom first last).Pairwise (· < ·) := by
  unfold daysFrom
  rw [List.pairwise_map]
  refine List.pairwise_lt_range.imp ?_
  intro i j hij
  omega

/-- Days of a window that grow are found in the list of its days one after the other. -/
theorem Calendar.sublist_daysFrom {first last : Int} {days : List Int}
    (hincreasing : days.Pairwise (· < ·)) (hdays : ∀ d ∈ days, first ≤ d ∧ d ≤ last) :
    days.Sublist (daysFrom first last) := by
  have hsubset : days ⊆ daysFrom first last := fun d hd => mem_daysFrom.2 (hdays d hd)
  exact List.sublist_of_subperm_of_pairwise
    (List.subperm_of_subset hincreasing.nodup hsubset) hincreasing (pairwise_daysFrom first last)

namespace Index

/-- Names are distinct after their repetitions are dropped exactly when none of them comes back
after another one. -/
theorem nodup_dropRepeats_iff (names : List String) :
    (dropRepeats names).Nodup ↔ ∀ a b, [a, b, a].Sublist names → b = a := by
  induction names with
  | nil => simp [dropRepeats]
  | cons first rest ih =>
    cases rest with
    | nil => simp [dropRepeats]
    | cons next rest =>
      rw [dropRepeats]
      split
      · next heq =>
        subst heq
        rw [ih]
        constructor
        · intro h a b hsub
          rcases List.sublist_cons_iff.1 hsub with hsub | ⟨others, hothers, hsub⟩
          · exact h a b hsub
          · obtain ⟨rfl, rfl⟩ := List.cons.inj hothers
            -- The name between them is the second of the two equal ones, or comes after it.
            rcases List.sublist_cons_iff.1 hsub with hsub | ⟨_, hsame, _⟩
            · exact h a b (hsub.cons_cons a)
            · exact (List.cons.inj hsame).1
        · intro h a b hsub
          exact h a b (hsub.cons _)
      · next hne =>
        rw [List.nodup_cons, mem_dropRepeats, ih]
        constructor
        · rintro ⟨hnot, h⟩ a b hsub
          rcases List.sublist_cons_iff.1 hsub with hsub | ⟨others, hothers, hsub⟩
          · exact h a b hsub
          · obtain ⟨rfl, rfl⟩ := List.cons.inj hothers
            exact absurd (hsub.subset (by simp)) hnot
        · intro h
          refine ⟨?_, fun a b hsub => h a b (hsub.cons _)⟩
          intro hmem
          rcases List.mem_cons.1 hmem with rfl | hmem
          · exact hne rfl
          · have hback : [first].Sublist rest := List.singleton_sublist.2 hmem
            exact hne (h first next ((hback.cons_cons next).cons_cons first)).symm

/-- The indices of a window are the names of its days in their order, without repetitions. -/
theorem covering_eq_map {pattern : String} {name : Int → String}
    (hname : ∀ day, nameOf pattern day = .ok (name day)) {first last : Instant}
    (h : ¬ last < first) :
    covering pattern first last = .ok (dropRepeats ((daysFrom first.day last.day).map name)) := by
  unfold covering
  rw [if_neg h, mapM_eq_ok_map fun day _ => hname day]
  rfl

/-- A pattern by which every day has a name gives a window distinct indices exactly when the days
between two days of one name have this name too. -/
theorem nodup_covering_iff {pattern : String} (hpattern : Pattern.isDatePattern pattern = true)
    (first last : Instant) :
    ∃ names, covering pattern first last = .ok names ∧
      (names.Nodup ↔ ∀ a b c, first.day ≤ a → a ≤ b → b ≤ c → c ≤ last.day →
        nameOf pattern a = nameOf pattern c → nameOf pattern b = nameOf pattern a) := by
  choose name hname using exists_nameOf hpattern
  by_cases hlt : last < first
  · have hday : last.day ≤ first.day := Instant.day_le_of_le (Int.le_of_lt hlt)
    refine ⟨[], covering_of_lt hlt, iff_of_true List.nodup_nil ?_⟩
    intro a b c ha hab hbc hc _
    have hb : b = a := by omega
    rw [hb]
  · refine ⟨_, covering_eq_map hname hlt, ?_⟩
    rw [nodup_dropRepeats_iff]
    simp only [hname, Except.ok.injEq]
    constructor
    · intro h a b c ha hab hbc hc hac
      rcases Int.lt_or_eq_of_le hab with hab | rfl
      · rcases Int.lt_or_eq_of_le hbc with hbc | rfl
        · have hdays : [a, b, c].Sublist (daysFrom first.day last.day) := by
            refine sublist_daysFrom ?_ ?_
            · simp only [List.pairwise_cons, List.mem_cons, List.not_mem_nil, or_false]
              grind
            · simp only [List.mem_cons, List.not_mem_nil, or_false]
              omega
          have hnames := hdays.map name
          rw [List.map_cons, List.map_cons, List.map_cons, List.map_nil, ← hac] at hnames
          exact h _ _ hnames
        · exact hac.symm
      · rfl
    · intro h x y hsub
      obtain ⟨days, hdays, hxyx⟩ := List.sublist_map_iff.1 hsub
      have hlength : days.length = 3 := by simpa using (congrArg List.length hxyx).symm
      obtain ⟨a, b, c, rfl⟩ := List.length_eq_three.1 hlength
      simp only [List.map_cons, List.map_nil, List.cons.injEq, and_true] at hxyx
      obtain ⟨rfl, rfl, hac⟩ := hxyx
      have hincreasing := (pairwise_daysFrom first.day last.day).sublist hdays
      simp only [List.pairwise_cons, List.mem_cons, List.not_mem_nil, or_false] at hincreasing
      have hab : a < b := hincreasing.1 b (Or.inl rfl)
      have hbc : b < c := hincreasing.2.1 c rfl
      have ha : first.day ≤ a := (mem_daysFrom.1 (hdays.subset (by simp))).1
      have hc : c ≤ last.day := (mem_daysFrom.1 (hdays.subset (by simp))).2
      exact h a b c ha (Int.le_of_lt hab) (Int.le_of_lt hbc) hc hac

/-- A name for the week of its year: three whole weeks have three indices, since the days of a week
are next to each other. -/
theorem nodup_weeks : ∃ first last : Instant, first.day = 19723 ∧ last.day = 19743 ∧
    Pattern.isDatePattern "socorro_%Y%W" = true ∧
    covering "socorro_%Y%W" first last =
      .ok ["socorro_202401", "socorro_202402", "socorro_202403"] ∧
    ∀ a b c, 19723 ≤ a → a ≤ b → b ≤ c → c ≤ 19743 →
      nameOf "socorro_%Y%W" a = nameOf "socorro_%Y%W" c →
      nameOf "socorro_%Y%W" b = nameOf "socorro_%Y%W" a := by
  have hpattern : Pattern.isDatePattern "socorro_%Y%W" = true := by decide +kernel
  have hcovering : covering "socorro_%Y%W" (Instant.midnight 19723 (by decide) (by decide))
      (Instant.midnight 19743 (by decide) (by decide)) =
        .ok ["socorro_202401", "socorro_202402", "socorro_202403"] := rfl
  obtain ⟨names, hnames, hiff⟩ := nodup_covering_iff hpattern
    (Instant.midnight 19723 (by decide) (by decide))
    (Instant.midnight 19743 (by decide) (by decide))
  rw [hcovering, Except.ok.injEq] at hnames
  subst hnames
  exact ⟨_, _, rfl, rfl, hpattern, hcovering, hiff.1 (by decide)⟩

/-- A name for the weekday is accepted, and the index of the first day is listed again for the last
day of a window from a Monday to the next one. -/
theorem not_nodup_weekdays : ∃ first last : Instant, first.day = 19786 ∧ last.day = 19793 ∧
    Settings.checkPattern "crashes_%a" = .ok () ∧ Pattern.isDatePattern "crashes_%a" = true ∧
    ∃ names, covering "crashes_%a" first last = .ok names ∧
      names = ["crashes_Mon", "crashes_Tue", "crashes_Wed", "crashes_Thu", "crashes_Fri",
        "crashes_Sat", "crashes_Sun", "crashes_Mon"] ∧
      ¬ names.Nodup := by
  have hcovering : covering "crashes_%a" (Instant.midnight 19786 (by decide) (by decide))
      (Instant.midnight 19793 (by decide) (by decide)) =
        .ok ["crashes_Mon", "crashes_Tue", "crashes_Wed", "crashes_Thu", "crashes_Fri",
          "crashes_Sat", "crashes_Sun", "crashes_Mon"] := rfl
  exact ⟨_, _, rfl, rfl, rfl, by decide +kernel, _, hcovering, rfl, by decide⟩

end Index

end CrashQuery
