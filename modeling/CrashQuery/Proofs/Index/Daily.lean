import CrashQuery.Proofs.Calendar.RoundTrip
import CrashQuery.Proofs.Index.Distinct
import Mathlib.Tactic.IntervalCases

/-!
# The default index names

The default pattern names a day by its date with the year of the century. Within a century no two
days have the same name (`eq_of_daily`), so that a window of less than a century has distinct
indices (`nodup_covering_daily`).
-/

namespace CrashQuery

open Calendar Outcome

namespace Calendar

/-- A month begins in all years on the same day of the year, or on the next one. -/
theorem daysBeforeMonth_le (year other : Int) {month : Nat} (h : month ≤ 12) :
    daysBeforeMonth year month ≤ daysBeforeMonth other month + 1 := by
  interval_cases month <;> simp only [daysBeforeMonth, daysInMonth] <;>
    cases isLeapYear year <;> cases isLeapYear other <;> simp

/-- Less than a century apart, dates that differ in no more than the century are the same. -/
theorem eq_of_sameInCentury {a b : Int} (hle : a ≤ b) (hnear : b < a + 36523)
    (hyear : (Date.ofDay a).year % 100 = (Date.ofDay b).year % 100)
    (hmonth : (Date.ofDay a).month = (Date.ofDay b).month)
    (hday : (Date.ofDay a).day = (Date.ofDay b).day) : a = b := by
  have ha := Date.toDay_ofDay a
  have hb := Date.toDay_ofDay b
  have hexists := (Date.exists_ofDay b).2.1
  unfold Date.toDay at ha hb
  rw [hmonth, hday] at ha
  rcases Int.lt_trichotomy (Date.ofDay a).year (Date.ofDay b).year with hlt | heq | hgt
  · -- A later year is a century later at least.
    have hcentury : daysBeforeYear ((Date.ofDay a).year + 100) ≤
        daysBeforeYear (Date.ofDay b).year :=
      daysBeforeYear_mono (by omega)
    have hlength : daysBeforeYear (Date.ofDay a).year + 36524 ≤
        daysBeforeYear ((Date.ofDay a).year + 100) := by
      simp only [daysBeforeYear]
      omega
    have hmonths := daysBeforeMonth_le (Date.ofDay a).year (Date.ofDay b).year hexists
    omega
  · rw [heq] at ha
    omega
  · have hyears := daysBeforeYear_le hgt
    have hlength := le_daysInYear (Date.ofDay b).year
    have hmonths := daysBeforeMonth_le (Date.ofDay b).year (Date.ofDay a).year hexists
    omega

namespace Pattern

/-- Numbers below a hundred have two digits, which are read as the number. -/
theorem twoPlaces_zero : ∀ n < 100, (twoPlaces .zero n).length = 2 ∧
    Nat.ofDigitChars 10 (twoPlaces .zero n) 0 = n := by
  decide +kernel

/-- Numbers below a hundred are told apart by their digits. -/
theorem twoPlaces_inj {m n : Nat} (hm : m < 100) (hn : n < 100)
    (h : twoPlaces .zero m = twoPlaces .zero n) : m = n := by
  rw [← (twoPlaces_zero m hm).2, ← (twoPlaces_zero n hn).2, h]

/-- Numbers below a hundred are told apart by their digits, whatever follows. -/
theorem twoPlaces_append_inj {m n : Nat} (hm : m < 100) (hn : n < 100) {s t : List Char}
    (h : twoPlaces .zero m ++ s = twoPlaces .zero n ++ t) : m = n ∧ s = t := by
  obtain ⟨hsame, hrest⟩ :=
    List.append_inj h ((twoPlaces_zero m hm).1.trans (twoPlaces_zero n hn).1.symm)
  exact ⟨twoPlaces_inj hm hn hsame, hrest⟩

/-- Characters that stand for themselves are written before the pieces that follow. -/
theorem renderItems?_append_literals (day : Int) (cs : List Char) (rest : List PatternItem) :
    renderItems? day (cs.map .literal ++ rest) = (renderItems? day rest).map (cs ++ ·) := by
  induction cs with
  | nil => simp
  | cons c cs ih =>
    rw [List.map_cons, List.cons_append, renderItems?, ih]
    cases renderItems? day rest <;> rfl

end Pattern

end Calendar

namespace Index

/-- The default name of a day: the year of its century, the month and the day of the month. -/
theorem nameOf_daily (day : Int) : nameOf "socorro_%y%m%d" day = .ok (String.ofList
    ("socorro_".toList ++ (Pattern.twoPlaces .zero ((Date.ofDay day).year % 100).toNat ++
      (Pattern.twoPlaces .zero (Date.ofDay day).month ++
        Pattern.twoPlaces .zero (Date.ofDay day).day)))) := by
  have hitems : Pattern.items "socorro_%y%m%d".toList =
      "socorro_".toList.map .literal ++ [.number .yearOfCentury .zero, .number .month .zero,
        .number .day .zero] := by
    decide +kernel
  unfold nameOf Pattern.render?
  rw [hitems, Pattern.renderItems?_append_literals]
  simp [Pattern.renderItems?, Pattern.itemChars?, Pattern.numberChars]

/-- Days that are less than a century apart have different default names. -/
theorem eq_of_daily {a b : Int} (hle : a ≤ b) (hnear : b < a + 36523)
    (h : nameOf "socorro_%y%m%d" a = nameOf "socorro_%y%m%d" b) : a = b := by
  rw [nameOf_daily, nameOf_daily, Except.ok.injEq] at h
  have hchars := List.append_cancel_left (String.ofList_injective h)
  obtain ⟨hmonth, hday⟩ := (Date.exists_ofDay a).lt_hundred
  obtain ⟨hmonth', hday'⟩ := (Date.exists_ofDay b).lt_hundred
  obtain ⟨hyear, hrest⟩ := Pattern.twoPlaces_append_inj (by omega) (by omega) hchars
  obtain ⟨hmonths, hdays⟩ := Pattern.twoPlaces_append_inj hmonth hmonth' hrest
  exact eq_of_sameInCentury hle hnear (by omega) hmonths
    (Pattern.twoPlaces_inj hday hday' hdays)

/-- A window of less than a century has distinct indices under the default pattern. -/
theorem nodup_covering_daily {first last : Instant} (h : last.day < first.day + 36523) :
    ∃ names, covering "socorro_%y%m%d" first last = .ok names ∧ names.Nodup := by
  obtain ⟨name, hname⟩ : ∃ name : Int → String,
      ∀ day, nameOf "socorro_%y%m%d" day = .ok (name day) := ⟨_, nameOf_daily⟩
  by_cases hlt : last < first
  · exact ⟨[], covering_of_lt hlt, List.nodup_nil⟩
  · refine ⟨_, covering_eq_map hname hlt, (nodup_dropRepeats_iff _).2 ?_⟩
    -- The names of the days are distinct before anything is dropped.
    have hnodup : ((daysFrom first.day last.day).map name).Nodup := by
      refine List.pairwise_map.2 ((pairwise_daysFrom first.day last.day).imp_of_mem ?_)
      intro a b ha hb hab heq
      have hfirst := (mem_daysFrom.1 ha).1
      have hlast := (mem_daysFrom.1 hb).2
      refine Int.ne_of_lt hab (eq_of_daily (Int.le_of_lt hab) (by omega) ?_)
      rw [hname, hname, heq]
    intro x y hsub
    have hback := hnodup.sublist hsub
    simp at hback

end Index

end CrashQuery
