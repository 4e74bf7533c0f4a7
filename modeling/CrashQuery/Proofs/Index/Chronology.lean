import CrashQuery.Proofs.Index.Distinct
import Mathlib.Data.List.Chain

/-!
# The indices of a window in their order

`IsTimeline` says what the indices of a window are in terms of its days alone: there are none exactly
when the window ends before it begins, and otherwise they are the names of the days, in the order of
days that grow, no name behind itself. `exists_timeline` shows this of `covering` for every pattern by
which days have names. So the index of every instant of a window is listed, and a wider window loses
no index.
-/

namespace CrashQuery.Index

open Calendar Outcome

section Repeats

/-- The first name stays in front when repetitions are dropped. -/
theorem head?_dropRepeats (names : List String) : (dropRepeats names).head? = names.head? := by
  induction names with
  | nil => rfl
  | cons first rest ih =>
    cases rest with
    | nil => rfl
    | cons next rest =>
      rw [dropRepeats]
      split
      · next heq =>
        rw [ih, heq]
        rfl
      · rfl

/-- After repetitions are dropped no name stands behind itself. -/
theorem isChain_dropRepeats (names : List String) : (dropRepeats names).IsChain (· ≠ ·) := by
  induction names with
  | nil => exact List.IsChain.nil
  | cons first rest ih =>
    cases rest with
    | nil => exact List.IsChain.singleton first
    | cons next rest =>
      rw [dropRepeats]
      split
      · exact ih
      · next hne =>
        refine ih.cons ?_
        intro name hname
        rw [head?_dropRepeats, List.head?_cons, Option.mem_some_iff] at hname
        rwa [← hname]

/-- Dropping repetitions keeps the order. -/
theorem dropRepeats_sublist (names : List String) : (dropRepeats names).Sublist names := by
  induction names with
  | nil => exact List.Sublist.slnil
  | cons first rest ih =>
    cases rest with
    | nil => exact List.Sublist.refl [first]
    | cons next rest =>
      rw [dropRepeats]
      split
      · exact ih.cons first
      · exact ih.cons_cons first

/-- A list without names is all that dropping repetitions makes one of. -/
theorem dropRepeats_eq_nil_iff (names : List String) : dropRepeats names = [] ↔ names = [] := by
  rw [← List.head?_eq_none_iff, head?_dropRepeats, List.head?_eq_none_iff]

end Repeats

/-- What the indices of a window are: the names of its days, oldest first. -/
structure IsTimeline (pattern : String) (first last : Instant) (names : List String) : Prop where
  /-- There are none exactly when the window ends before it begins. -/
  eq_nil_iff : names = [] ↔ last < first
  /-- Otherwise they are the names of the days of the window. -/
  mem_iff : first ≤ last → ∀ name, name ∈ names ↔
    ∃ day, first.day ≤ day ∧ day ≤ last.day ∧ nameOf pattern day = .ok name
  /-- They are named for days of the window that grow. -/
  increasing : ∃ days : List Int, days.Pairwise (· < ·) ∧
    (∀ day ∈ days, first.day ≤ day ∧ day ≤ last.day) ∧ days.mapM (nameOf pattern) = .ok names
  /-- No name stands behind itself. -/
  alternating : names.IsChain (· ≠ ·)

section Timeline

variable {pattern : String} {first last : Instant} {names : List String}

/-- The names of the days of a window, without repetitions, are its timeline. -/
theorem isTimeline_dropRepeats {name : Int → String}
    (hname : ∀ day, nameOf pattern day = .ok (name day)) (h : first ≤ last) :
    IsTimeline pattern first last (dropRepeats ((daysFrom first.day last.day).map name)) := by
  have hday : first.day ≤ last.day := Instant.day_le_of_le h
  obtain ⟨days, hsub, hdays⟩ := List.sublist_map_iff.1
    (dropRepeats_sublist ((daysFrom first.day last.day).map name))
  refine ⟨?_, ?_, ⟨days, (pairwise_daysFrom _ _).sublist hsub, ?_, ?_⟩, isChain_dropRepeats _⟩
  · rw [dropRepeats_eq_nil_iff, List.map_eq_nil_iff]
    refine iff_of_false ?_ (Int.not_lt.2 h)
    exact List.ne_nil_of_mem (mem_daysFrom.2 ⟨Int.le_refl first.day, hday⟩)
  · intro _ other
    simp only [mem_dropRepeats, List.mem_map, mem_daysFrom, hname, Except.ok.injEq, and_assoc]
  · exact fun day hmem => mem_daysFrom.1 (hsub.subset hmem)
  · rw [hdays]
    exact mapM_eq_ok_map fun day _ => hname day

/-- A window that ends before it begins has the empty timeline. -/
theorem isTimeline_nil (h : last < first) : IsTimeline pattern first last [] where
  eq_nil_iff := iff_of_true rfl h
  mem_iff hle := absurd h (Int.not_lt.2 hle)
  increasing := ⟨[], List.Pairwise.nil, by simp, rfl⟩
  alternating := List.IsChain.nil

/-- The indices of a window are its timeline. -/
theorem exists_isTimeline (hpattern : Pattern.isDatePattern pattern = true)
    (first last : Instant) :
    ∃ names, covering pattern first last = .ok names ∧ IsTimeline pattern first last names := by
  choose name hname using exists_nameOf hpattern
  by_cases hlt : last < first
  · exact ⟨[], covering_of_lt hlt, isTimeline_nil hlt⟩
  · exact ⟨_, covering_eq_map hname hlt, isTimeline_dropRepeats hname (Int.not_lt.1 hlt)⟩

/-- The timeline has the index of every instant of the window. -/
theorem IsTimeline.exists_name (hpattern : Pattern.isDatePattern pattern = true)
    (h : IsTimeline pattern first last names) {t : Instant} (hfirst : first ≤ t)
    (hlast : t ≤ last) : ∃ name ∈ names, nameOf pattern t.day = .ok name := by
  obtain ⟨name, hname⟩ := exists_nameOf hpattern t.day
  have hle : first ≤ last := Int.le_trans hfirst hlast
  exact ⟨name, (h.mem_iff hle name).2 ⟨t.day, Instant.day_le_of_le hfirst,
    Instant.day_le_of_le hlast, hname⟩, hname⟩

/-- The timeline of a wider window has all indices of a window. -/
theorem IsTimeline.subset {first' last' : Instant} {names' : List String}
    (h : IsTimeline pattern first last names) (h' : IsTimeline pattern first' last' names')
    (hfirst : first' ≤ first) (hlast : last ≤ last') : names ⊆ names' := by
  intro name hmem
  by_cases hlt : last < first
  · rw [h.eq_nil_iff.2 hlt] at hmem
    cases hmem
  · have hle : first ≤ last := Int.not_lt.1 hlt
    obtain ⟨day, hge, hday, hname⟩ := (h.mem_iff hle name).1 hmem
    have hle' : first' ≤ last' := Int.le_trans hfirst (Int.le_trans hle hlast)
    exact (h'.mem_iff hle' name).2 ⟨day, Int.le_trans (Instant.day_le_of_le hfirst) hge,
      Int.le_trans hday (Instant.day_le_of_le hlast), hname⟩

end Timeline

/-- The indices of a window are its timeline, with the index of every instant in it, and those of a
wider window are among them. -/
theorem exists_timeline {pattern : String} (hpattern : Pattern.isDatePattern pattern = true)
    (first last : Instant) :
    ∃ names, covering pattern first last = .ok names ∧ IsTimeline pattern first last names ∧
      (∀ t : Instant, first ≤ t → t ≤ last →
        ∃ name ∈ names, nameOf pattern t.day = .ok name) ∧
      ∀ first' last' : Instant, first' ≤ first → last ≤ last' →
        ∃ wider, covering pattern first' last' = .ok wider ∧ names ⊆ wider := by
  obtain ⟨names, hnames, htimeline⟩ := exists_isTimeline hpattern first last
  refine ⟨names, hnames, htimeline, ?_, ?_⟩
  · intro t hfirst hlast
    exact htimeline.exists_name hpattern hfirst hlast
  · intro first' last' hfirst hlast
    obtain ⟨wider, hwider, htimeline'⟩ := exists_isTimeline hpattern first' last'
    exact ⟨wider, hwider, htimeline.subset htimeline' hfirst hlast⟩

/-- Three weeks under a name for the week of its year: one index a week, all of which a wider window
has too. -/
theorem exists_timeline_weeks : ∃ first last : Instant, first.day = 19723 ∧ last.day = 19743 ∧
    Pattern.isDatePattern "socorro_%Y%W" = true ∧
    IsTimeline "socorro_%Y%W" first last
      ["socorro_202401", "socorro_202402", "socorro_202403"] ∧
    ∀ first' last' : Instant, first' ≤ first → last ≤ last' →
      ∃ wider, covering "socorro_%Y%W" first' last' = .ok wider ∧
        ["socorro_202401", "socorro_202402", "socorro_202403"] ⊆ wider := by
  have hpattern : Pattern.isDatePattern "socorro_%Y%W" = true := by decide +kernel
  have hcovering : covering "socorro_%Y%W" (Instant.midnight 19723 (by decide) (by decide))
      (Instant.midnight 19743 (by decide) (by decide)) =
        .ok ["socorro_202401", "socorro_202402", "socorro_202403"] := rfl
  obtain ⟨names, hnames, htimeline, -, hwider⟩ := exists_timeline hpattern
    (Instant.midnight 19723 (by decide) (by decide))
    (Instant.midnight 19743 (by decide) (by decide))
  rw [hcovering, Except.ok.injEq] at hnames
  subst hnames
  exact ⟨_, _, rfl, rfl, hpattern, htimeline, hwider⟩

end CrashQuery.Index
