import CrashQuery.Proofs.Calendar.Order

/-!
# The time between instants

Leap seconds change the time between two instants by one second at most (`Instant.leapsBetween_le`,
`Instant.le_leapsBetween`), so that it can be compared with a number of days: it is less than a span
can have (`Instant.nanosSince_le`), and it is not more than a number of days from the instant so many
days earlier on, also where a leap second has been left on the way
(`Instant.nanosSince_minusDays?_le`).
-/

namespace CrashQuery.Calendar.Instant

variable {a b t x : Instant} {days : Int}

/-- At most one leap second is added. -/
theorem leapsBetween_le (a b : Instant) : leapsBetween a b ≤ 1 := by
  unfold leapsBetween
  split
  · split <;> decide
  · split
    · split <;> decide
    · decide

/-- At most one leap second is taken away. -/
theorem le_leapsBetween (a b : Instant) : -1 ≤ leapsBetween a b := by
  unfold leapsBetween
  split
  · split <;> decide
  · split
    · split <;> decide
    · decide

/-- An instant that is not more than so many days after another lies at most so many days and one
after the day of the other. -/
theorem day_le_of_isMoreThanDaysAfter (h : a.isMoreThanDaysAfter b days = false) :
    a.day ≤ b.day + days + 1 := by
  have ha := a.second_lt
  have hb := b.second_lt
  have hb' := b.nano_lt
  have hleaps := le_leapsBetween a b
  have hspan := of_decide_eq_false h
  -- Less than two days are left for the two times of day and the leap seconds.
  simp only [nanosSince, unixSeconds, daySeconds, billion] at ha hb hb' hspan
  omega

/-- The whole calendar is shorter than a span can be. -/
theorem nanosSince_le (a b : Instant) : a.nanosSince b ≤ maxSpanDays * daySeconds * billion := by
  have hcalendar : maxDay - minDay + 2 ≤ maxSpanDays := by decide
  have ha := a.day_le
  have hb := b.day_ge
  have hsecond := a.second_lt
  have hnano := a.nano_lt
  have hleaps := leapsBetween_le a b
  simp only [nanosSince, unixSeconds, daySeconds, billion] at hsecond hnano ⊢
  omega

/-- From the instant so many days earlier on not more than so many days have passed. -/
theorem nanosSince_minusDays?_le (hdays : 0 < days) (h : t.minusDays? days = some x) :
    t.nanosSince x ≤ days * daySeconds * billion := by
  rw [minusDays?_of_pos hdays] at h
  cases hleap : t.isLeap with
  | false =>
    rw [hleap, if_pos rfl] at h
    obtain ⟨hday, hsecond, hnano⟩ := parts_of_make? h
    have hleaps : leapsBetween t x = 0 := by simp [leapsBetween, hsecond]
    simp only [nanosSince, unixSeconds, hleaps, daySeconds, billion]
    omega
  | true =>
    have hge : billion ≤ t.nano := of_decide_eq_true hleap
    rw [hleap, if_neg (by decide)] at h
    split at h
    · -- The second after the leap second is the first one of a day.
      next hend =>
      obtain ⟨hday, hsecond, hnano⟩ := parts_of_make? h
      have hback : x.second < t.second := by
        simp only [daySeconds] at hend
        omega
      have hleft : x.isLeap = false := by
        have hlt := t.nano_lt
        unfold isLeap
        rw [decide_eq_false_iff_not]
        omega
      have hleaps : leapsBetween t x = 0 := by simp [leapsBetween, hback, hleft]
      simp only [nanosSince, unixSeconds, hleaps, daySeconds, billion] at hend hge hnano ⊢
      omega
    · obtain ⟨hday, hsecond, hnano⟩ := parts_of_make? h
      have hforth : ¬ x.second < t.second ∧ t.second < x.second := by omega
      have hleaps : leapsBetween t x = -1 := by simp [leapsBetween, hforth, hleap]
      simp only [nanosSince, unixSeconds, hleaps, daySeconds, billion] at hge hnano ⊢
      omega

end CrashQuery.Calendar.Instant
