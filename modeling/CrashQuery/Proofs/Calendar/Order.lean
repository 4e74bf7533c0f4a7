import CrashQuery.Calendar.Instant

/-!
# The order of instants

Instants are ordered by their ranks, which makes the order linear and `min` and `max` the least and
the greatest of two. A later instant does not lie on an earlier day, an instant that many days
before another is not after it, and all instants lie between `earliest` and `latest`.
-/

namespace CrashQuery.Calendar.Instant

variable {a b t x : Instant}

/-- The order is that of the ranks. -/
theorem le_iff_rank : a ≤ b ↔ a.rank ≤ b.rank := Iff.rfl

instance : Std.IsLinearOrder Instant where
  le_refl a := Int.le_refl a.rank
  le_trans _ _ _ := Int.le_trans
  le_antisymm _ _ hab hba := rank_inj (Int.le_antisymm hab hba)
  le_total a b := Int.le_total a.rank b.rank

/-- The least of two instants is the first one unless the other is less. -/
theorem min_def (a b : Instant) : min a b = if a ≤ b then a else b := rfl

/-- The greatest of two instants is the first one unless the other is greater. -/
theorem max_def (a b : Instant) : max a b = if a ≤ b then b else a := rfl

instance : Std.LawfulOrderMin Instant where
  min_eq_or a b := by
    rw [min_def]
    split
    · exact Or.inl rfl
    · exact Or.inr rfl
  le_min_iff a b c := by
    rw [min_def]
    simp only [le_iff_rank]
    split <;> omega

instance : Std.LawfulOrderMax Instant where
  max_eq_or a b := by
    rw [max_def]
    split
    · exact Or.inr rfl
    · exact Or.inl rfl
  max_le_iff a b c := by
    rw [max_def]
    simp only [le_iff_rank]
    split <;> omega

/-- A later instant does not lie on an earlier day. -/
theorem day_le_of_le (h : a ≤ b) : a.day ≤ b.day := by
  have ha := a.second_lt
  have hb := b.second_lt
  have ha' := a.nano_lt
  have hb' := b.nano_lt
  simp only [le_iff_rank, rank, daySeconds, billion] at *
  omega

/-- An instant that is made has the given parts. -/
theorem parts_of_make? {day : Int} {second nano : Nat} (h : make? day second nano = some x) :
    x.day = day ∧ x.second = second ∧ x.nano = nano := by
  unfold make? at h
  split at h
  · rw [Option.some.injEq] at h
    subst h
    exact ⟨rfl, rfl, rfl⟩
  · simp at h

/-- A positive number of days back lies the same second, or the one after a leap second, which may be
on the next day. -/
theorem minusDays?_of_pos {days : Int} (hdays : 0 < days) : t.minusDays? days =
    if t.isLeap = false then make? (t.day - days) t.second t.nano
    else if t.second + 1 = daySeconds then make? (t.day + 1 - days) 0 (t.nano - billion)
    else make? (t.day - days) (t.second + 1) (t.nano - billion) := by
  have hne : ¬ days = 0 := by omega
  have hnot : ¬ days < 0 := by omega
  unfold minusDays?
  cases t.isLeap <;> simp [hne, hnot]

/-- An instant that many days before another is not after it. -/
theorem minusDays?_le {days : Int} (hdays : 0 ≤ days) (h : t.minusDays? days = some x) : x ≤ t := by
  have hsecond := t.second_lt
  have hnano := t.nano_lt
  simp only [le_iff_rank, rank, daySeconds, billion] at hsecond hnano ⊢
  unfold minusDays? at h
  split at h
  · obtain ⟨hd, hs, hn⟩ := parts_of_make? h
    rw [hd, hs, hn]
    omega
  · -- A leap second is left for the second after it, but then by a day at least.
    next hmoves =>
    obtain ⟨hne, hleap⟩ := not_or.1 hmoves
    have hleap' : t.isLeap = true := by simpa using hleap
    have hge : 1000000000 ≤ t.nano := of_decide_eq_true hleap'
    rw [if_neg (by omega)] at h
    split at h
    · obtain ⟨hd, hs, hn⟩ := parts_of_make? h
      rw [hd, hs, hn]
      omega
    · obtain ⟨hd, hs, hn⟩ := parts_of_make? h
      rw [hd, hs, hn]
      omega

/-- The beginning of a day in the calendar. -/
def midnight (day : Int) (hmin : minDay ≤ day) (hmax : day ≤ maxDay) : Instant where
  day := day
  second := 0
  nano := 0
  day_ge := hmin
  day_le := hmax
  second_lt := by decide
  nano_lt := by decide
  leap_ends_minute := by decide

/-- The beginning of a day is not after what lies on it. -/
theorem midnight_le (t : Instant) : midnight t.day t.day_ge t.day_le ≤ t := by
  show (t.day * daySeconds + (0 : Nat)) * (2 * billion) + ((0 : Nat) : Int) ≤
    (t.day * daySeconds + t.second) * (2 * billion) + t.nano
  simp only [daySeconds, billion]
  omega

/-- The beginning of the calendar. -/
def earliest : Instant := midnight minDay (by decide) (by decide)

/-- The end of the calendar, in the leap second of its last day. -/
def latest : Instant where
  day := maxDay
  second := daySeconds - 1
  nano := 2 * billion - 1
  day_ge := by decide
  day_le := by decide
  second_lt := by decide
  nano_lt := by decide
  leap_ends_minute := by decide

/-- Nothing is before the beginning of the calendar. -/
theorem earliest_le (t : Instant) : earliest ≤ t := by
  have hday := t.day_ge
  show (minDay * daySeconds + (0 : Nat)) * (2 * billion) + ((0 : Nat) : Int) ≤
    (t.day * daySeconds + t.second) * (2 * billion) + t.nano
  simp only [daySeconds, billion]
  omega

/-- Nothing is after the end of the calendar. -/
theorem le_latest (t : Instant) : t ≤ latest := by
  have hday := t.day_le
  have hsecond := t.second_lt
  have hnano := t.nano_lt
  show (t.day * daySeconds + t.second) * (2 * billion) + (t.nano : Int) ≤
    (maxDay * daySeconds + (86399 : Nat)) * (2 * billion) + (1999999999 : Nat)
  simp only [daySeconds, billion] at *
  omega

end CrashQuery.Calendar.Instant
