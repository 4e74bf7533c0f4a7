import CrashQuery.Calendar.Date

/-!
# Days and dates

`Date.ofDay` and `Date.toDay` belong together: the date of a day exists (`Date.exists_ofDay`), lies
in the calendar when the day does (`Date.year_ofDay`), and has the number of the day
(`Date.toDay_ofDay`). The proof goes through the year of a day, `yearOf_spec`, and the month of a
day of a year, `monthOf_spec`.
-/

namespace CrashQuery.Calendar

/-- The number of days of a year. -/
def daysInYear (year : Int) : Nat := if isLeapYear year then 366 else 365

/-- A year has the days of its months. -/
theorem daysBeforeMonth_thirteen (year : Int) : daysBeforeMonth year 13 = daysInYear year := by
  unfold daysInYear
  cases hleap : isLeapYear year <;> simp [daysBeforeMonth, daysInMonth, hleap]

/-- The days before a month are those before the month before it and the days of that. -/
theorem daysBeforeMonth_succ (year : Int) {month : Nat} (h : 1 ≤ month) :
    daysBeforeMonth year (month + 1) = daysBeforeMonth year month + daysInMonth year month := by
  cases month with
  | zero => omega
  | succ n => rfl

/-- No month has more than 31 days. -/
theorem daysInMonth_le (year : Int) (month : Nat) : daysInMonth year month ≤ 31 := by
  unfold daysInMonth
  split
  · split <;> omega
  · split <;> omega

/-- Nor do the months before a month have more than that, one with another. -/
theorem daysBeforeMonth_le_mul (year : Int) (month : Nat) :
    daysBeforeMonth year month ≤ 31 * month := by
  induction month with
  | zero => exact Nat.le_refl 0
  | succ n ih =>
    rcases Nat.eq_zero_or_pos n with rfl | hpos
    · exact Nat.zero_le _
    · have hsucc := daysBeforeMonth_succ year hpos
      have hdays := daysInMonth_le year n
      omega

/-- A year has at least 365 days. -/
theorem le_daysInYear (year : Int) : 365 ≤ daysInYear year := by
  unfold daysInYear
  split <;> omega

/-- A year that four divides has 366 days, unless a hundred divides it and four hundred does not. -/
theorem daysInYear_of_leap {year : Int} (h4 : year % 4 = 0) (h : year % 100 ≠ 0 ∨ year % 400 = 0) :
    daysInYear year = 366 := by
  unfold daysInYear isLeapYear
  rw [if_pos (decide_eq_true ⟨h4, h⟩)]

/-- The days before a year are those before the year before it and the days of that. -/
theorem daysBeforeYear_succ (year : Int) :
    daysBeforeYear (year + 1) = daysBeforeYear year + daysInYear year := by
  simp only [daysBeforeYear, daysInYear, isLeapYear, decide_eq_true_eq]
  split <;> omega

/-- A later year begins after the days of an earlier one. -/
theorem daysBeforeYear_le {year later : Int} (h : year < later) :
    daysBeforeYear year + daysInYear year ≤ daysBeforeYear later := by
  obtain ⟨n, rfl⟩ : ∃ n : Nat, later = year + 1 + n := ⟨(later - year - 1).toNat, by omega⟩
  induction n with
  | zero =>
    have hsucc := daysBeforeYear_succ year
    rw [Int.natCast_zero, Int.add_zero]
    omega
  | succ n ih =>
    have hle := ih (by omega)
    have hsucc := daysBeforeYear_succ (year + 1 + n)
    have heq : year + 1 + ((n + 1 : Nat) : Int) = year + 1 + n + 1 := by omega
    rw [heq, hsucc]
    omega

/-- A later year does not begin earlier. -/
theorem daysBeforeYear_mono {year later : Int} (h : year ≤ later) :
    daysBeforeYear year ≤ daysBeforeYear later := by
  rcases Int.lt_or_eq_of_le h with hlt | rfl
  · have hle := daysBeforeYear_le hlt
    omega
  · exact Int.le_refl _

/-- The year of a day begins before it, and lasts beyond it. -/
theorem yearOf_spec (day : Int) :
    daysBeforeYear (yearOf day).1 + (yearOf day).2 = day + epochOffset ∧
      (yearOf day).2 < daysInYear (yearOf day).1 := by
  simp only [yearOf]
  generalize day + epochOffset = n
  obtain ⟨cycle, hcycle⟩ : ∃ cycle, cycle = n / 146097 := ⟨_, rfl⟩
  obtain ⟨r, hr⟩ : ∃ r, r = n % 146097 := ⟨_, rfl⟩
  obtain ⟨century, hcentury⟩ : ∃ century, century = min (r / 36524) 3 := ⟨_, rfl⟩
  obtain ⟨c, hc⟩ : ∃ c, c = r - 36524 * century := ⟨_, rfl⟩
  obtain ⟨quad, hquad⟩ : ∃ quad, quad = c / 1461 := ⟨_, rfl⟩
  obtain ⟨q, hq⟩ : ∃ q, q = c % 1461 := ⟨_, rfl⟩
  obtain ⟨single, hsingle⟩ : ∃ single, single = min (q / 365) 3 := ⟨_, rfl⟩
  rw [← hcycle, ← hr, ← hcentury, ← hc, ← hquad, ← hq, ← hsingle]
  -- The parts of a day lie in their ranges, of which the last can be one greater.
  have hc0 : 0 ≤ c ∧ c ≤ 36524 ∧ (c = 36524 → century = 3) := by omega
  have hcent : 0 ≤ century ∧ century ≤ 3 := by omega
  have hquad0 : 0 ≤ quad ∧ quad ≤ 24 := by omega
  have hq0 : 0 ≤ q ∧ q ≤ 1460 ∧ c = 1461 * quad + q := by omega
  have hsingle0 : 0 ≤ single ∧ single ≤ 3 := by omega
  have hrest : 0 ≤ q - 365 * single ∧ q - 365 * single ≤ 365 ∧
      (q - 365 * single = 365 → single = 3) := by omega
  have hn : n = 146097 * cycle + 36524 * century + c := by omega
  generalize hyear : 400 * cycle + 100 * century + 4 * quad + single + 1 = year
  constructor
  · -- The years before this one are counted by the same divisions.
    have h4 : (year - 1) / 4 = 100 * cycle + 25 * century + quad := by omega
    have h100 : (year - 1) / 100 = 4 * cycle + century := by omega
    have h400 : (year - 1) / 400 = cycle := by omega
    simp only [daysBeforeYear]
    rw [h4, h100, h400]
    omega
  · by_cases hlast : q - 365 * single = 365
    · -- Only the last of four years has a day with this number, and then it is a leap year.
      have hthree := hrest.2.2 hlast
      have h4 : year % 4 = 0 := by omega
      have hleap : year % 100 ≠ 0 ∨ year % 400 = 0 := by omega
      rw [daysInYear_of_leap h4 hleap]
      omega
    · have hle := le_daysInYear year
      omega

/-- The month of a day of the year begins before it, and lasts beyond it. -/
theorem monthOf_spec (year : Int) {fuel month rest : Nat} (hmonth : 1 ≤ month)
    (hfuel : month + fuel = 12)
    (hrest : daysBeforeMonth year month + rest < daysInYear year) :
    (⟨year, (monthOf year fuel month rest).1, (monthOf year fuel month rest).2⟩ : Date).Exists ∧
      daysBeforeMonth year (monthOf year fuel month rest).1 + (monthOf year fuel month rest).2 =
        daysBeforeMonth year month + rest + 1 := by
  -- The month and the fuel add up to December, where all days that are left must lie.
  induction fuel generalizing month rest with
  | zero =>
    obtain rfl : month = 12 := by omega
    have hdays := daysBeforeMonth_succ year hmonth
    rw [daysBeforeMonth_thirteen] at hdays
    simp only [monthOf, Date.Exists]
    omega
  | succ fuel ih =>
    rw [monthOf]
    split
    · next hlt =>
      simp only [Date.Exists]
      omega
    · next hge =>
      have hdays := daysBeforeMonth_succ year hmonth
      have hsucc := ih (by omega) (by omega)
        (show daysBeforeMonth year (month + 1) + (rest - daysInMonth year month) <
          daysInYear year by omega)
      refine ⟨hsucc.1, ?_⟩
      rw [hsucc.2]
      omega

namespace Date

/-- The year of the date of a day. -/
theorem ofDay_year (day : Int) : (ofDay day).year = (yearOf day).1 := rfl

/-- The date of a day exists, and is as many days into its year as the day. -/
theorem ofDay_spec (day : Int) :
    (ofDay day).Exists ∧ (ofDay day).ordinal = (yearOf day).2 + 1 := by
  have hyear := (yearOf_spec day).2
  have hmonth := monthOf_spec (yearOf day).1 (Nat.le_refl 1) (show 1 + 11 = 12 by rfl)
    (show daysBeforeMonth (yearOf day).1 1 + (yearOf day).2 < daysInYear (yearOf day).1 by
      simpa [daysBeforeMonth] using hyear)
  refine ⟨hmonth.1, ?_⟩
  have hordinal := hmonth.2
  simp only [daysBeforeMonth, Nat.zero_add] at hordinal
  exact hordinal

/-- The date of a day exists. -/
theorem exists_ofDay (day : Int) : (ofDay day).Exists := (ofDay_spec day).1

/-- The date of a day has the number of the day. -/
theorem toDay_ofDay (day : Int) : (ofDay day).toDay = day := by
  have hordinal := (ofDay_spec day).2
  have hyear := (yearOf_spec day).1
  unfold ordinal at hordinal
  unfold toDay
  rw [ofDay_year] at hordinal ⊢
  omega

/-- The date of a day in the calendar has one of its years. -/
theorem year_ofDay {day : Int} (hmin : minDay ≤ day) (hmax : day ≤ maxDay) :
    minYear ≤ (ofDay day).year ∧ (ofDay day).year ≤ maxYear := by
  obtain ⟨hyear, hrest⟩ := yearOf_spec day
  have hfirst : minDay + epochOffset = daysBeforeYear minYear := by decide
  have hlast : maxDay + epochOffset + 1 = daysBeforeYear (maxYear + 1) := by decide
  rw [ofDay_year]
  constructor
  · refine Int.not_lt.1 fun hlt => ?_
    have hle := daysBeforeYear_le hlt
    omega
  · refine Int.not_lt.1 fun hlt => ?_
    have hle := daysBeforeYear_mono (Int.add_one_le_of_lt hlt)
    omega

/-- The date of a day in the calendar has a day, which is that day. -/
theorem dayOf?_ofDay {day : Int} (hmin : minDay ≤ day) (hmax : day ≤ maxDay) :
    dayOf? (ofDay day).year (ofDay day).month (ofDay day).day = some day := by
  unfold dayOf?
  rw [if_pos ⟨exists_ofDay day, year_ofDay hmin hmax⟩]
  exact congrArg some (toDay_ofDay day)

end Date

end CrashQuery.Calendar
