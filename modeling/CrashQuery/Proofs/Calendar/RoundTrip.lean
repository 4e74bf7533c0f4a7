import CrashQuery.Calendar.Reading
import CrashQuery.Calendar.Writing
import CrashQuery.Proofs.Calendar.Civil
import CrashQuery.Proofs.Calendar.Order
import CrashQuery.Proofs.Calendar.Stamps
import CrashQuery.Proofs.Text.Ends
import Mathlib

/-!
# Reading back what was written

The text of a day stands for the midnight of the day (`Instant.ofText?_dayText`), and the text of an
instant for its second, if its year has four digits (`Instant.ofText?_secondsText`): the strict form
has no other years, and the loose form has no letter Z.
-/

namespace CrashQuery.Calendar

open Text (digits padded isBlank isBlank_of_isDigit trimStart)

namespace Reading

variable {width n : Nat}

/-- Two digits are read back, whatever follows. -/
theorem short?_twoDigits (hn : n < 100) (rest : List Char) :
    short? (twoDigits n ++ rest) = some (n, rest) := by
  have hread := short?_digits (.ofNat 2 n (by decide) hn) rest
  rwa [Digits.number_ofNat] at hread

/-- Any number of digits is read back up to the next other character. -/
theorem longNumber?_padded {c : Char} (hc : c.isDigit = false) (rest : List Char) :
    longNumber? (padded '0' width n ++ c :: rest) = some (n, c :: rest) := by
  have hdigits : ∀ d ∈ padded '0' width n, d.isDigit = true := fun d => isDigit_of_mem_padded
  have htake : (padded '0' width n ++ c :: rest).takeWhile Char.isDigit = padded '0' width n := by
    rw [List.takeWhile_append_of_pos hdigits, List.takeWhile_cons_of_neg (by simp [hc]),
      List.append_nil]
  have hdrop : (padded '0' width n ++ c :: rest).dropWhile Char.isDigit = c :: rest := by
    rw [List.dropWhile_append_of_pos hdigits, List.dropWhile_cons_of_neg (by simp [hc])]
  have hpos : 1 ≤ (padded '0' width n).length := by
    obtain ⟨d, ds, -, hds⟩ := exists_padded_eq_cons width n
    rw [hds, List.length_cons]
    omega
  unfold longNumber? numberOf?
  rw [htake, hdrop, if_neg (by omega), ofDigitChars_padded]
  rfl

/-- A year is read back in the loose form, with its sign if it has one. -/
theorem year?_yearChars (year : Int) (rest : List Char) :
    year? (yearChars year ++ '-' :: rest) = some (year, '-' :: rest) := by
  unfold yearChars
  split
  · next hyear =>
    have hread := year?_digits (.ofNat 4 year.toNat (by decide) (by omega)) ('-' :: rest)
    rwa [Digits.number_ofNat, Int.toNat_of_nonneg hyear.1] at hread
  · have hlong : longNumber? (padded '0' 4 year.natAbs ++ '-' :: rest) =
        some (year.natAbs, '-' :: rest) := longNumber?_padded (by decide) rest
    have htrim : ∀ c s, isBlank c = false → trimStart (c :: s) = c :: s := by
      intro c s hc
      exact Text.trimStart_eq_self (by simpa using hc)
    by_cases hneg : year < 0
    · rw [if_pos hneg, List.cons_append, year?, htrim _ _ (by decide)]
      simp only [hlong, Option.map_some, Option.some.injEq, Prod.mk.injEq, and_true]
      omega
    · rw [if_neg hneg, List.cons_append, year?, htrim _ _ (by decide)]
      simp only [hlong, Option.map_some, Option.some.injEq, Prod.mk.injEq, and_true]
      omega

/-- A date is read back in the loose form, whatever follows. -/
theorem looseDate?_chars {d : Date} (hmonth : d.month < 100) (hday : d.day < 100)
    (rest : List Char) :
    looseDate? (d.chars ++ rest) = some ((d.year, d.month, d.day), rest) := by
  have hchars : d.chars ++ rest =
      yearChars d.year ++ '-' :: (twoDigits d.month ++ '-' :: (twoDigits d.day ++ rest)) := by
    simp [Date.chars]
  unfold looseDate?
  rw [hchars, year?_yearChars]
  simp [char?, short?_twoDigits hmonth, short?_twoDigits hday]

/-- A sign is not the first of four digits. -/
theorem strict?_of_not_isDigit {c : Char} (hc : c.isDigit = false) (s : List Char) :
    strict? (c :: s) = none := by
  have hnone : number? 4 4 (c :: s) = none := by
    simp [number?, numberOf?, hc]
  unfold strict?
  rw [hnone]
  rfl

end Reading

namespace Instant

/-- The beginning of the second of an instant. -/
def floor (t : Instant) : Instant :=
  { t with
    nano := if t.isLeap then billion else 0
    nano_lt := by
      split <;> decide
    leap_ends_minute := by
      intro h
      split at h
      · next hleap => exact t.leap_ends_minute (of_decide_eq_true hleap)
      · simp [billion] at h }

/-- The beginning of a second is not after it. -/
theorem floor_le (t : Instant) : t.floor ≤ t := by
  have hnano : t.floor.nano ≤ t.nano := by
    simp only [floor]
    split
    · next h => exact of_decide_eq_true h
    · exact Nat.zero_le _
  show (t.day * daySeconds + t.second) * (2 * billion) + (t.floor.nano : Int) ≤
    (t.day * daySeconds + t.second) * (2 * billion) + t.nano
  omega

/-- The beginning of a leap second is in it. -/
@[simp]
theorem isLeap_floor (t : Instant) : t.floor.isLeap = t.isLeap := by
  show decide (billion ≤ if t.isLeap then billion else 0) = t.isLeap
  cases t.isLeap <;> rfl

/-- An instant and the beginning of its second are the same text. -/
@[simp]
theorem secondsText_floor (t : Instant) : t.floor.secondsText = t.secondsText := by
  unfold secondsText stampChars timeChars
  rw [isLeap_floor]
  rfl

end Instant

section OfDay

variable {day : Int} (hmin : minDay ≤ day) (hmax : day ≤ maxDay)

/-- Month and day of a date that exists have two digits. -/
theorem Date.Exists.lt_hundred {d : Date} (h : d.Exists) : d.month < 100 ∧ d.day < 100 := by
  obtain ⟨-, hmonth, -, hday⟩ := h
  have hle := daysInMonth_le d.year d.month
  omega

/-- The fields of a day without a time of day stand for its midnight. -/
theorem toInstant?_midnight :
    Reading.Fields.toInstant?
        ⟨(Date.ofDay day).year, (Date.ofDay day).month, (Date.ofDay day).day, 0, 0, 0, 0⟩ 0 =
      some (Instant.midnight day hmin hmax) := by
  unfold Reading.Fields.toInstant?
  rw [Date.dayOf?_ofDay hmin hmax]
  simp [Instant.make?, Instant.midnight, daySeconds, billion, hmin, hmax]

/-- The parts of an instant make it up. -/
theorem make?_self (t : Instant) : Instant.make? t.day t.second t.nano = some t := by
  unfold Instant.make?
  rw [dif_pos ⟨⟨t.day_ge, t.day_le⟩, t.second_lt, t.nano_lt, t.leap_ends_minute⟩]

/-- The fields of an instant without a fraction stand for the beginning of its second. -/
theorem toInstant?_floor (t : Instant) :
    Reading.Fields.toInstant?
        ⟨(Date.ofDay t.day).year, (Date.ofDay t.day).month, (Date.ofDay t.day).day,
          t.second / 3600, t.second / 60 % 60, t.second % 60 + if t.isLeap then 1 else 0, 0⟩ 0 =
      some t.floor := by
  have hsecond := t.second_lt
  have hleap : t.isLeap = true → t.second % 60 = 59 := fun h =>
    t.leap_ends_minute (of_decide_eq_true h)
  simp only [daySeconds] at hsecond
  have hclock : t.second / 3600 < 24 ∧ t.second / 60 % 60 < 60 ∧
      (t.second % 60 + if t.isLeap then 1 else 0) ≤ 60 := by
    split <;> omega
  -- The second of a leap second is read as the one before it, and its nanoseconds count from there.
  have hread : t.second / 3600 * 3600 + t.second / 60 % 60 * 60 +
      min (t.second % 60 + if t.isLeap then 1 else 0) 59 = t.second := by
    split
    · next h =>
      have h59 := hleap h
      omega
    · omega
  have hnano : (0 + if (t.second % 60 + if t.isLeap then 1 else 0) = 60 then billion else 0) =
      t.floor.nano := by
    simp only [Instant.floor]
    by_cases hl : t.isLeap = true
    · have h59 := hleap hl
      rw [if_pos hl, if_pos hl, if_pos (by omega), Nat.zero_add]
    · rw [if_neg hl, if_neg hl, if_neg (by omega)]
  unfold Reading.Fields.toInstant?
  rw [Date.dayOf?_ofDay t.day_ge t.day_le]
  simp only [hclock, hread, hnano, and_self, if_true]
  have hday : t.day + ((t.second : Int) - 0 * 60) / daySeconds = t.floor.day := by
    simp only [Instant.floor, daySeconds]
    omega
  have hrest : (((t.second : Int) - 0 * 60) % daySeconds).toNat = t.floor.second := by
    simp only [Instant.floor, daySeconds]
    omega
  rw [hday, hrest]
  exact make?_self t.floor

end OfDay

/-- The digits of a date that exists, if its year has four. -/
def Date.plain (d : Date) (hyear : 0 ≤ d.year ∧ d.year ≤ 9999) (h : d.Exists) :
    Reading.PlainDate where
  year := .four d.year.toNat (by omega)
  month := .two d.month h.lt_hundred.1
  day := .two d.day h.lt_hundred.2

/-- A date is written by its digits. -/
theorem Date.chars_plain {d : Date} (hyear : 0 ≤ d.year ∧ d.year ≤ 9999) (h : d.Exists) :
    (d.plain hyear h).chars = d.chars := by
  simp [Reading.PlainDate.chars, plain, Reading.Digits.two, Reading.Digits.four,
    Reading.Digits.ofNat, chars, yearChars, twoDigits, hyear]

/-- A date has no strict form. -/
theorem strict?_date {d : Date} (h : d.Exists) : Reading.strict? d.chars = none := by
  by_cases hyear : 0 ≤ d.year ∧ d.year ≤ 9999
  · have hstrict := Reading.strict?_plain (d.plain hyear h) []
    rw [List.append_nil, Date.chars_plain] at hstrict
    exact hstrict
  · unfold Date.chars yearChars
    rw [if_neg hyear]
    split <;> exact Reading.strict?_of_not_isDigit (by decide) _

namespace Instant

/-- The text of a day in the calendar stands for its midnight. -/
theorem ofText?_dayText {day : Int} (hmin : minDay ≤ day) (hmax : day ≤ maxDay) :
    ofText? (dayText day) = some (midnight day hmin hmax) := by
  have hexists := Date.exists_ofDay day
  have hloose := Reading.looseDate?_chars hexists.lt_hundred.1 hexists.lt_hundred.2 []
  rw [List.append_nil] at hloose
  have htime : Reading.looseTime? (Date.ofDay day).chars = none := by
    unfold Reading.looseTime?
    rw [hloose]
    rfl
  have hmidnight : Reading.midnight? (Date.ofDay day).chars = some (midnight day hmin hmax) := by
    unfold Reading.midnight?
    rw [hloose]
    exact toInstant?_midnight hmin hmax
  simp only [ofText?, dayText, String.toList_ofList]
  rw [strict?_date hexists, htime, hmidnight]
  rfl

/-- Whether the year of an instant is written with four digits and no sign. -/
def HasFourDigits (t : Instant) : Prop :=
  0 ≤ (Date.ofDay t.day).year ∧ (Date.ofDay t.day).year ≤ 9999

instance (t : Instant) : Decidable t.HasFourDigits := inferInstanceAs (Decidable (_ ∧ _))

/-- The time of day has two digits for each part. -/
theorem time_lt_hundred (t : Instant) : t.second / 3600 < 100 ∧ t.second / 60 % 60 < 100 ∧
    (t.second % 60 + if t.isLeap then 1 else 0) < 100 := by
  have hsecond := t.second_lt
  simp only [daySeconds] at hsecond
  refine ⟨by omega, by omega, ?_⟩
  split <;> omega

/-- The stamp of an instant whose year has four digits. -/
def stamp (t : Instant) (hyear : t.HasFourDigits) : Reading.Stamp where
  date := (Date.ofDay t.day).plain hyear (Date.exists_ofDay t.day)
  time :=
    { hour := .two (t.second / 3600) t.time_lt_hundred.1
      minute := .two (t.second / 60 % 60) t.time_lt_hundred.2.1
      second := .two (t.second % 60 + if t.isLeap then 1 else 0) t.time_lt_hundred.2.2
      fraction := .none }

section Stamp

variable {t : Instant} (hyear : t.HasFourDigits)

/-- An instant is written by its stamp. -/
theorem chars_stamp : (t.stamp hyear).chars = t.stampChars := by
  have hdate : (t.stamp hyear).date.chars = (Date.ofDay t.day).chars :=
    Date.chars_plain hyear (Date.exists_ofDay t.day)
  have htime : (t.stamp hyear).time.chars = t.timeChars := by
    simp [stamp, Reading.PlainTime.chars, Reading.Fraction.chars, Reading.Digits.two,
      Reading.Digits.ofNat, timeChars, twoDigits]
  rw [Reading.Stamp.chars, hdate, htime]
  rfl

/-- The stamp of an instant stands for the beginning of its second. -/
theorem toInstant?_stamp : (t.stamp hyear).fields.toInstant? 0 = some t.floor := by
  rw [← toInstant?_floor]
  simp only [Reading.Stamp.fields, stamp, Date.plain, Reading.Digits.two, Reading.Digits.four,
    Reading.Digits.number_ofNat, Int.toNat_of_nonneg hyear.1]
  rfl

end Stamp

/-- The loose forms read everything of the text of an instant but the letter at the end. -/
theorem loose?_secondsText (t : Instant) :
    Reading.looseTime? (t.stampChars ++ ['Z']) = none ∧
      Reading.midnight? (t.stampChars ++ ['Z']) = none := by
  have hexists := Date.exists_ofDay t.day
  obtain ⟨hhour, hminute, hsec⟩ := t.time_lt_hundred
  have hchars : t.stampChars ++ ['Z'] = (Date.ofDay t.day).chars ++ 'T' ::
      (twoDigits (t.second / 3600) ++ ':' :: (twoDigits (t.second / 60 % 60) ++ ':' ::
        (twoDigits (t.second % 60 + if t.isLeap then 1 else 0) ++ ['Z']))) := by
    simp [stampChars, timeChars]
  have hloose := Reading.looseDate?_chars hexists.lt_hundred.1 hexists.lt_hundred.2
    ('T' :: (twoDigits (t.second / 3600) ++ ':' :: (twoDigits (t.second / 60 % 60) ++ ':' ::
      (twoDigits (t.second % 60 + if t.isLeap then 1 else 0) ++ ['Z']))))
  rw [← hchars] at hloose
  have hfraction : Reading.fraction? ['Z'] = some (0, ['Z']) := rfl
  constructor
  · unfold Reading.looseTime?
    refine (Reading.bind_of_eq hloose).trans ?_
    refine (Reading.bind_of_eq (Reading.char?_cons 'T' _)).trans ?_
    refine (Reading.bind_of_eq (Reading.short?_twoDigits hhour _)).trans ?_
    refine (Reading.bind_of_eq (Reading.char?_cons ':' _)).trans ?_
    refine (Reading.bind_of_eq (Reading.short?_twoDigits hminute _)).trans ?_
    refine (Reading.bind_of_eq (Reading.char?_cons ':' _)).trans ?_
    refine (Reading.bind_of_eq (Reading.short?_twoDigits hsec _)).trans ?_
    exact Reading.bind_of_eq hfraction
  · unfold Reading.midnight?
    rw [hloose]
    rfl

/-- The text of an instant stands for the beginning of its second, if its year has four digits, and
otherwise for nothing. -/
theorem ofText?_secondsText (t : Instant) :
    ofText? t.secondsText = if t.HasFourDigits then some t.floor else none := by
  by_cases hyear : t.HasFourDigits
  · have hends : Reading.EndsFraction ['Z'] := by simp [Reading.EndsFraction]
    have hread := ofText?_stamp_append (t.stamp hyear) hends (show _ = some (0, []) from rfl)
    rw [if_pos hyear, ← toInstant?_stamp hyear, ← hread, chars_stamp]
    rfl
  · obtain ⟨htime, hmidnight⟩ := loose?_secondsText t
    have hstrict : Reading.strict? (t.stampChars ++ ['Z']) = none := by
      unfold HasFourDigits at hyear
      unfold stampChars Date.chars yearChars
      rw [if_neg hyear]
      split <;> exact Reading.strict?_of_not_isDigit (by decide) _
    rw [if_neg hyear]
    simp only [ofText?, secondsText, String.toList_ofList]
    rw [hstrict, htime, hmidnight]
    rfl

end Instant

section Blank

/-- Filled numbers have no blanks. -/
theorem isBlank_of_mem_padded {width n : Nat} {c : Char} (h : c ∈ padded '0' width n) :
    isBlank c = false :=
  isBlank_of_isDigit (isDigit_of_mem_padded h)

/-- Dates have no blanks. -/
theorem isBlank_of_mem_chars {d : Date} {c : Char} (h : c ∈ d.chars) : isBlank c = false := by
  simp only [Date.chars, List.mem_append, List.mem_cons] at h
  rcases h with (h | rfl | h) | rfl | h
  · unfold yearChars at h
    split at h
    · exact isBlank_of_mem_padded h
    · rcases List.mem_cons.1 h with rfl | h
      · split <;> decide
      · exact isBlank_of_mem_padded h
  · decide
  · exact isBlank_of_mem_padded h
  · decide
  · exact isBlank_of_mem_padded h

/-- Instants have no blanks. -/
theorem isBlank_of_mem_secondsText {t : Instant} {c : Char} (h : c ∈ t.secondsText.toList) :
    isBlank c = false := by
  simp only [Instant.secondsText, String.toList_ofList, Instant.stampChars, Instant.timeChars,
    List.mem_append, List.mem_cons, List.not_mem_nil, or_false] at h
  rcases h with (h | rfl | (h | rfl | h) | rfl | h) | rfl
  · exact isBlank_of_mem_chars h
  · decide
  · exact isBlank_of_mem_padded h
  · decide
  · exact isBlank_of_mem_padded h
  · decide
  · exact isBlank_of_mem_padded h
  · decide

end Blank

end CrashQuery.Calendar
