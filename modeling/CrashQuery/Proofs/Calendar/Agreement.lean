import CrashQuery.Proofs.Calendar.RoundTrip
import CrashQuery.Proofs.Calendar.Stamps
import CrashQuery.Request.Operand

/-!
# Texts that stand for one instant

The fields of a stamp stand for instants that are as far apart as the places where they are read
(`Reading.Fields.exists_toInstant?`), since a year of four digits lies well inside the calendar. So
the spellings of an instant agree, with an offset or without one, and so do those that instants are
written in: `Instant.spellings_agree`.
-/

namespace CrashQuery.Calendar

/-- A day of a year from 0 to 9999 has days of the calendar on both sides. -/
theorem lt_day_of_dayOf? {year : Int} {month dayOfMonth : Nat} {day : Int}
    (hyear : 0 ≤ year ∧ year ≤ 9999) (h : dayOf? year month dayOfMonth = some day) :
    minDay < day ∧ day < maxDay := by
  simp only [dayOf?] at h
  split at h
  · next hexists =>
    obtain ⟨⟨hmonth, hmonth', hday, hday'⟩, -, -⟩ := hexists
    rw [← Option.some.inj h]
    have hmonths := daysBeforeMonth_le_mul year month
    have hdays := daysInMonth_le year month
    have hfirst := daysBeforeYear_mono hyear.1
    have hlast := daysBeforeYear_mono hyear.2
    -- The first day of the year 0 and the last of 9999 are far from the ends of the calendar.
    have hmin : minDay + 1 < daysBeforeYear 0 - epochOffset := by decide
    have hmax : daysBeforeYear 9999 - epochOffset + 500 < maxDay := by decide
    simp only at hmonth' hday hday'
    simp only [Date.toDay]
    omega
  · cases h

/-- Whether an instant is so many minutes after another, with the same second and the same part of
it. -/
structure Instant.IsMinutesAfter (x t : Instant) (minutes : Int) : Prop where
  /-- So many minutes lie between them. -/
  unixSeconds_eq : x.unixSeconds = t.unixSeconds + minutes * 60
  /-- The second of the minute is the same. -/
  second_eq : x.second % 60 = t.second % 60
  /-- So is the part of the second, which tells a leap second from the one before it. -/
  nano_eq : x.nano = t.nano

/-- Less than a day away from an instant inside the calendar there is one so many minutes earlier. -/
theorem Instant.exists_make? {t : Instant} {offset : Int} (hmin : minDay < t.day)
    (hmax : t.day < maxDay) (hoffset : -1440 < offset ∧ offset < 1440) :
    ∃ x, make? (t.day + ((t.second : Int) - offset * 60) / daySeconds)
        (((t.second : Int) - offset * 60) % daySeconds).toNat t.nano = some x ∧
      x.IsMinutesAfter t (-offset) := by
  have hsecond := t.second_lt
  have hleap := t.leap_ends_minute
  simp only [daySeconds] at hsecond ⊢
  -- An offset has whole minutes, so a leap second stays at the end of its minute.
  have hparts : (minDay ≤ t.day + ((t.second : Int) - offset * 60) / 86400 ∧
        t.day + ((t.second : Int) - offset * 60) / 86400 ≤ maxDay) ∧
      (((t.second : Int) - offset * 60) % 86400).toNat < daySeconds ∧ t.nano < 2 * billion ∧
      (billion ≤ t.nano → (((t.second : Int) - offset * 60) % 86400).toNat % 60 = 59) := by
    refine ⟨⟨by omega, by omega⟩, ?_, t.nano_lt, fun hge => ?_⟩
    · simp only [daySeconds]
      omega
    · have h59 := hleap hge
      omega
  refine ⟨_, dif_pos hparts, ?_, ?_, rfl⟩
  · simp only [unixSeconds, daySeconds]
    omega
  · show (((t.second : Int) - offset * 60) % 86400).toNat % 60 = t.second % 60
    omega

/-- Fields of a year from 0 to 9999 that stand for an instant in universal time stand in a place
ahead of it for the instant so many minutes earlier. -/
theorem Reading.Fields.exists_toInstant? {f : Fields} {t : Instant} {offset : Int}
    (hyear : 0 ≤ f.year ∧ f.year ≤ 9999) (hoffset : -1440 < offset ∧ offset < 1440)
    (h : f.toInstant? 0 = some t) :
    ∃ x, f.toInstant? offset = some x ∧ x.IsMinutesAfter t (-offset) := by
  unfold toInstant? at h ⊢
  cases hday : dayOf? f.year f.month f.day with
  | none =>
    rw [hday] at h
    cases h
  | some day =>
    obtain ⟨hmin, hmax⟩ := lt_day_of_dayOf? hyear hday
    rw [hday] at h
    simp only at h ⊢
    split at h
    · next hclock =>
      rw [if_pos hclock]
      obtain ⟨hd, hs, hn⟩ := Instant.parts_of_make? h
      -- In universal time the fields are the day and the second of the instant.
      have hsecond : f.hour * 3600 + f.minute * 60 + min f.second 59 < 86400 := by omega
      simp only [daySeconds] at hd hs
      have htday : t.day = day := by omega
      have htsecond : t.second = f.hour * 3600 + f.minute * 60 + min f.second 59 := by omega
      rw [← htday, ← htsecond, ← hn]
      rw [← htday] at hmin hmax
      exact Instant.exists_make? hmin hmax hoffset
    · cases h

namespace Reading

/-- An offset from universal time as text. -/
def offsetChars (sign : Char) (hours minutes : Nat) : List Char :=
  sign :: (twoDigits hours ++ ':' :: twoDigits minutes)

/-- An offset does not go on with a fraction. -/
theorem endsFraction_offsetChars {sign : Char} {hours minutes : Nat} (hdigit : sign.isDigit = false)
    (hpoint : sign ≠ '.') : EndsFraction (offsetChars sign hours minutes) := by
  simp [EndsFraction, offsetChars, hdigit, hpoint]

section Offset

variable {hours minutes : Nat} (hhours : hours < 24) (hminutes : minutes < 60)

include hhours hminutes

/-- Hours and minutes of an offset are read. -/
theorem clockOffset?_twoDigits :
    clockOffset? (twoDigits hours ++ ':' :: twoDigits minutes) = some (hours * 60 + minutes, []) := by
  have hhour := number?_digits (.ofNat 2 hours (by decide) (by omega)) (Nat.le_refl 2)
    (':' :: twoDigits minutes)
  have hminute := number?_digits (.ofNat 2 minutes (by decide) (by omega)) (Nat.le_refl 2) []
  rw [Digits.number_ofNat] at hhour hminute
  rw [List.append_nil] at hminute
  unfold clockOffset?
  refine (bind_of_eq hhour).trans ?_
  refine (bind_of_eq (char?_cons ':' _)).trans ?_
  refine (bind_of_eq hminute).trans ?_
  exact if_pos ⟨hminutes, hhours⟩

/-- An offset with a plus sign is ahead of universal time. -/
theorem offset?_plus : offset? (offsetChars '+' hours minutes) =
    some (((hours * 60 + minutes : Nat) : Int), []) := by
  have hclock := clockOffset?_twoDigits hhours hminutes
  simp [offsetChars, offset?, hclock]

/-- An offset with a minus sign is behind it. -/
theorem offset?_minus : offset? (offsetChars '-' hours minutes) =
    some (-((hours * 60 + minutes : Nat) : Int), []) := by
  have hclock := clockOffset?_twoDigits hhours hminutes
  simp [offsetChars, offset?, hclock]

end Offset

end Reading

open Reading

/-- The stamp as a string. -/
def Reading.Stamp.text (s : Stamp) : String := String.ofList s.chars

/-- The date as a string. -/
def Reading.PlainDate.text (d : PlainDate) : String := String.ofList d.chars

/-- An offset as a string. -/
def Reading.offsetText (sign : Char) (hours minutes : Nat) : String :=
  String.ofList (offsetChars sign hours minutes)

/-- A stamp that stands for an instant stands with an offset for the instant so many minutes
earlier. -/
theorem Instant.exists_ofText?_text_append {s : Stamp} {t : Instant} {zone : List Char}
    {offset : Int} (hzone : EndsFraction zone) (hread : offset? zone = some (offset, []))
    (hoffset : -1440 < offset ∧ offset < 1440) (h : ofText? s.text = some t) :
    ∃ x, ofText? (s.text ++ String.ofList zone) = some x ∧ x.IsMinutesAfter t (-offset) := by
  have htext : s.text ++ String.ofList zone = String.ofList (s.chars ++ zone) :=
    String.ofList_append.symm
  have hyear := s.date.year.number_lt
  rw [Stamp.text, ofText?_stamp] at h
  rw [htext, ofText?_stamp_append s hzone hread]
  refine Fields.exists_toInstant? ?_ hoffset h
  show 0 ≤ (s.date.year.number : Int) ∧ (s.date.year.number : Int) ≤ 9999
  omega

/-- The letter Z after a stamp changes nothing. -/
theorem Instant.ofText?_text_zulu (s : Stamp) : ofText? (s.text ++ "Z") = ofText? s.text := by
  have hends : EndsFraction ['Z'] := by simp [EndsFraction]
  have htext : s.text ++ "Z" = String.ofList (s.chars ++ ['Z']) := String.ofList_append.symm
  rw [htext, ofText?_stamp_append s hends (show _ = some (0, []) from rfl)]
  exact (ofText?_stamp s).symm

/-- A date alone stands for the same as with its midnight. -/
theorem Instant.ofText?_text_midnight (d : PlainDate) :
    ofText? (d.text ++ "T00:00:00") = ofText? d.text := by
  have htext : d.text ++ "T00:00:00" = String.ofList d.midnight.chars := String.ofList_append.symm
  rw [htext]
  exact (ofText?_plain d).symm

/-- The spellings of an instant agree. A stamp stands for the same with the letter Z behind it, and
with an offset for the instant that is moved by the offset, back behind a plus sign and forward behind
a minus sign; a date stands for the stamp of its midnight. An instant of a year with four digits that
is written to the second is read as the beginning of its second, which is a leap second if that was,
and one that is written to the day as the midnight of its day. -/
theorem Instant.spellings_agree :
    (∀ s : Stamp, ofText? (s.text ++ "Z") = ofText? s.text) ∧
    (∀ (s : Stamp) (t : Instant), ofText? s.text = some t →
      ∀ hours < 24, ∀ minutes < 60,
        (∃ x, ofText? (s.text ++ offsetText '+' hours minutes) = some x ∧
          x.IsMinutesAfter t (-((hours * 60 + minutes : Nat) : Int))) ∧
        ∃ x, ofText? (s.text ++ offsetText '-' hours minutes) = some x ∧
          x.IsMinutesAfter t ((hours * 60 + minutes : Nat) : Int)) ∧
    (∀ d : PlainDate, ofText? d.text = ofText? (d.text ++ "T00:00:00")) ∧
    ∀ t : Instant, t.HasFourDigits →
      ofText? (Request.temporalText .datetime t) = some t.floor ∧
      ofText? (Request.temporalText .date t) = some (midnight t.day t.day_ge t.day_le) := by
  refine ⟨ofText?_text_zulu, fun s t hread hours hhours minutes hminutes => ⟨?_, ?_⟩,
    fun d => (ofText?_text_midnight d).symm, fun t hyear => ⟨?_, ?_⟩⟩
  · exact exists_ofText?_text_append (endsFraction_offsetChars (by decide) (by decide))
      (offset?_plus hhours hminutes) (by omega) hread
  · obtain ⟨x, hx, hmoved⟩ :=
      exists_ofText?_text_append (endsFraction_offsetChars (by decide) (by decide))
        (offset?_minus hhours hminutes) (by omega) hread
    rw [Int.neg_neg] at hmoved
    exact ⟨x, hx, hmoved⟩
  · show ofText? t.secondsText = some t.floor
    rw [ofText?_secondsText, if_pos hyear]
  · exact ofText?_dayText t.day_ge t.day_le

/-- A quarter of a second into the leap second at the end of 2016. -/
def sampleLeap : Stamp where
  date := ⟨.four 2016 (by decide), .two 12 (by decide), .two 31 (by decide)⟩
  time := ⟨.two 23 (by decide), .two 59 (by decide), .two 60 (by decide),
    .point ['2', '5'] (by simp) (by simp)⟩

/-- The leap second stays one in a place that is five hours and a half ahead, and when it is written
to the second. -/
theorem Instant.spellings_agree_leap :
    sampleLeap.text = "2016-12-31T23:59:60.25" ∧
    ∃ t x, ofText? sampleLeap.text = some t ∧ t.HasFourDigits ∧ t.isLeap = true ∧
      ofText? (sampleLeap.text ++ "Z") = some t ∧
      offsetText '+' 5 30 = "+05:30" ∧
      ofText? (sampleLeap.text ++ offsetText '+' 5 30) = some x ∧ x.IsMinutesAfter t (-330) ∧
      x.secondsText = "2016-12-31T18:29:60Z" ∧
      ofText? (Request.temporalText .datetime t) = some t.floor := by
  obtain ⟨hzulu, hoffsets, -, hwritten⟩ := spellings_agree
  obtain ⟨t, hread, hyear, hleap⟩ : ∃ t, ofText? sampleLeap.text = some t ∧ t.HasFourDigits ∧
      t.isLeap = true := ⟨_, rfl, by decide +kernel, by decide +kernel⟩
  obtain ⟨x, hx, hmoved⟩ := (hoffsets sampleLeap t hread 5 (by decide) 30 (by decide)).1
  have hwrite : (ofText? (sampleLeap.text ++ offsetText '+' 5 30)).map secondsText =
      some "2016-12-31T18:29:60Z" := by
    decide +kernel
  rw [hx] at hwrite
  exact ⟨by decide +kernel, t, x, hread, hyear, hleap, (hzulu sampleLeap).trans hread,
    by decide +kernel, hx, hmoved, Option.some.inj hwrite, (hwritten t hyear).1⟩

end CrashQuery.Calendar
