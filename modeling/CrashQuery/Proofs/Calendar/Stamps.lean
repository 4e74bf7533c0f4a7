import CrashQuery.Calendar.Reading
import CrashQuery.Calendar.Writing
import CrashQuery.Proofs.Text.Ends
import Mathlib

/-!
# Dates and times in fixed numbers of digits

A date of four, two and two digits is the same in all forms that are read, and so is a time of day
behind it, except that the strict form has an offset at the end and the loose form ends there. So a
stamp stands for its fields in universal time (`Instant.ofText?_stamp`), a stamp with an offset for
its fields in the place of the offset (`Instant.ofText?_stamp_append`), and a date alone for the stamp
of its midnight (`Instant.ofText?_plain`).
-/

namespace CrashQuery.Calendar

open Text (digits padded isBlank_of_isDigit trimStart)

section Padded

variable {width n : Nat}

/-- Zeros and digits are digits. -/
theorem isDigit_of_mem_padded {c : Char} (h : c ∈ padded '0' width n) : c.isDigit = true := by
  unfold padded at h
  rcases List.mem_append.1 h with h | h
  · rw [List.eq_of_mem_replicate h]
    decide
  · exact Text.isDigit_of_mem_digits h

/-- Zeros before the digits of a number do not change it. -/
theorem ofDigitChars_padded (width n : Nat) : Nat.ofDigitChars 10 (padded '0' width n) 0 = n := by
  unfold padded
  rw [Nat.ofDigitChars_append, Nat.ofDigitChars_replicate_zero, Nat.mul_zero]
  exact Nat.ofDigitChars_ten_toDigits

/-- A number that fits the width is written in it. -/
theorem length_padded (hwidth : 0 < width) (hn : n < 10 ^ width) :
    (padded '0' width n).length = width := by
  have hle : (digits n).length ≤ width := (Nat.length_toDigits_le_iff (by decide) hwidth).2 hn
  unfold padded
  rw [List.length_append, List.length_replicate]
  omega

/-- A filled number begins with a digit. -/
theorem exists_padded_eq_cons (width n : Nat) :
    ∃ c cs, c.isDigit = true ∧ padded '0' width n = c :: cs := by
  have hne : padded '0' width n ≠ [] :=
    List.append_ne_nil_of_right_ne_nil _ Nat.toDigits_ne_nil
  obtain ⟨c, cs, hcs⟩ := List.exists_cons_of_ne_nil hne
  have hmem : c ∈ padded '0' width n := by
    rw [hcs]
    exact List.mem_cons_self
  exact ⟨c, cs, isDigit_of_mem_padded hmem, hcs⟩

end Padded

namespace Reading

/-- So many digits. -/
structure Digits (width : Nat) where
  /-- The digits. -/
  chars : List Char
  /-- There are so many. -/
  length_chars : chars.length = width
  /-- They are digits. -/
  isDigit : ∀ c ∈ chars, c.isDigit = true

/-- The number that digits stand for. -/
def Digits.number {width : Nat} (ds : Digits width) : Nat := Nat.ofDigitChars 10 ds.chars 0

/-- A number that fits, filled up with zeros. -/
def Digits.ofNat (width n : Nat) (hwidth : 0 < width) (hn : n < 10 ^ width) : Digits width where
  chars := padded '0' width n
  length_chars := length_padded hwidth hn
  isDigit _ := isDigit_of_mem_padded

/-- Digits of a number stand for it. -/
theorem Digits.number_ofNat {width n : Nat} (hwidth : 0 < width) (hn : n < 10 ^ width) :
    (ofNat width n hwidth hn).number = n :=
  ofDigitChars_padded width n

/-- A number of two digits. -/
def Digits.two (n : Nat) (hn : n < 100) : Digits 2 := ofNat 2 n (by decide) hn

/-- A number of four digits. -/
def Digits.four (n : Nat) (hn : n < 10000) : Digits 4 := ofNat 4 n (by decide) hn

/-- Nothing but zeros. -/
def Digits.zeros (width : Nat) : Digits width where
  chars := List.replicate width '0'
  length_chars := List.length_replicate
  isDigit c hc := by
    rw [List.eq_of_mem_replicate hc]
    decide

/-- The fraction of a second. -/
inductive Fraction where
  /-- There is none. -/
  | none
  /-- One or more digits after a point. -/
  | point (digits : List Char) (ne_nil : digits ≠ []) (isDigit : ∀ c ∈ digits, c.isDigit = true)

namespace Fraction

/-- The fraction as text. -/
def chars : Fraction → List Char
  | none => []
  | point digits _ _ => '.' :: digits

/-- The nanoseconds of the fraction. -/
def nanos : Fraction → Nat
  | none => 0
  | point digits _ _ => nanosOf digits

end Fraction

/-- A date of four, two and two digits. -/
structure PlainDate where
  /-- The year. -/
  year : Digits 4
  /-- The month. -/
  month : Digits 2
  /-- The day of the month. -/
  day : Digits 2

/-- The date as text. -/
def PlainDate.chars (d : PlainDate) : List Char :=
  d.year.chars ++ '-' :: (d.month.chars ++ '-' :: d.day.chars)

/-- A time of day of two digits each, with a fraction of its second. -/
structure PlainTime where
  /-- The hour. -/
  hour : Digits 2
  /-- The minute. -/
  minute : Digits 2
  /-- The second. -/
  second : Digits 2
  /-- The fraction. -/
  fraction : Fraction

/-- The time of day as text. -/
def PlainTime.chars (t : PlainTime) : List Char :=
  t.hour.chars ++ ':' :: (t.minute.chars ++ ':' :: (t.second.chars ++ t.fraction.chars))

/-- A date and a time of day. -/
structure Stamp where
  /-- The date. -/
  date : PlainDate
  /-- The time of day. -/
  time : PlainTime

/-- The stamp as text, with the letter T before the time of day. -/
def Stamp.chars (s : Stamp) : List Char := s.date.chars ++ 'T' :: s.time.chars

/-- What is read from a stamp. -/
def Stamp.fields (s : Stamp) : Fields :=
  ⟨s.date.year.number, s.date.month.number, s.date.day.number, s.time.hour.number,
    s.time.minute.number, s.time.second.number, s.time.fraction.nanos⟩

/-- A character is read where it stands. -/
theorem char?_cons (c : Char) (s : List Char) : char? c (c :: s) = some s :=
  if_pos rfl

/-- After a piece that is read the reading goes on with what it stands for. -/
theorem bind_of_eq {α β : Type} {x : Option α} {a : α} {f : α → Option β} (h : x = some a) :
    x >>= f = f a := by
  rw [h]
  rfl

section Digits

variable {width : Nat} (ds : Digits width)

/-- So many digits are read, whatever follows. -/
theorem number?_digits {least : Nat} (hleast : least ≤ width) (rest : List Char) :
    number? least width (ds.chars ++ rest) = some (ds.number, rest) := by
  have htake : (ds.chars ++ rest).take width = ds.chars := List.take_left' ds.length_chars
  have hdigits : ds.chars.takeWhile Char.isDigit = ds.chars :=
    List.takeWhile_eq_self_iff.2 ds.isDigit
  have hdrop : (ds.chars ++ rest).drop width = rest := List.drop_left' ds.length_chars
  simp only [number?, numberOf?]
  rw [htake, hdigits, ds.length_chars, if_neg (by omega), Option.map_some, hdrop]
  rfl

/-- One or more digits begin with a digit. -/
theorem Digits.exists_eq_cons (hwidth : 0 < width) :
    ∃ c cs, c.isDigit = true ∧ ds.chars = c :: cs := by
  have hne : ds.chars ≠ [] := by
    rw [← List.length_pos_iff, ds.length_chars]
    exact hwidth
  obtain ⟨c, cs, hcs⟩ := List.exists_cons_of_ne_nil hne
  have hmem : c ∈ ds.chars := by
    rw [hcs]
    exact List.mem_cons_self
  exact ⟨c, cs, ds.isDigit c hmem, hcs⟩

end Digits

/-- Digits after a number multiply it by ten each and add less than that. -/
theorem ofDigitChars_lt {cs : List Char} (hdigits : ∀ c ∈ cs, c.isDigit = true) (n : Nat) :
    Nat.ofDigitChars 10 cs n < (n + 1) * 10 ^ cs.length := by
  induction cs generalizing n with
  | nil => simp
  | cons c cs ih =>
    have hc := hdigits c List.mem_cons_self
    simp only [Char.isDigit, Bool.and_eq_true, decide_eq_true_eq, UInt32.le_iff_toNat_le] at hc
    have hc : 48 ≤ c.toNat ∧ c.toNat ≤ 57 := hc
    have hzero : ('0' : Char).toNat = 48 := rfl
    have hnext : 10 * n + (c.toNat - 48) + 1 ≤ (n + 1) * 10 := by omega
    rw [Nat.ofDigitChars_cons, hzero, List.length_cons, Nat.pow_succ']
    calc Nat.ofDigitChars 10 cs (10 * n + (c.toNat - 48))
        < (10 * n + (c.toNat - 48) + 1) * 10 ^ cs.length :=
          ih (fun d hd => hdigits d (List.mem_cons_of_mem _ hd)) _
      _ ≤ (n + 1) * 10 * 10 ^ cs.length := Nat.mul_le_mul_right _ hnext
      _ = (n + 1) * (10 * 10 ^ cs.length) := Nat.mul_assoc _ _ _

/-- Digits stand for a number with at most so many. -/
theorem Digits.number_lt {width : Nat} (ds : Digits width) : ds.number < 10 ^ width := by
  have hnumber := ofDigitChars_lt ds.isDigit 0
  rwa [ds.length_chars, Nat.zero_add, Nat.one_mul] at hnumber

/-- A text that begins with a digit has no blanks in front. -/
theorem trimStart_of_isDigit {c : Char} (hc : c.isDigit = true) (s : List Char) :
    trimStart (c :: s) = c :: s :=
  Text.trimStart_eq_self (by simpa using isBlank_of_isDigit hc)

/-- A text that begins with a digit has no sign before its year. -/
theorem year?_of_isDigit {c : Char} (hc : c.isDigit = true) (s : List Char) :
    year? (c :: s) = (number? 1 4 (c :: s)).map fun p => ((p.1 : Int), p.2) := by
  have hminus : c ≠ '-' := by
    rintro rfl
    simp at hc
  have hplus : c ≠ '+' := by
    rintro rfl
    simp at hc
  unfold year?
  rw [trimStart_of_isDigit hc]
  split
  · next h => exact absurd (List.cons.inj h).1 hminus
  · next h => exact absurd (List.cons.inj h).1 hplus
  · rfl

/-- Two digits are read where one is enough. -/
theorem short?_digits (ds : Digits 2) (rest : List Char) :
    short? (ds.chars ++ rest) = some (ds.number, rest) := by
  obtain ⟨c, cs, hdigit, hcs⟩ := ds.exists_eq_cons (by decide)
  have hread := number?_digits ds (show 1 ≤ 2 by decide) rest
  rw [hcs, List.cons_append] at hread ⊢
  rw [short?, trimStart_of_isDigit hdigit, hread]

/-- A year of four digits is read in the loose form. -/
theorem year?_digits (ds : Digits 4) (rest : List Char) :
    year? (ds.chars ++ rest) = some ((ds.number : Int), rest) := by
  obtain ⟨c, cs, hdigit, hcs⟩ := ds.exists_eq_cons (by decide)
  have hread := number?_digits ds (show 1 ≤ 4 by decide) rest
  rw [hcs, List.cons_append] at hread ⊢
  rw [year?_of_isDigit hdigit, hread]
  rfl

/-- The pieces of a date, one after the other. -/
theorem PlainDate.chars_append (d : PlainDate) (rest : List Char) : d.chars ++ rest =
    d.year.chars ++ '-' :: (d.month.chars ++ '-' :: (d.day.chars ++ rest)) := by
  simp [PlainDate.chars]

/-- The pieces of a stamp behind its date. -/
theorem Stamp.chars_append (s : Stamp) (zone : List Char) : s.chars ++ zone =
    s.date.chars ++ 'T' :: (s.time.hour.chars ++ ':' :: (s.time.minute.chars ++ ':' ::
      (s.time.second.chars ++ (s.time.fraction.chars ++ zone)))) := by
  simp [Stamp.chars, PlainTime.chars]

/-- A date is read in the loose form, whatever follows. -/
theorem looseDate?_plain (d : PlainDate) (rest : List Char) :
    looseDate? (d.chars ++ rest) =
      some (((d.year.number : Int), d.month.number, d.day.number), rest) := by
  unfold looseDate?
  rw [d.chars_append]
  refine (bind_of_eq (year?_digits _ _)).trans ?_
  refine (bind_of_eq (char?_cons '-' _)).trans ?_
  refine (bind_of_eq (short?_digits _ _)).trans ?_
  refine (bind_of_eq (char?_cons '-' _)).trans ?_
  exact bind_of_eq (short?_digits _ _)

/-- A date is read in the strict form, which goes on with what follows. -/
theorem strict?_plain (d : PlainDate) (rest : List Char) :
    strict? (d.chars ++ rest) = (do
      let s ← separator? rest
      let (hour, s) ← number? 2 2 s
      let s ← char? ':' s
      let (minute, s) ← number? 2 2 s
      let s ← char? ':' s
      let (second, s) ← number? 2 2 s
      let (nano, s) ← fraction? s
      let (offset, s) ← offset? s
      if s = [] then
        Fields.toInstant? ⟨d.year.number, d.month.number, d.day.number, hour, minute, second, nano⟩
          offset
      else none) := by
  unfold strict?
  rw [d.chars_append]
  refine (bind_of_eq (number?_digits _ (Nat.le_refl 4) _)).trans ?_
  refine (bind_of_eq (char?_cons '-' _)).trans ?_
  refine (bind_of_eq (number?_digits _ (Nat.le_refl 2) _)).trans ?_
  refine (bind_of_eq (char?_cons '-' _)).trans ?_
  exact bind_of_eq (number?_digits _ (Nat.le_refl 2) _)

/-- Whether a text does not go on with a fraction. -/
def EndsFraction (rest : List Char) : Prop := ∀ c ∈ rest.head?, c.isDigit = false ∧ c ≠ '.'

/-- A fraction is read, if what follows does not go on with it. -/
theorem fraction?_append (f : Fraction) {rest : List Char} (hrest : EndsFraction rest) :
    fraction? (f.chars ++ rest) = some (f.nanos, rest) := by
  cases f with
  | none =>
    -- The point is all that could begin a fraction.
    show fraction? rest = some (0, rest)
    cases rest with
    | nil => rfl
    | cons c rest =>
      have hpoint := (hrest c rfl).2
      unfold fraction?
      split
      · next h => exact absurd (List.cons.inj h).1 hpoint
      · rfl
  | point digits ne_nil isDigit =>
    have htake : (digits ++ rest).takeWhile Char.isDigit = digits := by
      rw [List.takeWhile_append_of_pos isDigit]
      cases rest with
      | nil => simp
      | cons c rest => simp [(hrest c rfl).1]
    have hdrop : (digits ++ rest).dropWhile Char.isDigit = rest := by
      rw [List.dropWhile_append_of_pos isDigit]
      cases rest with
      | nil => rfl
      | cons c rest => simp [(hrest c rfl).1]
    show fraction? ('.' :: (digits ++ rest)) = some (nanosOf digits, rest)
    simp only [fraction?]
    rw [htake, hdrop, if_neg ne_nil]

namespace Stamp

variable (s : Stamp) {zone : List Char} (hzone : EndsFraction zone)

include hzone

/-- The strict form reads a stamp and goes on with the offset. -/
theorem strict?_append : strict? (s.chars ++ zone) =
    (offset? zone).bind fun p => if p.2 = [] then s.fields.toInstant? p.1 else none := by
  have hseparator : ∀ s, separator? ('T' :: s) = some s := fun _ => rfl
  rw [s.chars_append, strict?_plain]
  refine (bind_of_eq (hseparator _)).trans ?_
  refine (bind_of_eq (number?_digits _ (Nat.le_refl 2) _)).trans ?_
  refine (bind_of_eq (char?_cons ':' _)).trans ?_
  refine (bind_of_eq (number?_digits _ (Nat.le_refl 2) _)).trans ?_
  refine (bind_of_eq (char?_cons ':' _)).trans ?_
  refine (bind_of_eq (number?_digits _ (Nat.le_refl 2) _)).trans ?_
  exact bind_of_eq (fraction?_append _ hzone)

/-- The loose form reads a stamp that nothing follows. -/
theorem looseTime?_append : looseTime? (s.chars ++ zone) =
    if zone = [] then s.fields.toInstant? 0 else none := by
  unfold looseTime?
  rw [s.chars_append]
  refine (bind_of_eq (looseDate?_plain _ _)).trans ?_
  refine (bind_of_eq (char?_cons 'T' _)).trans ?_
  refine (bind_of_eq (short?_digits _ _)).trans ?_
  refine (bind_of_eq (char?_cons ':' _)).trans ?_
  refine (bind_of_eq (short?_digits _ _)).trans ?_
  refine (bind_of_eq (char?_cons ':' _)).trans ?_
  refine (bind_of_eq (short?_digits _ _)).trans ?_
  exact bind_of_eq (fraction?_append _ hzone)

omit hzone in
/-- A stamp is more than a date. -/
theorem midnight?_append (zone : List Char) : midnight? (s.chars ++ zone) = none := by
  unfold midnight?
  rw [s.chars_append]
  -- The time of day is left behind the date, and the form wants nothing there.
  exact bind_of_eq (looseDate?_plain _ _)

end Stamp

end Reading

open Reading

/-- A stamp stands for its fields in universal time. -/
theorem Instant.ofText?_stamp (s : Stamp) :
    ofText? (String.ofList s.chars) = s.fields.toInstant? 0 := by
  have hends : EndsFraction [] := by simp [EndsFraction]
  have hstrict := s.strict?_append hends
  have htime := s.looseTime?_append hends
  have hmidnight := s.midnight?_append []
  rw [List.append_nil] at hstrict htime hmidnight
  simp only [ofText?, String.toList_ofList]
  rw [hstrict, htime, hmidnight]
  show (s.fields.toInstant? 0 <|> none) = s.fields.toInstant? 0
  cases s.fields.toInstant? 0 <;> rfl

/-- A stamp with an offset stands for its fields in the place of the offset. -/
theorem Instant.ofText?_stamp_append (s : Stamp) {zone : List Char} {offset : Int}
    (hzone : EndsFraction zone) (hoffset : offset? zone = some (offset, [])) :
    ofText? (String.ofList (s.chars ++ zone)) = s.fields.toInstant? offset := by
  have hne : zone ≠ [] := by
    rintro rfl
    cases hoffset
  have hstrict := s.strict?_append hzone
  rw [hoffset, Option.bind_some, if_pos rfl] at hstrict
  simp only [ofText?, String.toList_ofList]
  -- The offset is too much for the loose forms, so they do not help where the strict one fails.
  rw [hstrict, s.looseTime?_append hzone, if_neg hne, s.midnight?_append]
  cases s.fields.toInstant? offset <;> rfl

/-- The midnight of a date, written out. -/
def Reading.PlainDate.midnight (d : PlainDate) : Stamp where
  date := d
  time := ⟨.zeros 2, .zeros 2, .zeros 2, .none⟩

/-- A date alone stands for its midnight. -/
theorem Instant.ofText?_plain (d : PlainDate) :
    ofText? (String.ofList d.chars) = ofText? (String.ofList d.midnight.chars) := by
  have hloose := looseDate?_plain d []
  have hstrict := strict?_plain d []
  rw [List.append_nil] at hloose hstrict
  have htime : looseTime? d.chars = none := bind_of_eq hloose
  have hmidnight : midnight? d.chars = d.midnight.fields.toInstant? 0 := bind_of_eq hloose
  rw [ofText?_stamp]
  simp only [ofText?, String.toList_ofList]
  rw [hstrict, htime, hmidnight]
  rfl

end CrashQuery.Calendar
