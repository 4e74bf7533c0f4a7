import CrashQuery.Proofs.Request.Coercion
import CrashQuery.Proofs.Request.Provenance

/-!
# Dates of the past

Dates are cut off at the present before they are written to the second or to the day, and what is
written is read as something that is not later (`Request.isPast_of_coerce`). Whole numbers and truth
values cannot be read as dates at all (`Calendar.Instant.ofText?_intText`). So a window that is found
from the values of the date ends in the past and begins there, whatever these values come from:
`Request.dates_le_now`. A field of texts has its values as they are given, and the window then lies in
the past exactly when the bounds that are found do (`Request.window_le_now_iff`); it need not
(`Request.not_dates_le_now_text`).
-/

namespace CrashQuery

open Text

namespace Calendar

namespace Reading

variable {s rest : List Char} {c : Char}

/-- A character that is read is there. -/
theorem mem_of_char? (h : char? c s = some rest) : c ∈ s := by
  cases s with
  | nil => cases h
  | cons d s =>
    rw [char?] at h
    split at h
    · next hd =>
      rw [hd]
      exact List.mem_cons_self
    · cases h

/-- What is left behind a number of at least one digit is left behind the first character too. -/
theorem mem_tail_of_number? {least most n : Nat} (hleast : 0 < least)
    (h : number? least most s = some (n, rest)) (hc : c ∈ rest) : c ∈ s.tail := by
  obtain ⟨m, hm, heq⟩ := Option.map_eq_some_iff.1 h
  rw [← (Prod.mk.inj heq).2] at hc
  have hlength : 0 < ((s.take most).takeWhile Char.isDigit).length := by
    unfold numberOf? at hm
    split at hm
    · cases hm
    · omega
  rw [← Nat.succ_pred_eq_of_pos hlength, ← List.drop_tail] at hc
  exact List.mem_of_mem_drop hc

/-- What is left behind a number of any length is a part of the text. -/
theorem mem_of_longNumber? {n : Nat} (h : longNumber? s = some (n, rest)) (hc : c ∈ rest) :
    c ∈ s := by
  obtain ⟨m, -, heq⟩ := Option.map_eq_some_iff.1 h
  rw [← (Prod.mk.inj heq).2] at hc
  exact (List.dropWhile_sublist _).subset hc

/-- What is left behind a year is left behind its first character, a sign or a digit. -/
theorem mem_tail_of_year? {year : Int} (h : year? s = some (year, rest)) (hc : c ∈ rest) :
    c ∈ (trimStart s).tail := by
  unfold year? at h
  split at h
  case h_1 digits hsign | h_2 digits hsign =>
    obtain ⟨⟨n, left⟩, hn, heq⟩ := Option.map_eq_some_iff.1 h
    rw [← (Prod.mk.inj heq).2] at hc
    rw [hsign]
    exact mem_of_longNumber? hn hc
  case h_3 =>
    obtain ⟨⟨n, left⟩, hn, heq⟩ := Option.map_eq_some_iff.1 h
    rw [← (Prod.mk.inj heq).2] at hc
    exact mem_tail_of_number? (by decide) hn hc

/-- A text that is read in the strict form has a hyphen after its first character. -/
theorem hyphen_mem_of_strict? {t : Instant} (h : strict? s = some t) : '-' ∈ s.tail := by
  obtain ⟨⟨year, left⟩, hyear, h⟩ := Option.bind_eq_some_iff.1 h
  obtain ⟨rest, hhyphen, -⟩ := Option.bind_eq_some_iff.1 h
  exact mem_tail_of_number? (by decide) hyear (mem_of_char? hhyphen)

/-- A date of the loose form has one too. -/
theorem hyphen_mem_of_looseDate? {p : (Int × Nat × Nat) × List Char} (h : looseDate? s = some p) :
    '-' ∈ s.tail := by
  obtain ⟨⟨year, left⟩, hyear, h⟩ := Option.bind_eq_some_iff.1 h
  obtain ⟨rest, hhyphen, -⟩ := Option.bind_eq_some_iff.1 h
  have hmem := mem_tail_of_year? hyear (mem_of_char? hhyphen)
  cases s with
  | nil => exact hmem
  | cons c s =>
    cases hblank : isBlank c with
    | false => rwa [trimStart, List.dropWhile_cons_of_neg (by simp [hblank])] at hmem
    | true =>
      rw [trimStart, List.dropWhile_cons_of_pos hblank] at hmem
      exact (List.dropWhile_sublist _).subset (List.mem_of_mem_tail hmem)

end Reading

namespace Instant

variable {text : String}

/-- A text that is read as an instant has a hyphen after its first character. -/
theorem hyphen_mem_of_ofText? {t : Instant} (h : ofText? text = some t) :
    '-' ∈ text.toList.tail := by
  simp only [ofText?] at h
  cases hstrict : Reading.strict? text.toList with
  | some x => exact Reading.hyphen_mem_of_strict? hstrict
  | none =>
    cases htime : Reading.looseTime? text.toList with
    | some x =>
      obtain ⟨p, hdate, -⟩ := Option.bind_eq_some_iff.1 htime
      exact Reading.hyphen_mem_of_looseDate? hdate
    | none =>
      have hmidnight : Reading.midnight? text.toList = some t := by
        rwa [hstrict, htime] at h
      obtain ⟨p, hdate, -⟩ := Option.bind_eq_some_iff.1 hmidnight
      exact Reading.hyphen_mem_of_looseDate? hdate

/-- A numeral is not read as an instant, since it has a hyphen in front at most. -/
theorem ofText?_intText (i : Int) : ofText? (intText i) = none := by
  refine Option.eq_none_iff_forall_ne_some.2 fun t ht => ?_
  have hmem := hyphen_mem_of_ofText? ht
  rw [intText, String.toList_ofList] at hmem
  have hdigit : ('-' : Char).isDigit = true := by
    cases i with
    | ofNat n => exact isDigit_of_mem_digits (List.mem_of_mem_tail hmem)
    | negSucc n => exact isDigit_of_mem_digits hmem
  revert hdigit
  decide

/-- Nor is the word for a truth value. -/
theorem ofText?_word (b : Bool) : ofText? (if b then "true" else "false") = none := by
  cases b <;> rfl

end Instant

end Calendar

open Calendar Condition

/-- Whether a value is of the past, or no date at all. -/
def IsPast (now : Instant) (value : String) : Prop := ∀ t, Instant.ofText? value = some t → t ≤ now

/-- Whether the dates that conditions ask for leave a window in the past: the lower bounds are all of
the past, and so is one of the upper bounds, if there are any. -/
structure Window.HasPastBounds (now : Instant) (conditions : List Condition) : Prop where
  below : ∀ x ∈ bounds boundsBelow conditions, x ≤ now
  above : bounds boundsAbove conditions ≠ [] → ∃ x ∈ bounds boundsAbove conditions, x ≤ now

namespace Request

section Values

variable {kind : Kind} {operator : Operator} {operand : List Char} {now : Instant} {value : String}

/-- A field of dates is not one of texts. -/
theorem isTextual_of_isTemporal (hkind : kind.isTemporal = true) : kind.isTextual = false := by
  cases kind with
  | date | datetime => rfl
  | text | term | integer | boolean => cases hkind

/-- Values of fields other than texts are not in the future. -/
theorem isPast_of_coerce (hkind : kind.isTextual = false)
    (h : coerce kind operator operand now = some value) : IsPast now value := by
  intro t ht
  cases kind with
  | text | term => cases hkind
  | date | datetime =>
    obtain ⟨x, -, rfl⟩ := (coerce_temporal rfl).1 h
    exact Std.le_trans (read_temporalText ht).1 Std.min_le_right
  | integer =>
    obtain ⟨i, -, rfl⟩ := coerce_integer.1 h
    rw [Instant.ofText?_intText] at ht
    cases ht
  | boolean =>
    obtain ⟨b, -, rfl⟩ := coerce_boolean.1 h
    rw [Instant.ofText?_word] at ht
    cases ht

end Values

variable {catalog : Catalog} {options : RequestOptions} {raw : RawRequest} {r : Request}
  {c : Condition} {v : String}

/-- The values of a condition on a field other than of texts are not in the future. -/
theorem isPast_of_mem_values (h : ofRaw catalog options raw = .ok r) (hc : c ∈ r.conditions)
    (hkind : c.field.kind.isTextual = false) (hv : v ∈ c.values) : IsPast options.now v := by
  rcases exists_operand_or_isBound h hc hv with ⟨operand, -, hcoerce⟩ | hbound
  · exact isPast_of_coerce hkind hcoerce
  · obtain ⟨t, -, hcoerce⟩ := hbound.coerced
    exact isPast_of_coerce hkind hcoerce

/-- The dates that the parameters of a request give are dates of the request. -/
theorem compares_of_conditionsOf (h : ofRaw catalog options raw = .ok r) {operator : Operator}
    {value : String}
    (hcompares : Window.Compares (conditionsOf catalog options.now raw) operator value) :
    Window.Compares r.conditions operator value := by
  refine complete_induction (p := fun conditions => Window.Compares conditions operator value)
    (complete_of_ofRaw h) hcompares ?_
  intro conditions f raw hf hbefore
  exact (Window.compares_addRaw options.now f raw).2 (Or.inl hbefore)

/-- A date that is no text is bounded by the past only. -/
theorem le_of_mem_bounds (h : ofRaw catalog options raw = .ok r)
    (hkind : ∀ f, catalog.lookup Window.dateField = some f → f.kind.isTextual = false)
    {chosen : Operator → Bool} {x : Instant}
    (hx : x ∈ Window.bounds chosen (conditionsOf catalog options.now raw)) : x ≤ options.now := by
  obtain ⟨operator, value, -, hcompares, hread⟩ := (Window.mem_bounds chosen x).1 hx
  obtain ⟨c, hc, hname, -, -, hvalue⟩ := compares_of_conditionsOf h hcompares
  have hlookup := lookup_of_mem_conditions h hc
  rw [hname] at hlookup
  exact isPast_of_mem_values h hc (hkind c.field hlookup) hvalue x hread

/-- A window lies in the past exactly when its bounds are those of the past, if the default number of
days leads back. -/
theorem window_le_now_iff (h : ofRaw catalog options raw = .ok r) (hdays : 0 ≤ options.defaultDays) :
    (r.window.first ≤ options.now ∧ r.window.last ≤ options.now) ↔
      Window.HasPastBounds options.now (conditionsOf catalog options.now raw) := by
  obtain ⟨hlast, hfirst, -, -⟩ := Window.parts_of_complete (complete_of_ofRaw h)
  constructor
  · rintro ⟨hfirst_le, hlast_le⟩
    constructor
    · intro x hx
      rcases hfirst with hlower | ⟨hlower, -⟩
      · exact Std.le_trans ((Window.lower?_eq_some_iff.1 hlower).2 x hx) hfirst_le
      · rw [Window.lower?_eq_none_iff.1 hlower] at hx
        cases hx
    · intro hne
      cases hupper : Window.upper? (conditionsOf catalog options.now raw) with
      | none => exact absurd (Window.upper?_eq_none_iff.1 hupper) hne
      | some x =>
        rw [hupper, Option.getD_some] at hlast
        rw [hlast] at hlast_le
        exact ⟨x, (Window.upper?_eq_some_iff.1 hupper).1, hlast_le⟩
  · rintro ⟨hbelow, habove⟩
    -- The window ends at the least of the upper bounds, so one of the past is enough.
    have hlast_le : r.window.last ≤ options.now := by
      rw [hlast]
      cases hupper : Window.upper? (conditionsOf catalog options.now raw) with
      | none => exact Std.le_refl options.now
      | some x =>
        obtain ⟨hmem, hleast⟩ := Window.upper?_eq_some_iff.1 hupper
        obtain ⟨y, hy, hpast⟩ := habove (List.ne_nil_of_mem hmem)
        exact Std.le_trans (hleast y hy) hpast
    rcases hfirst with hlower | ⟨-, hback⟩
    · exact ⟨hbelow _ (Window.lower?_eq_some_iff.1 hlower).1, hlast_le⟩
    · exact ⟨Std.le_trans (Instant.minusDays?_le hdays hback) hlast_le, hlast_le⟩

/-- No value of a field of dates is in the future, negated or not and with the bounds that were added.
The window neither begins nor ends in the future if the date is no text, and otherwise exactly when
its bounds are those of the past. -/
theorem dates_le_now (h : ofRaw catalog options raw = .ok r) (hdays : 0 ≤ options.defaultDays) :
    (∀ c ∈ r.conditions, c.field.kind.isTemporal = true → ∀ v ∈ c.values, IsPast options.now v) ∧
    ((∀ f, catalog.lookup Window.dateField = some f → f.kind.isTextual = false) →
      r.window.first ≤ options.now ∧ r.window.last ≤ options.now) ∧
    ((r.window.first ≤ options.now ∧ r.window.last ≤ options.now) ↔
      Window.HasPastBounds options.now (conditionsOf catalog options.now raw)) := by
  refine ⟨?values, ?noText, window_le_now_iff h hdays⟩
  case values =>
    intro c hc htemporal v hv
    exact isPast_of_mem_values h hc (isTextual_of_isTemporal htemporal) hv
  case noText =>
    intro hkind
    refine (window_le_now_iff h hdays).2 ⟨fun x hx => le_of_mem_bounds h hkind hx, fun hne => ?_⟩
    obtain ⟨x, hx⟩ := List.exists_mem_of_ne_nil _ hne
    exact ⟨x, hx, le_of_mem_bounds h hkind hx⟩

/-- The present, with the default days. -/
def sampleOptions : RequestOptions := { now := sampleNow }

/-- A date of the past with an offset, and two of the future, one of them negated. -/
def futureRequest : RawRequest :=
  [("date", [">=2024-03-10T01:00:00+02:00", "<2030-01-01", "!2031-01-01T00:00:00.5"])]

/-- The dates of the future become the present. -/
theorem dates_le_now_future : ∃ r,
    ofRaw Catalog.builtin sampleOptions futureRequest = .ok r ∧ 0 ≤ sampleOptions.defaultDays ∧
    (Catalog.builtin.lookup Window.dateField).map Field.kind = some .datetime ∧
    r.conditions.map (fun c => (c.key, c.values)) =
      [(("date", .atLeast, false), ["2024-03-09T23:00:00Z"]),
        (("date", .less, false), ["2024-03-15T12:00:00Z"]),
        (("date", .any, true), ["2024-03-15T12:00:00Z"])] ∧
    (∀ c ∈ r.conditions, c.field.kind.isTemporal = true →
      ∀ v ∈ c.values, IsPast sampleOptions.now v) ∧
    r.window.first ≤ sampleOptions.now ∧ r.window.last ≤ sampleOptions.now := by
  obtain ⟨r, hr, hvalues⟩ : ∃ r, ofRaw Catalog.builtin sampleOptions futureRequest = .ok r ∧
      r.conditions.map (fun c => (c.key, c.values)) =
        [(("date", .atLeast, false), ["2024-03-09T23:00:00Z"]),
          (("date", .less, false), ["2024-03-15T12:00:00Z"]),
          (("date", .any, true), ["2024-03-15T12:00:00Z"])] := ⟨_, rfl, by decide +kernel⟩
  have hkind : (Catalog.builtin.lookup Window.dateField).map Field.kind = some .datetime := rfl
  have hdays : 0 ≤ sampleOptions.defaultDays := by decide
  obtain ⟨hpast, hwindow, -⟩ := dates_le_now hr hdays
  refine ⟨r, hr, hdays, hkind, hvalues, hpast, hwindow fun f hf => ?_⟩
  rw [hf, Option.map_some, Option.some.injEq] at hkind
  rw [hkind]
  rfl

/-- A catalog that has the date as a text. -/
def textDates : Catalog where
  version := 1
  fields := [⟨"date", "date_processed", .processed, .text, false, false, [], none⟩]
  faultless := by decide

/-- A text for a date of the future is left as it is, and the window of the request is that date. -/
theorem not_dates_le_now_text : ∃ r,
    ofRaw textDates sampleOptions [("date", ["2030-01-01"])] = .ok r ∧
    0 ≤ sampleOptions.defaultDays ∧
    r.conditions.map (fun c => (c.key, c.values)) = [(("date", .any, false), ["2030-01-01"])] ∧
    ¬ r.window.first ≤ sampleOptions.now ∧ ¬ r.window.last ≤ sampleOptions.now :=
  ⟨_, rfl, by decide, by decide +kernel, by decide +kernel, by decide +kernel⟩

end Request

end CrashQuery
