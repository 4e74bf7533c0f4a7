import CrashQuery.Proofs.Index.Covering
import CrashQuery.Proofs.Window.Bounds
import CrashQuery.Service

/-!
# What the indices of a request cover

`Request.AdmitsDate` reads the conditions on the date as they are compiled: the values of one
condition are alternatives when they are listed, and all hold when they are bounds. The window of a
request takes every listed value for a bound from both sides instead. `Service.covers_iff` says
exactly when the indices of the window hold all admitted instants nevertheless: when no condition
lists two dates, and the ends of the window are bounds among the conditions.
-/

namespace CrashQuery

open Calendar

/-- The number by which dates are compared: that of the day for days, and else the rank. -/
def Kind.dateKey (kind : Kind) (t : Instant) : Int :=
  match kind with
  | .date => t.day
  | _ => t.rank

/-- Whether a condition on a date admits an instant. Listed values are alternatives, and bounds must
all hold; values are read in the way of requests. A missing date is no instant, and patterns are
about texts, so that they keep none out. -/
def Condition.AdmitsDate (kind : Kind) (c : Condition) (t : Instant) : Prop :=
  match c.operator with
  | .any | .equal => ∃ v ∈ c.values, ∃ x, Instant.ofText? v = some x ∧ kind.dateKey x = kind.dateKey t
  | .greater => ∀ v ∈ c.values, ∃ x, Instant.ofText? v = some x ∧ kind.dateKey x < kind.dateKey t
  | .atLeast => ∀ v ∈ c.values, ∃ x, Instant.ofText? v = some x ∧ kind.dateKey x ≤ kind.dateKey t
  | .less => ∀ v ∈ c.values, ∃ x, Instant.ofText? v = some x ∧ kind.dateKey t < kind.dateKey x
  | .atMost => ∀ v ∈ c.values, ∃ x, Instant.ofText? v = some x ∧ kind.dateKey t ≤ kind.dateKey x
  | .isNull => False
  | .contains | .startsWith | .endsWith => True

namespace Request

/-- Whether all conditions on the date that are not negated admit an instant. -/
def AdmitsDate (kind : Kind) (r : Request) (t : Instant) : Prop :=
  ∀ c ∈ r.conditions, c.name = Window.dateField → c.negated = false → c.AdmitsDate kind t

/-- Whether no condition on the date lists two instants as alternatives. -/
def ListsOneDate (r : Request) : Prop :=
  ∀ c ∈ r.conditions, c.name = Window.dateField → c.negated = false →
    c.operator = .any ∨ c.operator = .equal →
    ∀ v ∈ c.values, ∀ w ∈ c.values, ∀ x y, Instant.ofText? v = some x →
      Instant.ofText? w = some y → x = y

/-- Whether the conditions compare the date with a value by one of the chosen operators. -/
def BoundsDate (chosen : Operator → Bool) (r : Request) : Prop :=
  ∃ operator value, chosen operator = true ∧ Window.Compares r.conditions operator value

end Request

/-- Whether a window holds the day of an instant, and its indices the index of that day. -/
def Window.Covers (pattern : String) (w : Window) (t : Instant) : Prop :=
  w.first.day ≤ t.day ∧ t.day ≤ w.last.day ∧
    ∃ names name, Index.covering pattern w.first w.last = .ok names ∧
      Index.nameOf pattern t.day = .ok name ∧ name ∈ names

section DateKey

variable {kind : Kind} {a b : Instant}

/-- What is less by its number does not lie on a later day. -/
theorem Kind.day_le_of_dateKey (h : kind.dateKey a ≤ kind.dateKey b) : a.day ≤ b.day := by
  unfold dateKey at h
  split at h
  · exact h
  · exact Instant.day_le_of_le h

/-- What is not later is not greater by its number. -/
theorem Kind.dateKey_mono (h : a ≤ b) : kind.dateKey a ≤ kind.dateKey b := by
  unfold dateKey
  split
  · exact Instant.day_le_of_le h
  · exact h

/-- What is not greater by its number is not later, if dates that are days are midnights. -/
theorem Kind.le_of_dateKey (h : kind.dateKey a ≤ kind.dateKey b)
    (hmidnight : kind = .date → a.second = 0 ∧ a.nano = 0) : a ≤ b := by
  unfold dateKey at h
  split at h
  · obtain ⟨hsecond, hnano⟩ := hmidnight rfl
    show (a.day * daySeconds + a.second) * (2 * billion) + (a.nano : Int) ≤
      (b.day * daySeconds + b.second) * (2 * billion) + b.nano
    rw [hsecond, hnano]
    simp only [daySeconds, billion]
    omega
  · exact h

end DateKey

namespace Request

variable {kind : Kind} {r : Request} {t : Instant} {operator : Operator} {value : String}

/-- A request that bounds the date by a value and admits an instant can read that value or another
one, and the instant is on the right side of it. If the request lists one date only, the other value
is the same instant. -/
theorem AdmitsDate.exists_read (h : r.AdmitsDate kind t)
    (hbounds : Window.boundsBelow operator = true ∨ Window.boundsAbove operator = true)
    (hcompares : Window.Compares r.conditions operator value) :
    ∃ v x, Window.Compares r.conditions operator v ∧ Instant.ofText? v = some x ∧
      (Window.boundsBelow operator = true → kind.dateKey x ≤ kind.dateKey t) ∧
      (Window.boundsAbove operator = true → kind.dateKey t ≤ kind.dateKey x) ∧
      (r.ListsOneDate → ∀ y, Instant.ofText? value = some y → y = x) := by
  obtain ⟨c, hc, hname, hpos, rfl, hvalue⟩ := hcompares
  have hadmits := h c hc hname hpos
  unfold Condition.AdmitsDate at hadmits
  have hcompares : ∀ v ∈ c.values, Window.Compares r.conditions c.operator v :=
    fun v hv => ⟨c, hc, hname, hpos, rfl, hv⟩
  cases hoperator : c.operator <;> simp only [hoperator] at hadmits
  case any | equal =>
    -- One of the listed values equals the instant; it need not be the one that was asked for.
    obtain ⟨v, hv, x, hx, heq⟩ := hadmits
    refine ⟨v, x, hoperator ▸ hcompares v hv, hx, fun _ => by omega, fun _ => by omega, ?_⟩
    intro hlists y hy
    exact hlists c hc hname hpos (by simp [hoperator]) value hvalue v hv y x hy hx
  case greater | atLeast =>
    obtain ⟨x, hx, hside⟩ := hadmits value hvalue
    refine ⟨value, x, hoperator ▸ hcompares value hvalue, hx, fun _ => by omega, ?_, ?_⟩
    · intro habove
      simp [Window.boundsAbove] at habove
    · intro _ y hy
      rw [hy, Option.some.injEq] at hx
      exact hx
  case less | atMost =>
    obtain ⟨x, hx, hside⟩ := hadmits value hvalue
    refine ⟨value, x, hoperator ▸ hcompares value hvalue, hx, ?_, fun _ => by omega, ?_⟩
    · intro hbelow
      simp [Window.boundsBelow] at hbelow
    · intro _ y hy
      rw [hy, Option.some.injEq] at hx
      exact hx
  case contains | startsWith | endsWith =>
    rw [hoperator] at hbounds
    simp [Window.boundsBelow, Window.boundsAbove] at hbounds

/-- An instant is admitted with another one if it is not on the wrong side of that for any bound. -/
theorem AdmitsDate.of_side {t' : Instant} (h : r.AdmitsDate kind t)
    (hbelow : r.BoundsDate Window.boundsBelow → kind.dateKey t ≤ kind.dateKey t')
    (habove : r.BoundsDate Window.boundsAbove → kind.dateKey t' ≤ kind.dateKey t) :
    r.AdmitsDate kind t' := by
  intro c hc hname hpos
  have hadmits := h c hc hname hpos
  have hbounds : ∀ chosen : Operator → Bool, chosen c.operator = true → ∀ v ∈ c.values,
      r.BoundsDate chosen :=
    fun _ hchosen v hv => ⟨c.operator, v, hchosen, c, hc, hname, hpos, rfl, hv⟩
  unfold Condition.AdmitsDate at hadmits ⊢
  cases hoperator : c.operator <;> simp only [hoperator] at hadmits ⊢
  case any | equal =>
    obtain ⟨v, hv, x, hx, heq⟩ := hadmits
    have hle := hbelow (hbounds _ (by rw [hoperator]; rfl) v hv)
    have hge := habove (hbounds _ (by rw [hoperator]; rfl) v hv)
    exact ⟨v, hv, x, hx, by omega⟩
  case greater | atLeast =>
    intro v hv
    obtain ⟨x, hx, hside⟩ := hadmits v hv
    have hle := hbelow (hbounds _ (by rw [hoperator]; rfl) v hv)
    exact ⟨x, hx, by omega⟩
  case less | atMost =>
    intro v hv
    obtain ⟨x, hx, hside⟩ := hadmits v hv
    have hge := habove (hbounds _ (by rw [hoperator]; rfl) v hv)
    exact ⟨x, hx, by omega⟩

end Request

section Covers

open Request (temporalText)

variable {catalog : Catalog} {options : RequestOptions} {f : Field} {raw : RawRequest}
  {r : Request} {t : Instant}
  (hfield : catalog.lookup Window.dateField = some f) (hkind : f.kind.isTemporal = true)
  (hr : Request.ofRaw catalog options raw = .ok r) (hdays : 0 ≤ options.defaultDays)

include hfield hkind

/-- A date that a request was given and that can be read is not in the future, and is a midnight if
dates are days. -/
theorem Request.read_given {operator : Operator} {value : String} {x : Instant}
    (hcompares : Window.Compares (conditionsOf catalog options.now raw) operator value)
    (hx : Instant.ofText? value = some x) :
    x ≤ options.now ∧ (f.kind = .date → x.second = 0 ∧ x.nano = 0) := by
  obtain ⟨s, hs, rfl⟩ := date_of_conditionsOf hfield hkind hcompares
  obtain ⟨hle, -, hmidnight⟩ := read_temporalText hx
  exact ⟨Std.IsPreorder.le_trans _ _ _ hle hs, hmidnight⟩

include hr

/-- A window does not end in the future. -/
theorem Request.last_le_now : r.window.last ≤ options.now := by
  obtain ⟨hlast, -, -⟩ := Window.parts_of_complete (complete_of_ofRaw hr)
  rw [hlast]
  cases hupper : Window.upper? (conditionsOf catalog options.now raw) with
  | none => exact Std.IsPreorder.le_refl _
  | some last =>
    have hmem := (Window.upper?_eq_some_iff.1 hupper).1
    obtain ⟨operator, value, -, hcompares, hread⟩ := (Window.mem_bounds _ _).1 hmem
    exact (read_given hfield hkind hcompares hread).1

include hdays

omit hfield hkind in
/-- A window without a lower bound does not begin after its end. -/
theorem Request.first_le_last
    (hlower : Window.lower? (conditionsOf catalog options.now raw) = none) :
    r.window.first ≤ r.window.last := by
  obtain ⟨-, hsome | ⟨-, hmoves⟩, -⟩ := Window.parts_of_complete (complete_of_ofRaw hr)
  · rw [hlower] at hsome
    simp at hsome
  · exact Instant.minusDays?_le hdays hmoves

/-- What a request compares the date with was given, or is the present as an upper bound, or the
beginning of the window as a lower bound; the added bounds have the days of what they stand for. -/
theorem Request.compares_cases {operator : Operator} {value : String} {x : Instant}
    (hcompares : Window.Compares r.conditions operator value)
    (hx : Instant.ofText? value = some x) :
    Window.Compares (conditionsOf catalog options.now raw) operator value ∨
      (operator = .atMost ∧ x.day = options.now.day) ∨
      operator = .atLeast ∧ x.day = r.window.first.day := by
  have hcomplete := complete_of_ofRaw hr
  -- What is added has gone through a text, and has lost at most the time of day on the way.
  have hadded : ∀ s y : Instant, s ≤ options.now →
      Instant.ofText? (temporalText f.kind s) = some y →
      value = temporalText f.kind (min y options.now) → x.day = s.day := by
    intro s y hs hy hvalue
    obtain ⟨hle, hday, -⟩ := read_temporalText hy
    have hmin : min y options.now = y := by
      rw [Instant.min_def, if_pos (Std.IsPreorder.le_trans _ _ _ hle hs)]
    rw [hvalue, hmin] at hx
    rw [(read_temporalText hx).2.1, hday]
  rcases (Window.compares_complete hfield hkind hcomplete operator value).1 hcompares with
    hgiven | ⟨-, hop, y, hy, hvalue⟩ | ⟨hlower, hop, y, hy, hvalue⟩
  · exact Or.inl hgiven
  · exact Or.inr (Or.inl ⟨hop, hadded _ y (Std.IsPreorder.le_refl _) hy hvalue⟩)
  · have hfirst : r.window.first ≤ options.now :=
      Std.IsPreorder.le_trans _ _ _ (first_le_last hr hdays hlower)
        (last_le_now hfield hkind hr)
    exact Or.inr (Or.inr ⟨hop, hadded _ y hfirst hy hvalue⟩)

omit hdays in
/-- A lower bound that was given is the beginning of the window, and the request compares the date
with it. -/
theorem Request.first_of_lower {x : Instant}
    (hlower : Window.lower? (conditionsOf catalog options.now raw) = some x) :
    r.window.first = x ∧ ∃ operator value, Window.boundsBelow operator = true ∧
      Window.Compares r.conditions operator value ∧ Instant.ofText? value = some x ∧
      x ≤ options.now ∧ (f.kind = .date → x.second = 0 ∧ x.nano = 0) := by
  have hcomplete := complete_of_ofRaw hr
  obtain ⟨operator, value, hbelow, hgiven, hx⟩ :=
    (Window.mem_bounds _ _).1 (Window.lower?_eq_some_iff.1 hlower).1
  have hcompares := (Window.compares_complete hfield hkind hcomplete operator value).2
    (Or.inl hgiven)
  obtain ⟨hnow, hmidnight⟩ := read_given hfield hkind hgiven hx
  obtain ⟨-, hfirst | ⟨hnone, -⟩, -⟩ := Window.parts_of_complete hcomplete
  · rw [hlower, Option.some.injEq] at hfirst
    exact ⟨hfirst.symm, operator, value, hbelow, hcompares, hx, hnow, hmidnight⟩
  · rw [hlower] at hnone
    simp at hnone

omit hdays in
/-- An upper bound that was given is the end of the window, and the request compares the date with
it. -/
theorem Request.last_of_upper {x : Instant}
    (hupper : Window.upper? (conditionsOf catalog options.now raw) = some x) :
    r.window.last = x ∧ ∃ operator value, Window.boundsAbove operator = true ∧
      Window.Compares r.conditions operator value ∧ Instant.ofText? value = some x := by
  have hcomplete := complete_of_ofRaw hr
  obtain ⟨operator, value, habove, hgiven, hx⟩ :=
    (Window.mem_bounds _ _).1 (Window.upper?_eq_some_iff.1 hupper).1
  have hcompares := (Window.compares_complete hfield hkind hcomplete operator value).2
    (Or.inl hgiven)
  obtain ⟨hlast, -, -⟩ := Window.parts_of_complete hcomplete
  rw [hupper] at hlast
  exact ⟨hlast, operator, value, habove, hcompares, hx⟩

omit hdays in
/-- Every lower bound that was given and can be read is at most the beginning of the window. -/
theorem Request.le_first {operator : Operator} {value : String} {x : Instant}
    (hbelow : Window.boundsBelow operator = true)
    (hgiven : Window.Compares (conditionsOf catalog options.now raw) operator value)
    (hx : Instant.ofText? value = some x) : x ≤ r.window.first := by
  have hmem := (Window.mem_bounds _ x).2 ⟨operator, value, hbelow, hgiven, hx⟩
  cases hlower : Window.lower? (conditionsOf catalog options.now raw) with
  | none =>
    rw [Window.lower?_eq_none_iff.1 hlower] at hmem
    simp at hmem
  | some first =>
    rw [(first_of_lower hfield hkind hr hlower).1]
    exact (Window.lower?_eq_some_iff.1 hlower).2 x hmem

omit hdays in
/-- Every upper bound that was given and can be read is at least the end of the window. -/
theorem Request.last_le {operator : Operator} {value : String} {x : Instant}
    (habove : Window.boundsAbove operator = true)
    (hgiven : Window.Compares (conditionsOf catalog options.now raw) operator value)
    (hx : Instant.ofText? value = some x) : r.window.last ≤ x := by
  have hmem := (Window.mem_bounds _ x).2 ⟨operator, value, habove, hgiven, hx⟩
  cases hupper : Window.upper? (conditionsOf catalog options.now raw) with
  | none =>
    rw [Window.upper?_eq_none_iff.1 hupper] at hmem
    simp at hmem
  | some last =>
    rw [(last_of_upper hfield hkind hr hupper).1]
    exact (Window.upper?_eq_some_iff.1 hupper).2 x hmem

/-- An admitted instant does not lie before the first day of a window that begins with a bound or
with the calendar, if no two dates are listed. -/
theorem Request.first_day_le (hadmits : r.AdmitsDate f.kind t) (hlists : r.ListsOneDate)
    (hbound : r.window.first.day = minDay ∨ r.BoundsDate Window.boundsBelow) :
    r.window.first.day ≤ t.day := by
  cases hlower : Window.lower? (conditionsOf catalog options.now raw) with
  | some first =>
    obtain ⟨hfirst, operator, value, hbelow, hcompares, hread, -, -⟩ :=
      first_of_lower hfield hkind hr hlower
    obtain ⟨v, x, -, -, hle, -, hone⟩ := hadmits.exists_read (Or.inl hbelow) hcompares
    have heq : first = x := hone hlists first hread
    rw [hfirst, heq]
    exact Kind.day_le_of_dateKey (hle hbelow)
  | none =>
    rcases hbound with hmin | ⟨operator, value, hbelow, hcompares⟩
    · rw [hmin]
      exact t.day_ge
    · obtain ⟨v, x, hcompares', hx, hle, -, -⟩ := hadmits.exists_read (Or.inl hbelow) hcompares
      have hday := Kind.day_le_of_dateKey (hle hbelow)
      rcases compares_cases hfield hkind hr hdays hcompares' hx with
        hgiven | ⟨rfl, -⟩ | ⟨-, hfirst⟩
      · -- A lower bound that was given and can be read is a bound of the window.
        have hmem := (Window.mem_bounds _ x).2 ⟨operator, v, hbelow, hgiven, hx⟩
        rw [Window.lower?_eq_none_iff.1 hlower] at hmem
        simp at hmem
      · simp [Window.boundsBelow] at hbelow
      · rw [← hfirst]
        exact hday

/-- An admitted instant does not lie behind the last day of a window that ends with a bound or with
the calendar, if no two dates are listed. -/
theorem Request.day_le_last (hadmits : r.AdmitsDate f.kind t) (hlists : r.ListsOneDate)
    (hbound : r.window.last.day = maxDay ∨ r.BoundsDate Window.boundsAbove) :
    t.day ≤ r.window.last.day := by
  cases hupper : Window.upper? (conditionsOf catalog options.now raw) with
  | some last =>
    obtain ⟨hlast, operator, value, habove, hcompares, hread⟩ :=
      last_of_upper hfield hkind hr hupper
    obtain ⟨v, x, -, -, -, hle, hone⟩ := hadmits.exists_read (Or.inr habove) hcompares
    have heq : last = x := hone hlists last hread
    rw [hlast, heq]
    exact Kind.day_le_of_dateKey (hle habove)
  | none =>
    rcases hbound with hmax | ⟨operator, value, habove, hcompares⟩
    · rw [hmax]
      exact t.day_le
    · obtain ⟨v, x, hcompares', hx, -, hle, -⟩ := hadmits.exists_read (Or.inr habove) hcompares
      have hday := Kind.day_le_of_dateKey (hle habove)
      rcases compares_cases hfield hkind hr hdays hcompares' hx with
        hgiven | ⟨-, hnow⟩ | ⟨rfl, -⟩
      · have hmem := (Window.mem_bounds _ x).2 ⟨operator, v, habove, hgiven, hx⟩
        rw [Window.upper?_eq_none_iff.1 hupper] at hmem
        simp at hmem
      · obtain ⟨hlast, -, -⟩ := Window.parts_of_complete (complete_of_ofRaw hr)
        rw [hupper] at hlast
        rw [hlast, Option.getD_none, ← hnow]
        exact hday
      · simp [Window.boundsAbove] at habove

/-- A window does not end before it begins if an instant is admitted and no two dates are listed. -/
theorem Request.not_last_lt_first (hadmits : r.AdmitsDate f.kind t) (hlists : r.ListsOneDate) :
    ¬ r.window.last < r.window.first := by
  have hle : r.window.first ≤ r.window.last := by
    cases hlower : Window.lower? (conditionsOf catalog options.now raw) with
    | none => exact first_le_last hr hdays hlower
    | some first =>
      obtain ⟨hfirst, operator, value, hbelow, hcompares, hread, hnow, hmidnight⟩ :=
        first_of_lower hfield hkind hr hlower
      cases hupper : Window.upper? (conditionsOf catalog options.now raw) with
      | none =>
        obtain ⟨hlast, -, -⟩ := Window.parts_of_complete (complete_of_ofRaw hr)
        rw [hupper] at hlast
        rw [hfirst, hlast]
        exact hnow
      | some last =>
        obtain ⟨hlast, operator', value', habove, hcompares', hread'⟩ :=
          last_of_upper hfield hkind hr hupper
        -- Both ends are instants that the admitted one lies between.
        obtain ⟨v, x, -, -, hlex, -, hone⟩ := hadmits.exists_read (Or.inl hbelow) hcompares
        obtain ⟨v', x', -, -, -, hlex', hone'⟩ := hadmits.exists_read (Or.inr habove) hcompares'
        have hkey : f.kind.dateKey first ≤ f.kind.dateKey last := by
          rw [hone hlists first hread, hone' hlists last hread']
          exact Int.le_trans (hlex hbelow) (hlex' habove)
        rw [hfirst, hlast]
        exact Kind.le_of_dateKey hkey hmidnight
  exact Int.not_lt.2 hle

variable {pattern : String} (hpattern : Pattern.isDatePattern pattern = true)

include hpattern

/-- The window of a request and its indices hold an admitted instant if no two dates are listed, and
if the ends of the window are bounds or those of the calendar. -/
theorem Request.covers_of_bounds (hadmits : r.AdmitsDate f.kind t) (hlists : r.ListsOneDate)
    (hbelow : r.window.first.day = minDay ∨ r.BoundsDate Window.boundsBelow)
    (habove : r.window.last.day = maxDay ∨ r.BoundsDate Window.boundsAbove) :
    r.window.Covers pattern t := by
  have hfirst := first_day_le hfield hkind hr hdays hadmits hlists hbelow
  have hlast := day_le_last hfield hkind hr hdays hadmits hlists habove
  obtain ⟨names, hnames, hmem⟩ := Index.exists_covering hpattern
    (not_last_lt_first hfield hkind hr hdays hadmits hlists)
  obtain ⟨name, hname⟩ := Index.exists_nameOf hpattern t.day
  exact ⟨hfirst, hlast, names, name, hnames, hname, (hmem name).2 ⟨t.day, hfirst, hlast, hname⟩⟩

omit hdays hpattern in
/-- If an instant is covered, then no two dates are listed. -/
theorem Request.listsOneDate_of_covers (hcovers : r.window.Covers pattern t) :
    r.ListsOneDate := by
  intro c hc hname hpos hoperator v hv w hw x y hx hy
  have hcomplete := complete_of_ofRaw hr
  have hsides : Window.boundsBelow c.operator = true ∧ Window.boundsAbove c.operator = true := by
    rcases hoperator with h | h <;> rw [h] <;> exact ⟨rfl, rfl⟩
  -- Listed values were given, since the added bounds list nothing.
  have hgiven : ∀ u ∈ c.values,
      Window.Compares (conditionsOf catalog options.now raw) c.operator u := by
    intro u hu
    rcases (Window.compares_complete hfield hkind hcomplete c.operator u).1
      ⟨c, hc, hname, hpos, rfl, hu⟩ with hgiven | ⟨-, hmost, -⟩ | ⟨-, hleast, -⟩
    · exact hgiven
    · rw [hmost] at hoperator
      simp at hoperator
    · rw [hleast] at hoperator
      simp at hoperator
  have hbelow : ∀ u ∈ c.values, ∀ z, Instant.ofText? u = some z → z ≤ r.window.first :=
    fun u hu z hz => le_first hfield hkind hr hsides.1 (hgiven u hu) hz
  have habove : ∀ u ∈ c.values, ∀ z, Instant.ofText? u = some z → r.window.last ≤ z :=
    fun u hu z hz => last_le hfield hkind hr hsides.2 (hgiven u hu) hz
  have hnot : ¬ r.window.last < r.window.first := by
    intro hlt
    obtain ⟨-, -, names, name, hnames, -, hmem⟩ := hcovers
    rw [Index.covering_of_lt hlt, Except.ok.injEq] at hnames
    rw [← hnames] at hmem
    simp at hmem
  -- Each listed date lies between the beginning and the end, from both sides.
  have hle : r.window.first ≤ r.window.last := Int.not_lt.1 hnot
  have heq : ∀ u ∈ c.values, ∀ z, Instant.ofText? u = some z → z = r.window.first := by
    intro u hu z hz
    exact Std.IsPartialOrder.le_antisymm _ _ (hbelow u hu z hz)
      (Std.IsPreorder.le_trans _ _ _ hle (habove u hu z hz))
  rw [heq v hv x hx, heq w hw y hy]

omit hdays hpattern in
/-- The ends of a window are bounds if the texts of the present and of its beginning can be read. -/
theorem Request.boundsDate_of_read
    (hnow : (Instant.ofText? (temporalText f.kind options.now)).isSome = true)
    (hfirst : (Instant.ofText? (temporalText f.kind r.window.first)).isSome = true) :
    r.BoundsDate Window.boundsBelow ∧ r.BoundsDate Window.boundsAbove := by
  have hcompares := fun operator value =>
    (Window.compares_complete hfield hkind (complete_of_ofRaw hr) operator value).2
  constructor
  · cases hlower : Window.lower? (conditionsOf catalog options.now raw) with
    | some first =>
      obtain ⟨-, operator, value, hbelow, hcompares, -⟩ := first_of_lower hfield hkind hr hlower
      exact ⟨operator, value, hbelow, hcompares⟩
    | none =>
      obtain ⟨y, hy⟩ := Option.isSome_iff_exists.1 hfirst
      exact ⟨.atLeast, _, rfl, hcompares _ _ (Or.inr (Or.inr ⟨hlower, rfl, y, hy, rfl⟩))⟩
  · cases hupper : Window.upper? (conditionsOf catalog options.now raw) with
    | some last =>
      obtain ⟨-, operator, value, habove, hcompares, -⟩ := last_of_upper hfield hkind hr hupper
      exact ⟨operator, value, habove, hcompares⟩
    | none =>
      obtain ⟨y, hy⟩ := Option.isSome_iff_exists.1 hnow
      exact ⟨.atMost, _, rfl, hcompares _ _ (Or.inr (Or.inl ⟨hupper, rfl, y, hy, rfl⟩))⟩

end Covers

namespace Request

variable {kind : Kind} {r : Request} {t : Instant} {pattern : String}

/-- If all admitted instants are covered and there is one, then the window begins with a bound or
with the calendar. -/
theorem boundsBelow_of_covers (hadmits : r.AdmitsDate kind t)
    (hcovers : ∀ t, r.AdmitsDate kind t → r.window.Covers pattern t) :
    r.window.first.day = minDay ∨ r.BoundsDate Window.boundsBelow := by
  refine Classical.or_iff_not_imp_right.2 fun hnone => ?_
  -- Without a lower bound everything before an admitted instant is admitted.
  have hearliest : r.AdmitsDate kind Instant.earliest :=
    hadmits.of_side (fun hbelow => absurd hbelow hnone)
      (fun _ => Kind.dateKey_mono (Instant.earliest_le t))
  obtain ⟨hfirst, -⟩ := hcovers _ hearliest
  exact Int.le_antisymm hfirst r.window.first.day_ge

/-- If all admitted instants are covered and there is one, then the window ends with a bound or with
the calendar. -/
theorem boundsAbove_of_covers (hadmits : r.AdmitsDate kind t)
    (hcovers : ∀ t, r.AdmitsDate kind t → r.window.Covers pattern t) :
    r.window.last.day = maxDay ∨ r.BoundsDate Window.boundsAbove := by
  refine Classical.or_iff_not_imp_right.2 fun hnone => ?_
  -- Without an upper bound everything after an admitted instant is admitted.
  have hlatest : r.AdmitsDate kind Instant.latest :=
    hadmits.of_side (fun _ => Kind.dateKey_mono (Instant.le_latest t))
      (fun habove => absurd habove hnone)
  obtain ⟨-, hlast, -⟩ := hcovers _ hlatest
  exact Int.le_antisymm r.window.last.day_le hlast

end Request

/-- Settings that pass their checks have a default width of at least one day. -/
theorem Settings.defaultDays_pos {settings : Settings} (h : settings.check = .ok ()) :
    0 < settings.defaultDays := by
  unfold check at h
  obtain ⟨-, -, h⟩ := Outcome.bind_eq_ok.1 h
  by_cases hdays : settings.defaultDays ≤ 0
  · simp [hdays, bind, Except.bind, throw, throwThe, MonadExceptOf.throw] at h
  · omega

namespace Service

variable {s : Service} {f : Field} {pattern : String} {raw : RawRequest} {r : Request}

/-- The window of a request and its indices hold all instants that its conditions on the date admit
exactly when there are none, or when no condition lists two dates and each end of the window is one
of the bounds or of the calendar. -/
theorem covers_iff (hcheck : s.settings.check = .ok ())
    (hfield : s.catalog.lookup Window.dateField = some f) (hkind : f.kind.isTemporal = true)
    (hpattern : Pattern.isDatePattern pattern = true)
    (hr : Request.ofRaw s.catalog s.options raw = .ok r) :
    (∀ t, r.AdmitsDate f.kind t → r.window.Covers pattern t) ↔
      (∀ t, ¬ r.AdmitsDate f.kind t) ∨
        r.ListsOneDate ∧
          (r.window.first.day = minDay ∨ r.BoundsDate Window.boundsBelow) ∧
          (r.window.last.day = maxDay ∨ r.BoundsDate Window.boundsAbove) := by
  have hdays : 0 ≤ s.options.defaultDays := Int.le_of_lt (Settings.defaultDays_pos hcheck)
  constructor
  · intro hcovers
    -- One admitted instant is enough to tell what the window is.
    refine Classical.or_iff_not_imp_left.2 fun hsome => ?_
    obtain ⟨t, ht⟩ := Classical.not_forall_not.1 hsome
    exact ⟨Request.listsOneDate_of_covers hfield hkind hr (hcovers t ht),
      Request.boundsBelow_of_covers ht hcovers, Request.boundsAbove_of_covers ht hcovers⟩
  · rintro (hnone | ⟨hlists, hbelow, habove⟩) t ht
    · exact absurd ht (hnone t)
    · exact Request.covers_of_bounds hfield hkind hr hdays hpattern ht hlists hbelow habove

/-- In the years of four digits, and always for days, listed dates are all that can go wrong: the
window of a request that lists one date only holds all instants that are admitted. -/
theorem covers_of_listsOneDate (hcheck : s.settings.check = .ok ())
    (hfield : s.catalog.lookup Window.dateField = some f) (hkind : f.kind.isTemporal = true)
    (hpattern : Pattern.isDatePattern pattern = true)
    (hr : Request.ofRaw s.catalog s.options raw = .ok r)
    (hyears : f.kind = .date ∨ s.now.HasFourDigits ∧ r.window.first.HasFourDigits)
    (hlists : r.ListsOneDate) {t : Instant} (ht : r.AdmitsDate f.kind t) :
    r.window.Covers pattern t := by
  have hdays : 0 ≤ s.options.defaultDays := Int.le_of_lt (Settings.defaultDays_pos hcheck)
  have hread : (Instant.ofText? (Request.temporalText f.kind s.now)).isSome = true ∧
      (Instant.ofText? (Request.temporalText f.kind r.window.first)).isSome = true := by
    rcases hyears with hdate | ⟨hnow, hfirst⟩
    · exact ⟨isSome_read_temporalText.2 (Or.inl hdate), isSome_read_temporalText.2 (Or.inl hdate)⟩
    · exact ⟨isSome_read_temporalText.2 (Or.inr hnow), isSome_read_temporalText.2 (Or.inr hfirst)⟩
  obtain ⟨hbelow, habove⟩ := Request.boundsDate_of_read hfield hkind hr hread.1 hread.2
  exact Request.covers_of_bounds hfield hkind hr hdays hpattern ht hlists (Or.inr hbelow)
    (Or.inr habove)

/-- A service with the default settings and fields, in the middle of a month. -/
def sampleService : Service where
  settings := {}
  catalog := Catalog.builtin
  versions := .table VersionTable.empty
  now := (Instant.make? 19797 43200 0).getD .earliest

/-- The beginning of that month. -/
def sampleDay : Instant := (Instant.make? 19783 0 0).getD .earliest

/-- What has come since the beginning of the month is covered by the indices of a request for it. -/
theorem covers_since_sampleDay : ∃ r,
    sampleService.settings.check = .ok () ∧
    (sampleService.catalog.lookup Window.dateField).map Field.kind = some .datetime ∧
    Pattern.isDatePattern sampleService.settings.indexPattern = true ∧
    Request.ofRaw sampleService.catalog sampleService.options
      [("date", [">=2024-03-01"])] = .ok r ∧
    r.AdmitsDate .datetime sampleDay ∧
    ∀ t, r.AdmitsDate .datetime t → r.window.Covers sampleService.settings.indexPattern t := by
  obtain ⟨f, r, hfield, hkind, hr, hconditions⟩ : ∃ f r,
      sampleService.catalog.lookup Window.dateField = some f ∧ f.kind = .datetime ∧
      Request.ofRaw sampleService.catalog sampleService.options
        [("date", [">=2024-03-01"])] = .ok r ∧
      r.conditions = [⟨f, .atLeast, false, ["2024-03-01T00:00:00Z"]⟩,
        ⟨f, .atMost, false, ["2024-03-15T12:00:00Z"]⟩] := ⟨_, _, rfl, rfl, rfl, rfl⟩
  have hpattern : Pattern.isDatePattern sampleService.settings.indexPattern = true := by
    decide +kernel
  have hread : Instant.ofText? "2024-03-01T00:00:00Z" = some sampleDay := by decide +kernel
  have hnow : Instant.ofText? "2024-03-15T12:00:00Z" = some sampleService.now := by decide +kernel
  have hname : f.publicName = Window.dateField := Catalog.publicName_of_lookup hfield
  have htemporal : f.kind.isTemporal = true := by
    rw [hkind]
    rfl
  have hlookup : (sampleService.catalog.lookup Window.dateField).map Field.kind =
      some .datetime := by
    rw [hfield, ← hkind]
    rfl
  rw [← hkind]
  refine ⟨r, rfl, hkind ▸ hlookup, hpattern, hr, ?_,
    (covers_iff rfl hfield htemporal hpattern hr).2 (Or.inr ⟨?_, Or.inr ?_, Or.inr ?_⟩)⟩
  · intro c hc _ _
    simp only [hconditions, List.mem_cons, List.not_mem_nil, or_false] at hc
    rcases hc with rfl | rfl
    · intro v hv
      rw [List.mem_singleton.1 hv]
      exact ⟨sampleDay, hread, Int.le_refl _⟩
    · intro v hv
      rw [List.mem_singleton.1 hv, hkind]
      exact ⟨sampleService.now, hnow, by decide⟩
  · intro c hc _ _ hoperator
    simp only [hconditions, List.mem_cons, List.not_mem_nil, or_false] at hc
    rcases hc with rfl | rfl <;> simp at hoperator
  · unfold Request.BoundsDate Window.Compares
    rw [hconditions]
    exact ⟨.atLeast, _, rfl, _, List.mem_cons_self, hname, rfl, rfl, List.mem_cons_self⟩
  · unfold Request.BoundsDate Window.Compares
    rw [hconditions]
    exact ⟨.atMost, _, rfl, _, List.mem_cons_of_mem _ List.mem_cons_self, hname, rfl, rfl,
      List.mem_cons_self⟩

/-- Two listed dates are taken for bounds on each other, and there is no index for either. -/
theorem not_covers_listed : ∃ r,
    sampleService.settings.check = .ok () ∧
    (sampleService.catalog.lookup Window.dateField).map Field.kind = some .datetime ∧
    Pattern.isDatePattern sampleService.settings.indexPattern = true ∧
    Request.ofRaw sampleService.catalog sampleService.options
      [("date", ["2024-03-01", "2024-03-05"])] = .ok r ∧
    r.AdmitsDate .datetime sampleDay ∧
    Index.covering sampleService.settings.indexPattern r.window.first r.window.last = .ok [] ∧
    ¬ r.window.Covers sampleService.settings.indexPattern sampleDay := by
  have hread : Instant.ofText? "2024-03-01T00:00:00Z" = some sampleDay := by decide +kernel
  refine ⟨_, rfl, rfl, by decide +kernel, rfl, ?_, ?_, ?_⟩
  · intro c hc _ _
    replace hc : c ∈ [(⟨_, .any, false, ["2024-03-01T00:00:00Z", "2024-03-05T00:00:00Z"]⟩ :
      Condition)] := hc
    rw [List.mem_singleton.1 hc]
    exact ⟨_, List.mem_cons_self, sampleDay, hread, rfl⟩
  · refine Index.covering_of_lt ?_
    show (19783 * 86400 + 0) * 2000000000 + 0 < (19787 * 86400 + 0) * 2000000000 + (0 : Int)
    decide
  · rintro ⟨hfirst, -⟩
    replace hfirst : (19787 : Int) ≤ 19783 := hfirst
    omega

end Service

end CrashQuery
