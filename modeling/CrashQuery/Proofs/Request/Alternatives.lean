import CrashQuery.Proofs.Request.Parameter

/-!
# Plain values as alternatives

Plain values of one parameter are merged into one condition, of which one value must be met. Version
keys are taken out of it, and of the versions that they are resolved into one must be met as well. So
a request for several values selects what the request for one of its keys selects and, at the same
time, what the request for one of its other values selects (`Service.selects_plain_iff`): the values
are alternatives if all of them are keys or none is, and a mixture asks for both kinds at once.
-/

namespace CrashQuery

/-- Whether one of the members of a list with a property has another one, if there are any. -/
def OneOf {ι : Type} (l : List ι) (p q : ι → Prop) : Prop := (∃ x ∈ l, p x) → ∃ x ∈ l, p x ∧ q x

section OneOf

variable {ι κ : Type} {l : List ι} {p q : ι → Prop}

/-- Of the images of a list one has a property if one of its members is mapped to such an image. -/
theorem oneOf_image {images : List κ} {g : ι → κ} {p q : κ → Prop}
    (h : ∀ y, y ∈ images ↔ ∃ x ∈ l, g x = y) :
    OneOf images p q ↔ OneOf l (fun x => p (g x)) fun x => q (g x) := by
  have hexists : ∀ r : κ → Prop, (∃ y ∈ images, r y) ↔ ∃ x ∈ l, r (g x) := by
    intro r
    simp only [h]
    constructor
    · rintro ⟨y, ⟨x, hx, rfl⟩, hr⟩
      exact ⟨x, hx, hr⟩
    · rintro ⟨x, hx, hr⟩
      exact ⟨g x, ⟨x, hx, rfl⟩, hr⟩
  unfold OneOf
  rw [hexists, hexists]

/-- Properties that agree on a list can be exchanged. -/
theorem oneOf_congr {p' q' : ι → Prop} (hp : ∀ x ∈ l, p x ↔ p' x) (hq : ∀ x ∈ l, q x ↔ q' x) :
    OneOf l p q ↔ OneOf l p' q' := by
  refine imp_congr (exists_congr fun x => and_congr_right fun hx => hp x hx) ?_
  exact exists_congr fun x => and_congr_right fun hx => and_congr (hp x hx) (hq x hx)

/-- A single member is of one of the two kinds. -/
theorem oneOf_singleton_iff {x : ι} :
    OneOf [x] p q ∧ OneOf [x] (fun x => ¬ p x) q ↔ q x := by
  by_cases hp : p x <;> simp [OneOf, hp]

/-- What must hold beside one member of each kind can be asked of these members. -/
theorem and_oneOf_iff {b : Prop} (hne : l ≠ []) :
    b ∧ OneOf l p q ∧ OneOf l (fun x => ¬ p x) q ↔
      OneOf l p (fun x => b ∧ q x) ∧ OneOf l (fun x => ¬ p x) fun x => b ∧ q x := by
  constructor
  · rintro ⟨hb, hpos, hneg⟩
    refine ⟨fun hex => ?_, fun hex => ?_⟩
    · obtain ⟨x, hx, hp, hq⟩ := hpos hex
      exact ⟨x, hx, hp, hb, hq⟩
    · obtain ⟨x, hx, hp, hq⟩ := hneg hex
      exact ⟨x, hx, hp, hb, hq⟩
  · rintro ⟨hpos, hneg⟩
    have hb : b := by
      obtain ⟨x, hx⟩ := List.exists_mem_of_ne_nil l hne
      by_cases hp : p x
      · obtain ⟨-, -, -, hb, -⟩ := hpos ⟨x, hx, hp⟩
        exact hb
      · obtain ⟨-, -, -, hb, -⟩ := hneg ⟨x, hx, hp⟩
        exact hb
    refine ⟨hb, fun hex => ?_, fun hex => ?_⟩
    · obtain ⟨x, hx, hp, -, hq⟩ := hpos hex
      exact ⟨x, hx, hp, hq⟩
    · obtain ⟨x, hx, hp, -, hq⟩ := hneg hex
      exact ⟨x, hx, hp, hq⟩

/-- One member of each kind is one member at all exactly when both kinds agree, if there are both. -/
theorem oneOf_iff_exists_iff (hne : l ≠ []) :
    (OneOf l p q ∧ OneOf l (fun x => ¬ p x) q ↔ ∃ x ∈ l, q x) ↔
      ((∃ x ∈ l, p x) → (∃ x ∈ l, ¬ p x) →
        ((∃ x ∈ l, p x ∧ q x) ↔ ∃ x ∈ l, ¬ p x ∧ q x)) := by
  have hsplit : (∃ x ∈ l, q x) ↔ (∃ x ∈ l, p x ∧ q x) ∨ ∃ x ∈ l, ¬ p x ∧ q x := by
    constructor
    · rintro ⟨x, hx, hq⟩
      by_cases hp : p x
      · exact Or.inl ⟨x, hx, hp, hq⟩
      · exact Or.inr ⟨x, hx, hp, hq⟩
    · rintro (⟨x, hx, -, hq⟩ | ⟨x, hx, -, hq⟩) <;> exact ⟨x, hx, hq⟩
  have hpos : (∃ x ∈ l, p x ∧ q x) → ∃ x ∈ l, p x := fun ⟨x, hx, hp, _⟩ => ⟨x, hx, hp⟩
  have hneg : (∃ x ∈ l, ¬ p x ∧ q x) → ∃ x ∈ l, ¬ p x := fun ⟨x, hx, hp, _⟩ => ⟨x, hx, hp⟩
  rw [hsplit]
  unfold OneOf
  by_cases hp : ∃ x ∈ l, p x
  · by_cases hn : ∃ x ∈ l, ¬ p x
    · rw [imp_iff_right hp, imp_iff_right hn, imp_iff_right hp, imp_iff_right hn]
      constructor
      · exact fun h => ⟨fun hc => (h.2 (Or.inl hc)).2, fun hc => (h.2 (Or.inr hc)).1⟩
      · rintro h
        rw [h, and_self, or_self]
    · refine iff_of_true ?_ fun _ hn' => absurd hn' hn
      rw [imp_iff_right hp, or_iff_left (mt hneg hn)]
      exact and_iff_left fun hn' => absurd hn' hn
  · have hn : ∃ x ∈ l, ¬ p x := by
      obtain ⟨x, hx⟩ := List.exists_mem_of_ne_nil l hne
      exact ⟨x, hx, fun hpx => hp ⟨x, hx, hpx⟩⟩
    refine iff_of_true ?_ fun hp' => absurd hp' hp
    rw [imp_iff_right hn, or_iff_right (mt hpos hp)]
    exact and_iff_right fun hp' => absurd hp' hp

end OneOf

namespace Service

variable {s : Service} {f : Field} {α : Type} (m : Meaning α) (d : α)

/-- Whether a value of a field is a version key. -/
def IsKeyOf (f : Field) (v : String) : Prop :=
  f.publicName = VersionRule.versionField ∧ VersionRule.isKey v = true

instance (f : Field) (v : String) : Decidable (IsKeyOf f v) :=
  inferInstanceAs (Decidable (_ ∧ _))

/-- Whether a report has a value of a field, or is of the version that the value stands for if it is
a version key. -/
def MeetsValue (s : Service) (f : Field) (v : String) : Prop :=
  if IsKeyOf f v then s.MeetsKey m d v
  else m.term f.storagePath (Condition.typedValue f.kind v) d

/-- Whether the body of a request selects a report. -/
def SelectsFor (s : Service) (raw : RawRequest) : Prop :=
  ∃ r body, s.prepare raw = .ok (r, body) ∧ Body.Selects m d body

/-- Whether a raw value of a field stands for a version key. -/
def ReadsKey (s : Service) (f : Field) (raw : String) : Prop :=
  ∃ c, Condition.ofRaw? f raw s.now = some c ∧ VersionRule.AsksKey c

/-- A plain condition asks for the values that are version keys. -/
theorem asksKey_plain_iff {values : List String} :
    VersionRule.AsksKey ⟨f, .any, false, values⟩ ↔ ∃ v ∈ values, IsKeyOf f v := by
  unfold VersionRule.AsksKey IsKeyOf
  rw [VersionRule.takesKeys_iff]
  simp only [Condition.name, true_or, and_true]
  constructor
  · rintro ⟨hname, v, hv, hkey⟩
    exact ⟨v, hv, hname, hkey⟩
  · rintro ⟨v, hv, hname, hkey⟩
    exact ⟨hname, v, hv, hkey⟩

/-- A raw value that stands for a plain comparison is a version key when its value is. -/
theorem readsKey_iff {raw v : String}
    (h : Condition.ofRaw? f raw s.now = some ⟨f, .any, false, [v]⟩) :
    s.ReadsKey f raw ↔ IsKeyOf f v := by
  unfold ReadsKey
  rw [h]
  simp [asksKey_plain_iff]

/-- A plain condition is left with the values that are no version keys. -/
theorem withoutKeys_plain (f : Field) (values : List String) :
    VersionRule.withoutKeys ⟨f, .any, false, values⟩ =
      ⟨f, .any, false, values.filter fun v => decide (¬ IsKeyOf f v)⟩ := by
  by_cases hname : f.publicName = VersionRule.versionField
  · have htakes : VersionRule.takesKeys ⟨f, .any, false, values⟩ = true :=
      VersionRule.takesKeys_iff.2 ⟨hname, rfl, Or.inl rfl⟩
    have hkey : ∀ v, decide (¬ IsKeyOf f v) = !VersionRule.isKey v := by
      intro v
      simp [IsKeyOf, hname]
    simp only [VersionRule.withoutKeys, htakes, if_true, hkey]
  · have hkey : ∀ v, decide (¬ IsKeyOf f v) = true := by
      intro v
      simp [IsKeyOf, hname]
    have htakes : VersionRule.takesKeys ⟨f, .any, false, values⟩ = false :=
      VersionRule.takesKeys_of_name_ne hname
    rw [VersionRule.withoutKeys_of_not_takesKeys htakes]
    simp only [hkey, List.filter_true]

/-- Something is left of a plain condition when it has other values than version keys. -/
theorem isLeft_withoutKeys_plain_iff {values : List String} (hne : values ≠ []) :
    VersionRule.isLeft (VersionRule.withoutKeys ⟨f, .any, false, values⟩) = true ↔
      ∃ v ∈ values, ¬ IsKeyOf f v := by
  rw [withoutKeys_plain]
  by_cases hname : f.publicName = VersionRule.versionField
  · simp [VersionRule.isLeft, Condition.name, hname]
  · obtain ⟨v, hv⟩ := List.exists_mem_of_ne_nil values hne
    refine iff_of_true ?_ ⟨v, hv, fun hkey => hname hkey.1⟩
    simp [VersionRule.isLeft, Condition.name, hname]

/-- A request with one plain condition selects the reports that meet its bounds, one of its version
keys and one of its other values, if there are any. -/
theorem selects_of_plain {raw : RawRequest} {r : Request} {body : Json} {values : List String}
    (h : s.prepare raw = .ok (r, body))
    (hsingle : Request.conditionsOf s.catalog s.now raw = [⟨f, .any, false, values⟩])
    (hdate : f.publicName ≠ Window.dateField) (hne : values ≠ []) :
    Body.Selects m d body ↔ s.MeetsBounds m d ∧
      OneOf values (IsKeyOf f) (s.MeetsValue m d f) ∧
      OneOf values (fun v => ¬ IsKeyOf f v) (s.MeetsValue m d f) := by
  -- The keys are resolved, and the other values stay in the condition.
  have hkeys : (VersionRule.AsksKey ⟨f, .any, false, values⟩ →
      ∃ k ∈ values, VersionRule.isKey k = true ∧ s.MeetsKey m d k) ↔
        OneOf values (IsKeyOf f) (s.MeetsValue m d f) := by
    rw [asksKey_plain_iff]
    refine imp_congr_right fun ⟨_, _, hname, _⟩ => ?_
    refine exists_congr fun v => and_congr_right fun _ => ?_
    have hkey : IsKeyOf f v ↔ VersionRule.isKey v = true := and_iff_right hname
    rw [hkey]
    refine and_congr_right fun hv => ?_
    rw [MeetsValue, if_pos (hkey.2 hv)]
  have hothers : (VersionRule.isLeft (VersionRule.withoutKeys ⟨f, .any, false, values⟩) = true →
      (VersionRule.withoutKeys ⟨f, .any, false, values⟩).Accepts m d) ↔
        OneOf values (fun v => ¬ IsKeyOf f v) (s.MeetsValue m d f) := by
    rw [isLeft_withoutKeys_plain_iff hne, withoutKeys_plain]
    refine imp_congr_right fun _ => ?_
    simp only [Condition.Accepts, Condition.Meets, List.mem_filter, decide_eq_true_eq, and_assoc,
      Bool.false_eq_true, if_false]
    refine exists_congr fun v => and_congr_right fun _ => and_congr_right fun hv => ?_
    rw [MeetsValue, if_neg hv]
  rw [selects_of_conditionsOf_eq_singleton m d h hsingle hdate, hkeys, hothers,
    and_comm (a := OneOf values (fun v => ¬ IsKeyOf f v) _)]

section Values

variable {key : String} (hfield : s.catalog.lookup (Request.resolveAlias key) = some f)
  (hdate : f.publicName ≠ Window.dateField)

include hfield hdate

/-- A request for one plain value selects the reports that meet its bounds and the value, unless its
parameter steers the request. -/
theorem selectsFor_value_iff {raw v : String} (hplain : Comparison.IsPlain raw)
    (hv : Request.coerce f.kind .any raw.toList s.now = some v)
    (hprepare : ∃ r body, s.prepare (RawRequest.ofPairs [(key, raw)]) = .ok (r, body)) :
    s.SelectsFor m d (RawRequest.ofPairs [(key, raw)]) ↔
      s.MeetsBounds m d ∧ (Request.isMeta key = true ∨ s.MeetsValue m d f v) := by
  obtain ⟨r, body, h⟩ := hprepare
  have hbody : s.SelectsFor m d (RawRequest.ofPairs [(key, raw)]) ↔ Body.Selects m d body := by
    constructor
    · rintro ⟨r', body', h', hselects⟩
      cases h.symm.trans h'
      exact hselects
    · exact fun hselects => ⟨r, body, h, hselects⟩
  have hraw : Condition.ofRaw? f raw s.now = some ⟨f, .any, false, [v]⟩ := by
    rw [Condition.ofRaw?_plain hplain, hv]
    rfl
  rw [hbody]
  cases hmeta : Request.isMeta key with
  | true => simp [selects_value_of_meta m d hfield hraw h hmeta]
  | false =>
    have hsingle : Request.conditionsOf s.catalog s.now (RawRequest.ofPairs [(key, raw)]) =
        [⟨f, .any, false, [v]⟩] := by
      rw [Request.conditionsOf_value hfield hraw, hmeta]
      rfl
    rw [selects_of_plain m d h hsingle hdate (List.cons_ne_nil v []), oneOf_singleton_iff]
    simp

variable {raws : List String} (hne : raws ≠ []) (hplain : ∀ raw ∈ raws, Comparison.IsPlain raw)
  {r : Request} {body : Json}
  (h : s.prepare (RawRequest.ofPairs (raws.map fun raw => (key, raw))) = .ok (r, body))

include hne hplain h

/-- A request for several plain values selects the reports that meet its bounds, one of the version
keys among the values and one of the others, if there are any, unless its parameter steers the
request. -/
theorem selects_values_iff {value : String → String} (hvalue : ∀ raw ∈ raws,
      Request.coerce f.kind .any raw.toList s.now = some (value raw)) :
    Body.Selects m d body ↔ s.MeetsBounds m d ∧
      OneOf raws (fun raw => IsKeyOf f (value raw))
        (fun raw => Request.isMeta key = true ∨ s.MeetsValue m d f (value raw)) ∧
      OneOf raws (fun raw => ¬ IsKeyOf f (value raw))
        (fun raw => Request.isMeta key = true ∨ s.MeetsValue m d f (value raw)) := by
  rw [RawRequest.ofPairs_parameter hne] at h
  cases hmeta : Request.isMeta key with
  | true =>
    rw [selects_of_conditionsOf_eq_nil m d h (Request.conditionsOf_meta hmeta)]
    simp [OneOf]
  | false =>
    obtain ⟨values, hsingle, hmem⟩ : ∃ values,
        Request.conditionsOf s.catalog s.now [(key, raws)] = [⟨f, .any, false, values⟩] ∧
        ∀ v, v ∈ values ↔
          ∃ raw ∈ raws, Request.coerce f.kind .any raw.toList s.now = some v :=
      Request.exists_conditionsOf_plain hmeta hfield hne hplain fun raw hraw =>
        ⟨value raw, hvalue raw hraw⟩
    have himage : ∀ v, v ∈ values ↔ ∃ raw ∈ raws, value raw = v := by
      intro v
      rw [hmem]
      refine exists_congr fun raw => and_congr_right fun hraw => ?_
      rw [hvalue raw hraw, Option.some.injEq]
    have hvalues : values ≠ [] := by
      obtain ⟨raw, hraw⟩ := List.exists_mem_of_ne_nil raws hne
      exact List.ne_nil_of_mem ((himage (value raw)).2 ⟨raw, hraw, rfl⟩)
    rw [selects_of_plain m d h hsingle hdate hvalues, oneOf_image himage, oneOf_image himage]
    simp

/-- A request for several plain values of a field other than the date selects what is selected for
one of the version keys among them and for one of the other values, if there are any. So the values
are alternatives for a report, unless there are both and the report is selected for one of the keys
and for none of the others, or the other way round. -/
theorem selects_plain_iff (hkept : ∀ raw ∈ raws, (Condition.ofRaw? f raw s.now).isSome = true)
    (hsingle : ∀ raw ∈ raws, ∃ r body,
      s.prepare (RawRequest.ofPairs [(key, raw)]) = .ok (r, body)) :
    (Body.Selects m d body ↔
      OneOf raws (s.ReadsKey f) (fun raw => s.SelectsFor m d (RawRequest.ofPairs [(key, raw)])) ∧
      OneOf raws (fun raw => ¬ s.ReadsKey f raw)
        fun raw => s.SelectsFor m d (RawRequest.ofPairs [(key, raw)])) ∧
    ((Body.Selects m d body ↔
        ∃ raw ∈ raws, s.SelectsFor m d (RawRequest.ofPairs [(key, raw)])) ↔
      ((∃ raw ∈ raws, s.ReadsKey f raw) → (∃ raw ∈ raws, ¬ s.ReadsKey f raw) →
        ((∃ raw ∈ raws, s.ReadsKey f raw ∧
            s.SelectsFor m d (RawRequest.ofPairs [(key, raw)])) ↔
          ∃ raw ∈ raws, ¬ s.ReadsKey f raw ∧
            s.SelectsFor m d (RawRequest.ofPairs [(key, raw)])))) := by
  obtain ⟨value, hvalue⟩ : ∃ value : String → String, ∀ raw ∈ raws,
      Request.coerce f.kind .any raw.toList s.now = some (value raw) := by
    refine ⟨fun raw => (Request.coerce f.kind .any raw.toList s.now).getD "", fun raw hraw => ?_⟩
    have hsome := hkept raw hraw
    rw [Condition.ofRaw?_plain (hplain raw hraw), Option.isSome_map] at hsome
    obtain ⟨v, hv⟩ := Option.isSome_iff_exists.1 hsome
    simp only [hv, Option.getD_some]
  have hkey : ∀ raw ∈ raws, IsKeyOf f (value raw) ↔ s.ReadsKey f raw := by
    intro raw hraw
    refine (readsKey_iff ?_).symm
    rw [Condition.ofRaw?_plain (hplain raw hraw), hvalue raw hraw]
    rfl
  have hselects : ∀ raw ∈ raws,
      (s.MeetsBounds m d ∧ (Request.isMeta key = true ∨ s.MeetsValue m d f (value raw))) ↔
        s.SelectsFor m d (RawRequest.ofPairs [(key, raw)]) := fun raw hraw =>
    (selectsFor_value_iff m d hfield hdate (hplain raw hraw) (hvalue raw hraw)
      (hsingle raw hraw)).symm
  have hjoint : Body.Selects m d body ↔
      OneOf raws (s.ReadsKey f) (fun raw => s.SelectsFor m d (RawRequest.ofPairs [(key, raw)])) ∧
      OneOf raws (fun raw => ¬ s.ReadsKey f raw)
        fun raw => s.SelectsFor m d (RawRequest.ofPairs [(key, raw)]) := by
    rw [selects_values_iff m d hfield hdate hne hplain h hvalue, and_oneOf_iff hne,
      oneOf_congr hkey hselects,
      oneOf_congr (fun raw hraw => not_congr (hkey raw hraw)) hselects]
  refine ⟨hjoint, ?_⟩
  rw [hjoint]
  exact oneOf_iff_exists_iff hne

end Values

/-- Two versions without their products are alternatives. -/
theorem selects_plain_versions : ∃ f r body,
    betaService.catalog.lookup (Request.resolveAlias "version") = some f ∧
    f.publicName ≠ Window.dateField ∧ (∀ raw ∈ ["4.0", "5.0"], Comparison.IsPlain raw) ∧
    (∀ raw ∈ ["4.0", "5.0"], (Condition.ofRaw? f raw betaService.now).isSome = true) ∧
    (∀ raw ∈ ["4.0", "5.0"], ∃ r body,
      betaService.prepare (RawRequest.ofPairs [("version", raw)]) = .ok (r, body)) ∧
    betaService.prepare (RawRequest.ofPairs [("version", "4.0"), ("version", "5.0")]) =
      .ok (r, body) ∧
    ∀ (α : Type) (m : Meaning α) (d : α), Body.Selects m d body ↔
      ∃ raw ∈ ["4.0", "5.0"],
        betaService.SelectsFor m d (RawRequest.ofPairs [("version", raw)]) := by
  obtain ⟨f, r, body, hfield, hname, hfirst, hsecond, h⟩ : ∃ f r body,
      betaService.catalog.lookup (Request.resolveAlias "version") = some f ∧
      f.publicName ≠ Window.dateField ∧
      Condition.ofRaw? f "4.0" betaService.now = some ⟨f, .any, false, ["4.0"]⟩ ∧
      Condition.ofRaw? f "5.0" betaService.now = some ⟨f, .any, false, ["5.0"]⟩ ∧
      betaService.prepare (RawRequest.ofPairs [("version", "4.0"), ("version", "5.0")]) =
        .ok (r, body) := ⟨_, _, _, rfl, by decide, rfl, rfl, rfl⟩
  have hplain : ∀ raw ∈ ["4.0", "5.0"], Comparison.IsPlain raw := by decide
  have hkept : ∀ raw ∈ ["4.0", "5.0"],
      (Condition.ofRaw? f raw betaService.now).isSome = true := by
    simp [hfirst, hsecond]
  have hsingle : ∀ raw ∈ ["4.0", "5.0"], ∃ r body,
      betaService.prepare (RawRequest.ofPairs [("version", raw)]) = .ok (r, body) := by
    intro raw hraw
    simp only [List.mem_cons, List.not_mem_nil, or_false] at hraw
    rcases hraw with rfl | rfl <;> exact ⟨_, _, rfl⟩
  have hkeys : ¬ ∃ raw ∈ ["4.0", "5.0"], betaService.ReadsKey f raw := by
    rintro ⟨raw, hraw, hkey⟩
    simp only [List.mem_cons, List.not_mem_nil, or_false] at hraw
    rcases hraw with rfl | rfl
    · exact absurd ((readsKey_iff hfirst).1 hkey).2 (by decide)
    · exact absurd ((readsKey_iff hsecond).1 hkey).2 (by decide)
  refine ⟨f, r, body, hfield, hname, hplain, hkept, hsingle, h, fun α m d => ?_⟩
  obtain ⟨-, hiff⟩ := selects_plain_iff m d hfield hname (List.cons_ne_nil "4.0" ["5.0"]) hplain h
    hkept hsingle
  exact hiff.2 fun hkey => absurd hkey hkeys

/-- A report of a beta is selected for the key of the beta, and is not selected for the key and
another version together. -/
theorem not_selects_key_and_version : ∃ f r body,
    betaService.catalog.lookup (Request.resolveAlias "version") = some f ∧
    f.publicName ≠ Window.dateField ∧
    (∀ raw ∈ ["alpha:3.0b2", "4.0"], Comparison.IsPlain raw) ∧
    (∀ raw ∈ ["alpha:3.0b2", "4.0"], (Condition.ofRaw? f raw betaService.now).isSome = true) ∧
    (∀ raw ∈ ["alpha:3.0b2", "4.0"], ∃ r body,
      betaService.prepare (RawRequest.ofPairs [("version", raw)]) = .ok (r, body)) ∧
    betaService.prepare (RawRequest.ofPairs [("version", "alpha:3.0b2"), ("version", "4.0")]) =
      .ok (r, body) ∧
    betaService.SelectsFor valueMeaning betaReport
      (RawRequest.ofPairs [("version", "alpha:3.0b2")]) ∧
    ¬ Body.Selects valueMeaning betaReport body := by
  obtain ⟨f, r, body, hfield, hname, hkind, hfirst, hsecond, hboth, h⟩ : ∃ f r body,
      betaService.catalog.lookup (Request.resolveAlias "version") = some f ∧
      f.publicName ≠ Window.dateField ∧ f.kind = .term ∧
      Condition.ofRaw? f "alpha:3.0b2" betaService.now =
        some ⟨f, .any, false, ["alpha:3.0b2"]⟩ ∧
      Condition.ofRaw? f "4.0" betaService.now = some ⟨f, .any, false, ["4.0"]⟩ ∧
      Request.conditionsOf betaService.catalog betaService.now
          (RawRequest.ofPairs [("version", "alpha:3.0b2"), ("version", "4.0")]) =
        [⟨f, .any, false, ["alpha:3.0b2", "4.0"]⟩] ∧
      betaService.prepare (RawRequest.ofPairs [("version", "alpha:3.0b2"), ("version", "4.0")]) =
        .ok (r, body) := ⟨_, _, _, rfl, by decide, rfl, rfl, rfl, rfl, rfl⟩
  obtain ⟨r', body', h'⟩ : ∃ r' body',
      betaService.prepare (RawRequest.ofPairs [("version", "alpha:3.0b2")]) = .ok (r', body') :=
    ⟨_, _, rfl⟩
  have hversion : f.publicName = VersionRule.versionField := Catalog.publicName_of_lookup hfield
  have hkey : VersionRule.AsksKey ⟨f, .any, false, ["alpha:3.0b2"]⟩ :=
    asksKey_plain_iff.2 ⟨_, List.mem_singleton_self _, hversion, by decide⟩
  have hbounds := betaService.meetsBounds_valueMeaning betaReport
  refine ⟨f, r, body, hfield, hname, by decide, by simp [hfirst, hsecond], ?_, h,
    ⟨r', body', h', ?_⟩, ?_⟩
  · intro raw hraw
    simp only [List.mem_cons, List.not_mem_nil, or_false] at hraw
    rcases hraw with rfl | rfl <;> exact ⟨_, _, rfl⟩
  · exact (selects_value_of_asksKey _ _ hfield hfirst h' hname rfl hkey rfl).2
      ⟨hbounds, meetsKey_betaReport⟩
  · rw [selects_of_plain _ _ h hboth hname (by simp)]
    rintro ⟨-, -, hothers⟩
    -- The other version is no version of the report.
    have hbare : ¬ IsKeyOf f "4.0" := fun hkey => absurd hkey.2 (by decide)
    obtain ⟨v, hv, hnot, hmeets⟩ := hothers ⟨"4.0", by simp, hbare⟩
    rw [MeetsValue, if_neg hnot] at hmeets
    simp only [List.mem_cons, List.not_mem_nil, or_false] at hv
    rcases hv with rfl | rfl
    · exact hnot ⟨hversion, by decide⟩
    · simp [valueMeaning, betaReport, Condition.typedValue, hkind] at hmeets

end Service

end CrashQuery
