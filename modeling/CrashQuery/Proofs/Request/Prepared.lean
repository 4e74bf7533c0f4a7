import CrashQuery.Proofs.Query.Compilation
import CrashQuery.Proofs.Request.Defaults
import CrashQuery.Proofs.Version.Keys
import CrashQuery.Proofs.Window.Coverage
import CrashQuery.Service

/-!
# What a prepared request selects

`Service.parts_of_prepare` takes the preparation of a request apart: its normalization, the resolution
of its versions and its compilation. A request without conditions on the date, of which at most one
condition asks for patterns, selects the reports that meet the bounds which such requests are given,
the conditions that are left without their version keys, and one of these keys
(`Service.selects_iff`).
-/

namespace CrashQuery

open Outcome

/-- What a source knows about a key; one that fails knows nothing. -/
def VersionSource.find? : VersionSource → String → Option VersionInfo
  | .table t, key => t.find? key
  | .failing _, _ => none

section Meaning

variable {α : Type} (m : Meaning α) (d : α)

namespace Condition

/-- Whether a report meets a condition, or does not meet it if it is negated. -/
def Accepts (c : Condition) : Prop := if c.negated then ¬ c.Meets m d else c.Meets m d

/-- Whether a condition gives patterns of which one must match. -/
def IsPattern (c : Condition) : Prop := c.operator.isWildcard = true ∧ c.negated = false

end Condition

namespace Request

/-- Whether a report meets the conditions of a request on the date. -/
def MeetsDates (r : Request) : Prop :=
  ∀ c ∈ r.conditions, c.name = Window.dateField → c.Accepts m d

/-- If at most one condition gives patterns, a request asks for what all its conditions accept. -/
theorem asksFor_iff {catalog : Catalog} {r : Request} {rules : List VersionRule}
    (hone : ∀ c ∈ r.conditions, ∀ e ∈ r.conditions, c.IsPattern → e.IsPattern → c = e) :
    r.AsksFor m d catalog rules ↔ (∀ c ∈ r.conditions, c.Accepts m d) ∧
      (rules ≠ [] → ∃ fields : VersionRule.Fields, fields.AreIn catalog ∧
        ∃ rule ∈ rules, rule.Meets m d fields) := by
  constructor
  · intro h
    refine ⟨fun c hc => ?_, h.versions⟩
    cases hwild : c.operator.isWildcard with
    | false => exact h.plain c hc hwild
    | true =>
      unfold Condition.Accepts
      cases hneg : c.negated with
      | true => exact h.excluded c hc hwild hneg
      | false =>
        obtain ⟨e, he, hewild, heneg, hmeets⟩ := h.patterns ⟨c, hc, hwild, hneg⟩
        rw [hone c hc e he ⟨hwild, hneg⟩ ⟨hewild, heneg⟩]
        exact hmeets
  · rintro ⟨hall, hversions⟩
    refine ⟨fun c hc _ => hall c hc, fun c hc _ hneg => ?_, ?_, hversions⟩
    · simpa [Condition.Accepts, hneg] using hall c hc
    · rintro ⟨c, hc, hwild, hneg⟩
      exact ⟨c, hc, hwild, hneg, by simpa [Condition.Accepts, hneg] using hall c hc⟩

end Request

end Meaning

namespace VersionRule

section Conditions

variable {conditions before after : List Condition} {c : Condition} {k : String}

/-- The keys are the values of that form in the conditions that keys are taken out of. -/
theorem mem_keysOf : k ∈ keysOf conditions ↔
    ∃ c ∈ conditions, takesKeys c = true ∧ k ∈ c.values ∧ isKey k = true := by
  simp only [keysOf, Condition.mem_mergeValues, List.not_mem_nil, false_or, List.mem_flatMap,
    List.mem_filter, and_assoc]

/-- A condition without its keys is about the same field. -/
@[simp]
theorem name_withoutKeys (c : Condition) : (withoutKeys c).name = c.name := by
  unfold withoutKeys
  split <;> rfl

/-- A condition that keys are not taken out of is left as it is. -/
theorem withoutKeys_of_not_takesKeys (h : takesKeys c = false) : withoutKeys c = c := by
  simp [withoutKeys, h]

/-- Keys are taken out of conditions on the version only. -/
theorem takesKeys_of_name_ne (h : c.name ≠ versionField) : takesKeys c = false := by
  simp [takesKeys, h]

/-- Keys are taken out of conditions on the version that compare with plain or exact values and are
not negated. -/
theorem takesKeys_iff : takesKeys c = true ↔
    c.name = versionField ∧ c.negated = false ∧ (c.operator = .any ∨ c.operator = .equal) := by
  simp [takesKeys, and_assoc]

/-- Keys are not taken out of patterns. -/
theorem takesKeys_of_isPattern (h : (withoutKeys c).IsPattern) : takesKeys c = false := by
  cases htakes : takesKeys c with
  | false => rfl
  | true =>
    obtain ⟨hwild, -⟩ := h
    simp only [withoutKeys, htakes, if_true] at hwild
    obtain ⟨-, -, hop | hop⟩ := takesKeys_iff.1 htakes <;> rw [hop] at hwild <;> cases hwild

/-- Something is left of a condition that keys are taken out of exactly when it has other values. -/
theorem isLeft_withoutKeys_iff (h : takesKeys c = true) :
    isLeft (withoutKeys c) = true ↔ ∃ v ∈ c.values, isKey v = false := by
  obtain ⟨hname, -, hop⟩ := takesKeys_iff.1 h
  have hnull : c.operator ≠ .isNull := by
    rcases hop with hop | hop <;> rw [hop] <;> decide
  have hleft : isLeft (withoutKeys c) = !(c.values.filter fun v => !isKey v).isEmpty := by
    simp only [withoutKeys, h, if_true]
    simp [isLeft, Condition.name, show c.field.publicName = versionField from hname, hnull]
  rw [hleft, Bool.not_eq_true', List.isEmpty_eq_false_iff_exists_mem]
  simp

/-- Conditions on other fields add no keys. -/
theorem keysOf_append (h : ∀ c ∈ after, c.name ≠ versionField) :
    keysOf (before ++ after) = keysOf before := by
  have hnone : after.filter takesKeys = [] := by
    rw [List.filter_eq_nil_iff]
    intro c hc
    simp [takesKeys_of_name_ne (h c hc)]
  unfold keysOf
  rw [List.filter_append, hnone, List.append_nil]

/-- Conditions on other fields are left as they are. -/
theorem remaining_append (h : ∀ c ∈ after, c.name ≠ versionField) :
    remaining (before ++ after) = remaining before ++ after := by
  have hmap : after.map withoutKeys = after := by
    refine (List.map_congr_left fun c hc => ?_).trans (List.map_id after)
    exact withoutKeys_of_not_takesKeys (takesKeys_of_name_ne (h c hc))
  have hfilter : after.filter isLeft = after := by
    rw [List.filter_eq_self]
    intro c hc
    simp [isLeft, h c hc]
  unfold remaining
  rw [List.map_append, List.filter_append, hmap, hfilter]

/-- Whether a condition asks for version keys. -/
def AsksKey (c : Condition) : Prop := takesKeys c = true ∧ ∃ k ∈ c.values, isKey k = true

/-- Negated conditions ask for no keys. -/
theorem not_asksKey_of_negated (h : c.negated = true) : ¬ AsksKey c := by
  rintro ⟨htakes, -⟩
  rw [(takesKeys_iff.1 htakes).2.1] at h
  cases h

/-- A single condition has keys exactly when it asks for some. -/
theorem keysOf_singleton_ne_nil_iff : keysOf [c] ≠ [] ↔ AsksKey c := by
  rw [ne_eq, List.eq_nil_iff_forall_not_mem]
  simp [mem_keysOf, AsksKey]

/-- A condition that asks for no keys is left as it is. -/
theorem withoutKeys_of_not_asksKey (h : ¬ AsksKey c) : withoutKeys c = c := by
  cases htakes : takesKeys c with
  | false => exact withoutKeys_of_not_takesKeys htakes
  | true =>
    have hnone : ∀ v ∈ c.values, isKey v = false := fun v hv =>
      Bool.eq_false_iff.2 fun hkey => h ⟨htakes, v, hv, hkey⟩
    have hvalues : (c.values.filter fun v => !isKey v) = c.values := by
      rw [List.filter_eq_self]
      intro v hv
      rw [hnone v hv]
      rfl
    simp [withoutKeys, htakes, hvalues]

/-- What is left of conditions are conditions without their keys. -/
theorem mem_remaining {e : Condition} :
    e ∈ remaining conditions ↔ ∃ c ∈ conditions, withoutKeys c = e ∧ isLeft e = true := by
  simp only [remaining, List.mem_filter, List.mem_map]
  constructor
  · rintro ⟨⟨c, hc, he⟩, hleft⟩
    exact ⟨c, hc, he, hleft⟩
  · rintro ⟨c, hc, he, hleft⟩
    exact ⟨⟨c, hc, he⟩, hleft⟩

end Conditions

end VersionRule

namespace Service

variable {s : Service} {raw : RawRequest} {r : Request} {body : Json}

/-- The rule for a version key by what the service knows. -/
def ruleFor? (s : Service) (key : String) : Option VersionRule :=
  VersionRule.ofKey? s.settings.restrictedChannels s.versions.find? key

/-- The rules for the version keys in the conditions. -/
def rulesOf (s : Service) (conditions : List Condition) : List VersionRule :=
  (VersionRule.keysOf conditions).filterMap s.ruleFor?

/-- A request whose versions are resolved is left without its version keys, for which there are
rules. -/
theorem resolveVersions_eq_ok {request : Request} {rules : List VersionRule}
    (h : s.resolveVersions request = .ok (r, rules)) :
    r = { request with conditions := VersionRule.remaining request.conditions } ∧
      rules = s.rulesOf request.conditions := by
  unfold resolveVersions at h
  simp only at h
  split at h
  · next hnone =>
    cases h
    rw [rulesOf, List.isEmpty_iff.1 hnone]
    exact ⟨rfl, rfl⟩
  · obtain ⟨known, hknown, h⟩ := bind_eq_ok.1 h
    cases h
    refine ⟨rfl, ?_⟩
    unfold rulesOf ruleFor?
    cases hversions : s.versions with
    | failing detail =>
      rw [hversions] at hknown
      cases hknown
    | table t =>
      rw [hversions] at hknown
      cases hknown
      exact VersionRule.ofKeys_eq t _

/-- A prepared request is the normalized one without its version keys, and its body is that of the
query that is compiled from it and the rules for the keys. -/
theorem parts_of_prepare (h : s.prepare raw = .ok (r, body)) :
    ∃ request q, Request.ofRaw s.catalog s.options raw = .ok request ∧
      r = { request with conditions := VersionRule.remaining request.conditions } ∧
      Query.compile s.catalog s.settings.maxFacetTerms r (s.rulesOf request.conditions) = .ok q ∧
      body = q.toJson := by
  unfold prepare at h
  obtain ⟨request, hrequest, h⟩ := bind_eq_ok.1 h
  obtain ⟨⟨resolved, rules⟩, hresolve, h⟩ := bind_eq_ok.1 h
  obtain ⟨q, hrefuse, h⟩ := bind_eq_ok.1 h
  cases h
  obtain ⟨hresolved, rfl⟩ := resolveVersions_eq_ok hresolve
  refine ⟨request, q, hrequest, hresolved, ?_, rfl⟩
  unfold refuse at hrefuse
  split at hrefuse
  · next hok => rw [hok, Except.ok.inj hrefuse]
  · cases hrefuse

section Meaning

variable {α : Type} (m : Meaning α) (d : α)

/-- Whether a report meets the bounds that requests without conditions on the date are given. -/
def MeetsBounds (s : Service) : Prop :=
  ∀ w bounds, Window.complete s.catalog s.options [] = .ok (w, bounds) →
    ∀ c ∈ bounds, c.Accepts m d

/-- The bounds are those that an empty request is completed by. -/
theorem meetsBounds_iff {w : Window} {bounds : List Condition}
    (h : Window.complete s.catalog s.options [] = .ok (w, bounds)) :
    s.MeetsBounds m d ↔ ∀ c ∈ bounds, c.Accepts m d := by
  refine ⟨fun hall => hall w bounds h, fun hall w' bounds' h' => ?_⟩
  obtain rfl : bounds = bounds' := congrArg Prod.snd (Except.ok.inj (h.symm.trans h'))
  exact hall

/-- Whether a report is of the version that a key is resolved into. -/
def MeetsKey (s : Service) (key : String) : Prop :=
  ∃ fields : VersionRule.Fields, fields.AreIn s.catalog ∧
    ∃ rule, s.ruleFor? key = some rule ∧ rule.Meets m d fields

/-- The rules for the keys in conditions ask for one of the keys, if there are any. -/
theorem meets_rulesOf_iff {conditions : List Condition} :
    (s.rulesOf conditions ≠ [] → ∃ fields : VersionRule.Fields, fields.AreIn s.catalog ∧
      ∃ rule ∈ s.rulesOf conditions, rule.Meets m d fields) ↔
    (VersionRule.keysOf conditions ≠ [] →
      ∃ k ∈ VersionRule.keysOf conditions, s.MeetsKey m d k) := by
  -- Every key is split and so has a rule.
  have hnil : s.rulesOf conditions = [] ↔ VersionRule.keysOf conditions = [] := by
    unfold rulesOf
    rw [List.filterMap_eq_nil_iff, List.eq_nil_iff_forall_not_mem]
    refine forall₂_congr fun k hk => iff_of_false ?_ (fun h => h)
    obtain ⟨-, -, -, -, hkey⟩ := VersionRule.mem_keysOf.1 hk
    obtain ⟨p, hp⟩ := Option.isSome_iff_exists.1 hkey
    simp [ruleFor?, VersionRule.ofKey?, hp]
  refine imp_congr (not_congr hnil) ?_
  constructor
  · rintro ⟨fields, hin, rule, hrule, hmeets⟩
    obtain ⟨k, hk, hfor⟩ := List.mem_filterMap.1 hrule
    exact ⟨k, hk, fields, hin, rule, hfor, hmeets⟩
  · rintro ⟨k, hk, fields, hin, rule, hfor, hmeets⟩
    exact ⟨fields, hin, rule, List.mem_filterMap.2 ⟨k, hk, hfor⟩, hmeets⟩

section Undated

variable (h : s.prepare raw = .ok (r, body))
  (hdate : ∀ c ∈ Request.conditionsOf s.catalog s.now raw, c.name ≠ Window.dateField)

include h hdate

/-- Bounds on the date are added to what is left of the conditions of a request that has none. -/
theorem exists_bounds_of_prepare : ∃ w bounds q,
    Window.complete s.catalog s.options [] = .ok (w, bounds) ∧
    r.conditions =
      VersionRule.remaining (Request.conditionsOf s.catalog s.now raw) ++ bounds ∧
    Query.compile s.catalog s.settings.maxFacetTerms r
      (s.rulesOf (Request.conditionsOf s.catalog s.now raw)) = .ok q ∧ body = q.toJson := by
  obtain ⟨request, q, hrequest, hr, hcompile, hbody⟩ := parts_of_prepare h
  have hcomplete : Window.complete s.catalog s.options
      (Request.conditionsOf s.catalog s.now raw) = .ok (request.window, request.conditions) :=
    Request.complete_of_ofRaw hrequest
  rw [Window.complete_append hdate] at hcomplete
  obtain ⟨⟨w, bounds⟩, hbounds, hconditions⟩ := map_eq_ok.1 hcomplete
  have happend : request.conditions =
      Request.conditionsOf s.catalog s.now raw ++ bounds := (congrArg Prod.snd hconditions).symm
  have hother : ∀ c ∈ bounds, c.name ≠ VersionRule.versionField := by
    intro c hc
    rw [(Window.isDateBound_of_complete hbounds c hc).name_eq]
    decide
  refine ⟨w, bounds, q, hbounds, ?_, ?_, hbody⟩
  · rw [hr, happend, VersionRule.remaining_append hother]
  · rw [rulesOf, happend, VersionRule.keysOf_append hother] at hcompile
    exact hcompile

/-- The conditions of such a request on the date are the bounds that it is given. -/
theorem meetsDates_iff : r.MeetsDates m d ↔ s.MeetsBounds m d := by
  obtain ⟨w, bounds, q, hbounds, hconditions, -, -⟩ := exists_bounds_of_prepare h hdate
  unfold Request.MeetsDates
  rw [meetsBounds_iff m d hbounds, hconditions]
  constructor
  · intro hmeets c hc
    exact hmeets c (List.mem_append_right _ hc)
      (Window.isDateBound_of_complete hbounds c hc).name_eq
  · intro hmeets c hc hname
    rcases List.mem_append.1 hc with hc | hc
    · obtain ⟨e, he, rfl, -⟩ := VersionRule.mem_remaining.1 hc
      rw [VersionRule.name_withoutKeys] at hname
      exact absurd hname (hdate e he)
    · exact hmeets c hc

/-- If at most one condition gives patterns, the body of such a request selects the reports that
meet its bounds, what is left of its conditions, and one of its version keys, if there are any. -/
theorem selects_iff (hone : ∀ c ∈ Request.conditionsOf s.catalog s.now raw,
      ∀ e ∈ Request.conditionsOf s.catalog s.now raw, c.IsPattern → e.IsPattern → c = e) :
    Body.Selects m d body ↔ s.MeetsBounds m d ∧
      (∀ c ∈ VersionRule.remaining (Request.conditionsOf s.catalog s.now raw), c.Accepts m d) ∧
      (VersionRule.keysOf (Request.conditionsOf s.catalog s.now raw) ≠ [] →
        ∃ k ∈ VersionRule.keysOf (Request.conditionsOf s.catalog s.now raw),
          s.MeetsKey m d k) := by
  obtain ⟨w, bounds, q, hbounds, hconditions, hcompile, rfl⟩ := exists_bounds_of_prepare h hdate
  -- The bounds are no patterns, and a pattern is left as it is.
  have hpattern : ∀ c ∈ r.conditions, c.IsPattern →
      c ∈ Request.conditionsOf s.catalog s.now raw := by
    intro c hc hpat
    rw [hconditions] at hc
    rcases List.mem_append.1 hc with hc | hc
    · obtain ⟨e, he, rfl, -⟩ := VersionRule.mem_remaining.1 hc
      rwa [VersionRule.withoutKeys_of_not_takesKeys (VersionRule.takesKeys_of_isPattern hpat)]
    · have hwild := hpat.1
      rcases (Window.isDateBound_of_complete hbounds c hc).operator_eq with hop | hop <;>
        rw [hop] at hwild <;> cases hwild
  rw [Query.selects_compile_iff m d hcompile, Request.asksFor_iff m d fun c hc e he hpc hpe =>
    hone c (hpattern c hc hpc) e (hpattern e he hpe) hpc hpe, meets_rulesOf_iff, hconditions,
    ← and_assoc]
  refine and_congr_left' ?_
  rw [meetsBounds_iff m d hbounds, List.forall_mem_append]
  exact and_comm

end Undated

/-- The body of a request without conditions selects the reports that meet its bounds. -/
theorem selects_of_conditionsOf_eq_nil (h : s.prepare raw = .ok (r, body))
    (hnil : Request.conditionsOf s.catalog s.now raw = []) :
    Body.Selects m d body ↔ s.MeetsBounds m d := by
  have hselects := selects_iff m d h (by simp [hnil]) (by simp [hnil])
  rw [hselects, hnil]
  simp [VersionRule.remaining, VersionRule.keysOf, Condition.mergeValues]

/-- The body of a request with one condition, which is not on the date, selects the reports that meet
its bounds, what is left of the condition, and one of its version keys, if there are any. -/
theorem selects_of_conditionsOf_eq_singleton {c : Condition} (h : s.prepare raw = .ok (r, body))
    (hsingle : Request.conditionsOf s.catalog s.now raw = [c])
    (hdate : c.name ≠ Window.dateField) :
    Body.Selects m d body ↔ s.MeetsBounds m d ∧
      (VersionRule.isLeft (VersionRule.withoutKeys c) = true →
        (VersionRule.withoutKeys c).Accepts m d) ∧
      (VersionRule.AsksKey c →
        ∃ k ∈ c.values, VersionRule.isKey k = true ∧ s.MeetsKey m d k) := by
  have hselects := selects_iff m d h (by simpa [hsingle] using hdate) (by simp [hsingle])
  rw [hselects, hsingle, VersionRule.keysOf_singleton_ne_nil_iff]
  refine and_congr_right' (and_congr ?_ (imp_congr_right fun hasks => ?_))
  · simp [VersionRule.mem_remaining]
  · simp only [VersionRule.mem_keysOf, List.mem_singleton, exists_eq_left, hasks.1, true_and,
      and_assoc]

end Meaning

end Service

/-- Reports as values at paths; no pattern matches, and every value is within every bound. -/
def valueMeaning : Meaning (List (String × Json)) where
  term path value d := (path, value) ∈ d
  range _ _ _ _ := True
  missing path d := ∀ e ∈ d, e.1 ≠ path
  wildcard _ _ _ := False

namespace Service

/-- Where every value is within every bound, all reports meet the bounds on the date. -/
theorem meetsBounds_valueMeaning (s : Service) (d : List (String × Json)) :
    s.MeetsBounds valueMeaning d := by
  intro w bounds h c hc
  obtain ⟨-, hneg, hop⟩ := Window.isDateBound_of_complete h c hc
  rcases hop with hop | hop <;>
    simp [Condition.Accepts, hneg, Condition.Meets, hop, valueMeaning]

/-- A service that knows a beta. -/
def betaService : Service := { sampleService with versions := .table VersionRule.sampleTable }

/-- A report of the beta. -/
def betaReport : List (String × Json) :=
  [("processed_crash.product", .str "alpha"), ("processed_crash.version", .str "3.0"),
    ("processed_crash.release_channel", .str "beta"), ("processed_crash.build", .int 1001)]

/-- The report is of the version that the key of the beta is resolved into. -/
theorem meetsKey_betaReport : betaService.MeetsKey valueMeaning betaReport "alpha:3.0b2" := by
  obtain ⟨fields, hin, hproduct, hversion, hchannel, hbuild, hkind⟩ :
      ∃ fields : VersionRule.Fields, fields.AreIn betaService.catalog ∧
        fields.product.storagePath = "processed_crash.product" ∧
        fields.version.storagePath = "processed_crash.version" ∧
        fields.channel.storagePath = "processed_crash.release_channel" ∧
        fields.build.storagePath = "processed_crash.build" ∧ fields.build.kind = .integer :=
    ⟨⟨_, _, _, _⟩, ⟨rfl, rfl, rfl, rfl⟩, by decide, by decide, by decide, by decide, rfl⟩
  have hrule : betaService.ruleFor? "alpha:3.0b2" =
      some ⟨"alpha", "3.0", some (.only "beta"), some ["1001", "1002"]⟩ := by
    decide +kernel
  have hid : Condition.typedValue .integer "1001" = .int 1001 := by rfl
  refine ⟨fields, hin, _, hrule, ?_, ?_, ?_, ?_, ?_⟩ <;>
    simp [valueMeaning, betaReport, hproduct, hversion, hchannel, hbuild, hkind, hid]

end Service

end CrashQuery
