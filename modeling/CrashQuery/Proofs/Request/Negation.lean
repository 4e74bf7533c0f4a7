import CrashQuery.Proofs.Request.Parameter

/-!
# Negated values

A request for the negation of a value selects, among the reports that meet its bounds on the date,
those that the request for the value does not select, if the parameter names a field and the value is
no version key. Parameters that steer a request give no conditions, and version keys are resolved only
where they are not negated: `Service.selects_mark_iff` says that in these two cases the two requests
are no complements of each other.
-/

namespace CrashQuery

/-- A value that is a string as JSON is that string. -/
theorem Condition.eq_of_typedValue {kind : Kind} {v text : String}
    (h : typedValue kind v = .str text) : v = text := by
  unfold typedValue at h
  split at h
  · split at h
    · cases h
    · cases h
      rfl
  · split at h
    · cases h
    · split at h
      · cases h
      · cases h
        rfl
  · cases h
    rfl

namespace Service

/-- No report that has only one value is of a version whose key is that value. -/
theorem not_meetsKey_value (s : Service) (path : String) (kind : Kind) (key : String) :
    ¬ s.MeetsKey valueMeaning [(path, Condition.typedValue kind key)] key := by
  rintro ⟨fields, -, rule, hrule, hmeets⟩
  obtain ⟨⟨product, version⟩, hsplit, rfl⟩ := Option.map_eq_some_iff.1 hrule
  have hproduct := hmeets.product
  simp only [VersionRule.product_resolve, valueMeaning, List.mem_singleton,
    Prod.mk.injEq] at hproduct
  exact VersionRule.lowered_product_ne_key hsplit (Condition.eq_of_typedValue hproduct.2.symm).symm

section Mark

variable {s : Service} {key raw : String} {f : Field} {c : Condition} {r r' : Request}
  {body body' : Json}
  (hfield : s.catalog.lookup (Request.resolveAlias key) = some f)
  (hdate : f.publicName ≠ Window.dateField)
  (hmark : raw.toList.head? ≠ some Comparison.mark)
  (hraw : Condition.ofRaw? f raw s.now = some c)
  (h : s.prepare (RawRequest.ofPairs [(key, raw)]) = .ok (r, body))
  (h' : s.prepare (RawRequest.ofPairs [(key, "!" ++ raw)]) = .ok (r', body'))

include hmark hraw

/-- The mark before a value negates the condition that the value stands for. -/
theorem ofRaw?_mark : c.negated = false ∧
    Condition.ofRaw? f ("!" ++ raw) s.now = some { c with negated := true } := by
  obtain ⟨hneg, -⟩ := Condition.eq_of_ofRaw? hraw
  rw [Comparison.negated_ofText hmark] at hneg
  rw [Condition.ofRaw?_mark hmark, hraw]
  exact ⟨hneg, rfl⟩

include hfield hdate h h'

/-- The negation of a value that is no version key selects what the value does not select. -/
theorem selects_mark_of_not_asksKey (hmeta : Request.isMeta key = false)
    (hasks : ¬ VersionRule.AsksKey c) {α : Type} (m : Meaning α) (d : α)
    (hmeets : s.MeetsBounds m d) : Body.Selects m d body' ↔ ¬ Body.Selects m d body := by
  obtain ⟨hneg, hraw'⟩ := ofRaw?_mark hmark hraw
  have hasks' : ¬ VersionRule.AsksKey { c with negated := true } :=
    VersionRule.not_asksKey_of_negated rfl
  rw [selects_value_of_not_asksKey m d hfield hraw h hdate hmeta hasks,
    selects_value_of_not_asksKey m d hfield hraw' h' hdate hmeta hasks']
  simp [hmeets, Condition.Accepts, hneg, Condition.Meets]

/-- A report that has a version key as its version is selected neither by the key nor by its
negation. -/
theorem not_selects_value_of_asksKey (hmeta : Request.isMeta key = false)
    (hasks : VersionRule.AsksKey c) : ∃ d : List (String × Json),
      ¬ Body.Selects valueMeaning d body ∧ ¬ Body.Selects valueMeaning d body' := by
  obtain ⟨hneg, hraw'⟩ := ofRaw?_mark hmark hraw
  obtain ⟨k, hvalues⟩ := VersionRule.exists_value_of_ofRaw? hraw hasks
  have hasks' : ¬ VersionRule.AsksKey { c with negated := true } :=
    VersionRule.not_asksKey_of_negated rfl
  obtain ⟨path, hpath⟩ : ∃ path, c.Meets valueMeaning
      [(path, Condition.typedValue c.field.kind k)] := by
    obtain ⟨-, -, hop | hop⟩ := VersionRule.takesKeys_iff.1 hasks.1
    · exact ⟨c.field.storagePath, by simp [Condition.Meets, hop, hvalues, valueMeaning]⟩
    · exact ⟨c.field.exactPath, by simp [Condition.Meets, hop, hvalues, valueMeaning]⟩
  refine ⟨[(path, Condition.typedValue c.field.kind k)], ?_, ?_⟩
  · rw [selects_value_of_asksKey _ _ hfield hraw h hdate hmeta hasks hvalues]
    exact fun hselects => not_meetsKey_value s path c.field.kind k hselects.2
  · rw [selects_value_of_not_asksKey _ _ hfield hraw' h' hdate hmeta hasks']
    exact fun hselects => hselects.2 hpath

/-- The requests for a value and for its negation are given the same bounds on the date. Among the
reports that meet them the two requests select complements exactly when the parameter names a field
and does not steer the request, and the value is no version key. -/
theorem selects_mark_iff :
    (∀ (α : Type) (m : Meaning α) (d : α), r'.MeetsDates m d ↔ r.MeetsDates m d) ∧
    ((∀ (α : Type) (m : Meaning α) (d : α), r.MeetsDates m d →
        (Body.Selects m d body' ↔ ¬ Body.Selects m d body)) ↔
      Request.isMeta key = false ∧ ¬ VersionRule.AsksKey c) := by
  obtain ⟨-, hraw'⟩ := ofRaw?_mark hmark hraw
  have hdates := fun (α : Type) (m : Meaning α) (d : α) =>
    meetsDates_value_iff m d hfield hraw h hdate
  have hdates' := fun (α : Type) (m : Meaning α) (d : α) =>
    meetsDates_value_iff m d hfield hraw' h' hdate
  refine ⟨fun α m d => (hdates' α m d).trans (hdates α m d).symm, ?_⟩
  constructor
  · intro hall
    have hvalue := fun d => hall _ valueMeaning d
      ((hdates _ _ d).2 (s.meetsBounds_valueMeaning d))
    cases hmeta : Request.isMeta key with
    | true =>
      have hselects := selects_value_of_meta valueMeaning [] hfield hraw h hmeta
      have hselects' := selects_value_of_meta valueMeaning [] hfield hraw' h' hmeta
      have hboth := hvalue []
      rw [hselects, hselects'] at hboth
      exact absurd hboth (iff_not_self)
    | false =>
      refine ⟨rfl, fun hasks => ?_⟩
      obtain ⟨d, hnot, hnot'⟩ :=
        not_selects_value_of_asksKey hfield hdate hmark hraw h h' hmeta hasks
      exact hnot' ((hvalue d).2 hnot)
  · rintro ⟨hmeta, hasks⟩ α m d hmeets
    exact selects_mark_of_not_asksKey hfield hdate hmark hraw h h' hmeta hasks m d
      ((hdates α m d).1 hmeets)

end Mark

/-- The reports that are not selected for a product are those that are selected for its negation. -/
theorem selects_mark_product : ∃ f c r body r' body',
    sampleService.catalog.lookup (Request.resolveAlias "product") = some f ∧
    f.publicName ≠ Window.dateField ∧ "=Firefox".toList.head? ≠ some Comparison.mark ∧
    Condition.ofRaw? f "=Firefox" sampleService.now = some c ∧
    sampleService.prepare (RawRequest.ofPairs [("product", "=Firefox")]) = .ok (r, body) ∧
    sampleService.prepare (RawRequest.ofPairs [("product", "!=Firefox")]) = .ok (r', body') ∧
    ∀ (α : Type) (m : Meaning α) (d : α), r.MeetsDates m d →
      (Body.Selects m d body' ↔ ¬ Body.Selects m d body) := by
  obtain ⟨f, c, hfield, hname, hraw, hproduct⟩ : ∃ f c,
      sampleService.catalog.lookup (Request.resolveAlias "product") = some f ∧
      f.publicName ≠ Window.dateField ∧
      Condition.ofRaw? f "=Firefox" sampleService.now = some c ∧
      c.name ≠ VersionRule.versionField := ⟨_, _, rfl, by decide, rfl, by decide⟩
  obtain ⟨r, body, h⟩ : ∃ r body,
      sampleService.prepare (RawRequest.ofPairs [("product", "=Firefox")]) = .ok (r, body) :=
    ⟨_, _, rfl⟩
  obtain ⟨r', body', h'⟩ : ∃ r' body',
      sampleService.prepare (RawRequest.ofPairs [("product", "!=Firefox")]) = .ok (r', body') :=
    ⟨_, _, rfl⟩
  have hmark : "=Firefox".toList.head? ≠ some Comparison.mark := by decide
  have hasks : ¬ VersionRule.AsksKey c := fun hasks =>
    hproduct (VersionRule.takesKeys_iff.1 hasks.1).1
  obtain ⟨-, hiff⟩ := selects_mark_iff hfield hname hmark hraw h h'
  exact ⟨f, c, r, body, r', body', hfield, hname, hmark, hraw, h, h', hiff.2 ⟨rfl, hasks⟩⟩

/-- Whether a service selects a report that meets the bounds on the date both for a value that is
not negated and for its negation, when a parameter names a field other than the date. -/
def SelectsBoth (s : Service) (key raw : String) : Prop :=
  ∃ f c r body r' body', s.catalog.lookup (Request.resolveAlias key) = some f ∧
    f.publicName ≠ Window.dateField ∧ raw.toList.head? ≠ some Comparison.mark ∧
    Condition.ofRaw? f raw s.now = some c ∧
    s.prepare (RawRequest.ofPairs [(key, raw)]) = .ok (r, body) ∧
    s.prepare (RawRequest.ofPairs [(key, "!" ++ raw)]) = .ok (r', body') ∧
    ∃ d, r.MeetsDates valueMeaning d ∧ Body.Selects valueMeaning d body ∧
      Body.Selects valueMeaning d body'

/-- A report of a beta is selected for the key of the beta and for its negation. -/
theorem selectsBoth_key : betaService.SelectsBoth "version" "alpha:3.0b2" := by
  obtain ⟨f, c, hfield, hname, hkind, hraw, hc⟩ : ∃ f c,
      betaService.catalog.lookup (Request.resolveAlias "version") = some f ∧
      f.publicName ≠ Window.dateField ∧ f.kind = .term ∧
      Condition.ofRaw? f "alpha:3.0b2" betaService.now = some c ∧
      c = ⟨f, .any, false, ["alpha:3.0b2"]⟩ := ⟨_, _, rfl, by decide, rfl, rfl, rfl⟩
  obtain ⟨r, body, h⟩ : ∃ r body,
      betaService.prepare (RawRequest.ofPairs [("version", "alpha:3.0b2")]) = .ok (r, body) :=
    ⟨_, _, rfl⟩
  obtain ⟨r', body', h'⟩ : ∃ r' body',
      betaService.prepare (RawRequest.ofPairs [("version", "!alpha:3.0b2")]) = .ok (r', body') :=
    ⟨_, _, rfl⟩
  have hmark : "alpha:3.0b2".toList.head? ≠ some Comparison.mark := by decide
  obtain ⟨-, hraw'⟩ := ofRaw?_mark hmark hraw
  have hasks : VersionRule.AsksKey c := by
    refine ⟨?_, "alpha:3.0b2", by rw [hc]; simp, by decide⟩
    rw [VersionRule.takesKeys_iff, hc]
    exact ⟨Catalog.publicName_of_lookup hfield, rfl, Or.inl rfl⟩
  have hvalues : c.values = ["alpha:3.0b2"] := by rw [hc]
  have hbounds := betaService.meetsBounds_valueMeaning betaReport
  refine ⟨f, c, r, body, r', body', hfield, hname, hmark, hraw, h, h', betaReport, ?_, ?_, ?_⟩
  · exact (meetsDates_value_iff _ _ hfield hraw h hname).2 hbounds
  · exact (selects_value_of_asksKey _ _ hfield hraw h hname rfl hasks hvalues).2
      ⟨hbounds, meetsKey_betaReport⟩
  · refine (selects_value_of_not_asksKey _ _ hfield hraw' h' hname rfl
      (VersionRule.not_asksKey_of_negated rfl)).2 ⟨hbounds, ?_⟩
    -- No value of the report is the key itself.
    rw [hc]
    simp [Condition.Accepts, Condition.Meets, valueMeaning, betaReport, Condition.typedValue,
      hkind]

/-- A service with a field whose name begins with an underscore. -/
def underscoreService : Service where
  settings := {}
  catalog :=
    { version := 1
      fields := [⟨"_note", "note", .processed, .text, false, false, [], none⟩]
      faultless := by decide }
  versions := .table VersionTable.empty
  now := sampleService.now

/-- A value of a field whose name begins with an underscore and its negation select every report. -/
theorem selectsBoth_underscore : underscoreService.SelectsBoth "_note" "crash" := by
  obtain ⟨f, c, hfield, hname, hraw⟩ : ∃ f c,
      underscoreService.catalog.lookup (Request.resolveAlias "_note") = some f ∧
      f.publicName ≠ Window.dateField ∧
      Condition.ofRaw? f "crash" underscoreService.now = some c := ⟨_, _, rfl, by decide, rfl⟩
  obtain ⟨r, body, h⟩ : ∃ r body,
      underscoreService.prepare (RawRequest.ofPairs [("_note", "crash")]) = .ok (r, body) :=
    ⟨_, _, rfl⟩
  obtain ⟨r', body', h'⟩ : ∃ r' body',
      underscoreService.prepare (RawRequest.ofPairs [("_note", "!crash")]) = .ok (r', body') :=
    ⟨_, _, rfl⟩
  have hmark : "crash".toList.head? ≠ some Comparison.mark := by decide
  obtain ⟨-, hraw'⟩ := ofRaw?_mark hmark hraw
  have hbounds := underscoreService.meetsBounds_valueMeaning []
  exact ⟨f, c, r, body, r', body', hfield, hname, hmark, hraw, h, h', [],
    (meetsDates_value_iff _ _ hfield hraw h hname).2 hbounds,
    (selects_value_of_meta _ _ hfield hraw h rfl).2 hbounds,
    (selects_value_of_meta _ _ hfield hraw' h' rfl).2 hbounds⟩

/-- Neither for version keys nor for fields whose names begin with an underscore does the negation of
a value select the complement. -/
theorem selectsBoth_key_underscore : betaService.SelectsBoth "version" "alpha:3.0b2" ∧
    underscoreService.SelectsBoth "_note" "crash" :=
  ⟨selectsBoth_key, selectsBoth_underscore⟩

end Service

end CrashQuery
