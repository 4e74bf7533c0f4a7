import CrashQuery.Proofs.Calendar.Order
import CrashQuery.Proofs.Outcome
import CrashQuery.Proofs.Query.Body

/-!
# Compilation keeps the meaning of a request

`Condition.Meets` and `VersionRule.Meets` say what a condition and a rule for a version ask of a
report, in the words of requests. `Query.selects_compile_iff` shows that the body of a compiled
request selects exactly the reports that the request asks for.
-/

namespace CrashQuery

open Outcome

variable {α : Type} (m : Meaning α) (d : α)

namespace Condition

/-- Whether a report meets a condition, of which a negation is left out. Plain and exact values are
alternatives, bounds must all hold, and patterns are alternatives. -/
def Meets (c : Condition) : Prop :=
  match c.operator with
  | .any => ∃ v ∈ c.values, m.term c.field.storagePath (typedValue c.field.kind v) d
  | .equal => ∃ v ∈ c.values, m.term c.field.exactPath (typedValue c.field.kind v) d
  | .greater => ∀ v ∈ c.values, m.range c.field.storagePath .above (typedValue c.field.kind v) d
  | .atLeast => ∀ v ∈ c.values, m.range c.field.storagePath .atLeast (typedValue c.field.kind v) d
  | .less => ∀ v ∈ c.values, m.range c.field.storagePath .below (typedValue c.field.kind v) d
  | .atMost => ∀ v ∈ c.values, m.range c.field.storagePath .atMost (typedValue c.field.kind v) d
  | .contains => ∃ v ∈ c.values, m.wildcard c.field.exactPath ("*" ++ v ++ "*") d
  | .startsWith => ∃ v ∈ c.values, m.wildcard c.field.exactPath (v ++ "*") d
  | .endsWith => ∃ v ∈ c.values, m.wildcard c.field.exactPath ("*" ++ v) d
  | .isNull => m.missing c.field.storagePath d

/-- A test for one of the values accepts what one of them accepts. -/
theorem holds_termFilter {field : Field} {path : String} {values : List String} {f : Filter}
    (h : termFilter field path values = .ok f) :
    f.Holds m d ↔ ∃ v ∈ values, m.term path (typedValue field.kind v) d := by
  unfold termFilter at h
  split at h
  · simp at h
  · rw [Except.ok.injEq] at h
    subst h
    simp [Filter.Holds]
  · rw [Except.ok.injEq] at h
    subst h
    simp [Filter.Holds]

/-- A test for bounds accepts what all of them accept. -/
theorem holds_rangeFilter {c : Condition} {f : Filter} (h : c.rangeFilter = .ok f) :
    f.Holds m d ↔
      ∀ v ∈ c.values, m.range c.field.storagePath (boundOf c.operator) (typedValue c.field.kind v) d := by
  unfold rangeFilter at h
  split at h
  · simp at h
  · split at h
    · simp at h
    · rw [Except.ok.injEq] at h
      subst h
      rw [Filter.holds_all]
      simp [Filter.Holds]

/-- The test of a condition without wildcards accepts what meets the condition. -/
theorem holds_plainFilter {c : Condition} {f : Filter} (hplain : c.operator.isWildcard = false)
    (h : c.plainFilter = .ok f) : f.Holds m d ↔ c.Meets m d := by
  unfold plainFilter at h
  unfold Meets
  -- The four bounds share one test, and the patterns are excluded by `hplain`.
  cases hop : c.operator <;> simp only [hop] at h hplain ⊢
  case any => exact holds_termFilter m d h
  case equal => exact holds_termFilter m d h
  case isNull =>
    rw [Except.ok.injEq] at h
    subst h
    simp [Filter.Holds]
  case contains | startsWith | endsWith => simp [Operator.isWildcard] at hplain
  case greater | atLeast | less | atMost =>
    rw [holds_rangeFilter m d h, hop]
    rfl

/-- Wildcard clauses are not empty, and one of them matches what meets the condition. -/
theorem exists_wildcardClauses_iff {c : Condition} {clauses : List Wildcard}
    (hwild : c.operator.isWildcard = true) (h : c.wildcardClauses = .ok clauses) :
    clauses ≠ [] ∧ ((∃ w ∈ clauses, m.wildcard w.path w.pattern d) ↔ c.Meets m d) := by
  unfold wildcardClauses at h
  split at h
  · simp at h
  · split at h
    · simp at h
    · next hne =>
      rw [Except.ok.injEq] at h
      subst h
      refine ⟨by simpa using hne, ?_⟩
      unfold Meets
      cases hop : c.operator <;> simp [hop, Operator.isWildcard] at hwild <;>
        simp [Wildcard.patternOf]

/-- What a fragment has to do with the condition that it was compiled from. -/
def Yields (c : Condition) : Fragment → Prop
  | .filter f =>
    c.operator.isWildcard = false ∧
      (f.Holds m d ↔ if c.negated then ¬ c.Meets m d else c.Meets m d)
  | .wildcards clauses =>
    c.operator.isWildcard = true ∧ c.negated = false ∧ clauses ≠ [] ∧
      ((∃ w ∈ clauses, m.wildcard w.path w.pattern d) ↔ c.Meets m d)
  | .excluded clauses =>
    c.operator.isWildcard = true ∧ c.negated = true ∧
      ((∃ w ∈ clauses, m.wildcard w.path w.pattern d) ↔ c.Meets m d)

/-- A condition is compiled into a fragment with its meaning. -/
theorem yields_compile {c : Condition} {fragment : Fragment} (h : c.compile = .ok fragment) :
    c.Yields m d fragment := by
  unfold compile at h
  split at h
  · next hwild =>
    obtain ⟨clauses, hclauses, rfl⟩ := map_eq_ok.1 h
    obtain ⟨hne, hiff⟩ := exists_wildcardClauses_iff m d hwild hclauses
    cases hn : c.negated with
    | true => exact ⟨hwild, hn, hiff⟩
    | false => exact ⟨hwild, hn, hne, hiff⟩
  · next hwild =>
    obtain ⟨f, hf, rfl⟩ := map_eq_ok.1 h
    rw [Bool.not_eq_true] at hwild
    have hiff := holds_plainFilter m d hwild hf
    refine ⟨hwild, ?_⟩
    cases hn : c.negated with
    | true => simp [Filter.holds_negate, hiff]
    | false => simp [hiff]

end Condition

namespace VersionRule

/-- Whether a report meets a rule for a version: product and version are those of the rule, the
channel is the wanted one or none of the unwanted ones, and the build is one of the listed ones. -/
structure Meets (fields : Fields) (rule : VersionRule) : Prop where
  /-- The product is that of the rule. -/
  product : m.term fields.product.storagePath (.str rule.product) d
  /-- The version is that of the rule. -/
  version : m.term fields.version.storagePath (.str rule.version) d
  /-- The channel is the wanted one. -/
  only : ∀ name, rule.channel = some (.only name) →
    m.term fields.channel.storagePath (.str name) d
  /-- The channel is none of the unwanted ones. -/
  exclude : ∀ names, rule.channel = some (.exclude names) →
    ∀ name ∈ names, ¬ m.term fields.channel.storagePath (.str name) d
  /-- The build is one of the listed ones. -/
  build : ∀ ids, rule.buildIds = some ids →
    ∃ id ∈ ids, m.term fields.build.storagePath (Condition.typedValue fields.build.kind id) d

/-- Whether the fields are those that a catalog has for products, versions, channels and builds. -/
structure Fields.AreIn (catalog : Catalog) (fields : Fields) : Prop where
  /-- The product. -/
  product : catalog.lookup "product" = some fields.product
  /-- The version. -/
  version : catalog.lookup "version" = some fields.version
  /-- The channel. -/
  channel : catalog.lookup "release_channel" = some fields.channel
  /-- The build. -/
  build : catalog.lookup "build_id" = some fields.build

/-- A field that must be there is found where the catalog has it. -/
theorem lookup_eq_some {catalog : Catalog} {name : String} {f : Field}
    (h : (match catalog.lookup name with
      | some f => Except.ok f
      | none => .error (ArgumentFault.unknownField name)) = .ok f) :
    catalog.lookup name = some f := by
  split at h
  · next g hg => rw [hg, Except.ok.inj h]
  · simp at h

/-- The fault of a field that must be there is that the catalog does not have it. -/
theorem lookup_eq_none {catalog : Catalog} {name : String} {fault : ArgumentFault}
    (h : (match catalog.lookup name with
      | some f => Except.ok f
      | none => .error (ArgumentFault.unknownField name)) = .error fault) :
    catalog.lookup name = none ∧ fault = .unknownField name := by
  split at h
  · cases h
  · next hnone =>
    cases h
    exact ⟨hnone, rfl⟩

/-- The fields that are found are those of the catalog. -/
theorem Fields.areIn_of_find {catalog : Catalog} {fields : Fields}
    (h : Fields.find catalog = .ok fields) : fields.AreIn catalog := by
  unfold Fields.find at h
  obtain ⟨product, hproduct, h⟩ := bind_eq_ok.1 h
  obtain ⟨version, hversion, h⟩ := bind_eq_ok.1 h
  obtain ⟨channel, hchannel, h⟩ := bind_eq_ok.1 h
  obtain ⟨build, hbuild, h⟩ := bind_eq_ok.1 h
  simp only [pure, Except.pure, Except.ok.injEq] at h
  subst h
  exact ⟨lookup_eq_some hproduct, lookup_eq_some hversion, lookup_eq_some hchannel,
    lookup_eq_some hbuild⟩

/-- The tests on the channel accept what the rule says about it. -/
theorem holds_channelFilters (field : Field) (channel : Option ChannelRule) :
    (∀ f ∈ channelFilters field channel, f.Holds m d) ↔
      (∀ name, channel = some (.only name) → m.term field.storagePath (.str name) d) ∧
        ∀ names, channel = some (.exclude names) →
          ∀ name ∈ names, ¬ m.term field.storagePath (.str name) d := by
  cases channel with
  | none => simp [channelFilters]
  | some rule =>
    cases rule with
    | only name => simp [channelFilters, Filter.Holds]
    | exclude names => simp [channelFilters, Filter.holds_negate, Filter.Holds]

/-- The tests on the build accept the listed builds. -/
theorem holds_buildFilters (field : Field) (builds : Option (List String)) :
    (∀ f ∈ buildFilters field builds, f.Holds m d) ↔
      ∀ ids, builds = some ids →
        ∃ id ∈ ids, m.term field.storagePath (Condition.typedValue field.kind id) d := by
  cases builds with
  | none => simp [buildFilters]
  | some ids => simp [buildFilters, Filter.Holds]

/-- The filter for a version accepts what meets the rule. -/
theorem holds_filter (fields : Fields) (rule : VersionRule) :
    (filter fields rule).Holds m d ↔ rule.Meets m d fields := by
  have hchannel := holds_channelFilters m d fields.channel rule.channel
  have hbuild := holds_buildFilters m d fields.build rule.buildIds
  -- The parts of the filter are in the order of the fields of `Meets`.
  unfold filter
  rw [Filter.Holds, Filter.allHold_iff]
  constructor
  · intro h
    have hc := hchannel.1 fun f hf => h f (by simp [hf])
    have hb := hbuild.1 fun f hf => h f (by simp [hf])
    have hproduct := h (.term fields.product.storagePath (.str rule.product)) (by simp)
    have hversion := h (.term fields.version.storagePath (.str rule.version)) (by simp)
    rw [Filter.Holds] at hproduct hversion
    exact ⟨hproduct, hversion, hc.1, hc.2, hb⟩
  · intro h f hf
    simp only [List.cons_append, List.nil_append, List.mem_cons, List.mem_append] at hf
    rcases hf with rfl | rfl | hf | hf
    · rw [Filter.Holds]
      exact h.product
    · rw [Filter.Holds]
      exact h.version
    · exact hchannel.2 ⟨h.only, h.exclude⟩ f hf
    · exact hbuild.2 h.build f hf

end VersionRule

namespace Query

/-- The filters for the versions accept what meets one of the rules, if there are any. -/
theorem holds_compileVersions {catalog : Catalog} {rules : List VersionRule}
    {filters : List Filter} (h : compileVersions catalog rules = .ok filters) :
    (∀ f ∈ filters, f.Holds m d) ↔
      (rules ≠ [] → ∃ fields : VersionRule.Fields, fields.AreIn catalog ∧
        ∃ rule ∈ rules, rule.Meets m d fields) := by
  unfold compileVersions at h
  split at h
  · next hempty =>
    rw [Except.ok.injEq] at h
    subst h
    simp [List.isEmpty_iff.1 hempty]
  · next hsome =>
    obtain ⟨fields, hfind, rfl⟩ := map_eq_ok.1 h
    have hin := VersionRule.Fields.areIn_of_find hfind
    have hne : rules ≠ [] := fun he => hsome (List.isEmpty_iff.2 he)
    simp only [List.mem_singleton, forall_eq, Filter.holds_any, List.mem_map,
      exists_exists_and_eq_and, VersionRule.holds_filter]
    constructor
    · rintro ⟨rule, hrule, hmeets⟩ -
      exact ⟨fields, hin, rule, hrule, hmeets⟩
    · intro hall
      obtain ⟨fields', hin', rule, hrule, hmeets⟩ := hall hne
      -- A catalog has one field for a name, so these are the fields that were found.
      have heq : fields' = fields := by
        obtain ⟨p, v, c, b⟩ := fields
        obtain ⟨p', v', c', b'⟩ := fields'
        have hp := hin'.product.symm.trans hin.product
        have hv := hin'.version.symm.trans hin.version
        have hc := hin'.channel.symm.trans hin.channel
        have hb := hin'.build.symm.trans hin.build
        simp only [Option.some.injEq] at hp hv hc hb
        rw [hp, hv, hc, hb]
      exact ⟨rule, hrule, heq ▸ hmeets⟩

section Fragments

variable {conditions : List Condition} {fragments : List Condition.Fragment}

/-- Every condition has been compiled into one of the fragments, which has its meaning. -/
theorem exists_fragment (h : conditions.mapM Condition.compile = .ok fragments) {c : Condition}
    (hc : c ∈ conditions) : ∃ fragment ∈ fragments, c.Yields m d fragment := by
  obtain ⟨fragment, hmem, hcompile⟩ := exists_of_mapM_ok h hc
  exact ⟨fragment, hmem, Condition.yields_compile m d hcompile⟩

/-- Every fragment has the meaning of one of the conditions. -/
theorem exists_condition (h : conditions.mapM Condition.compile = .ok fragments)
    {fragment : Condition.Fragment} (hmem : fragment ∈ fragments) :
    ∃ c ∈ conditions, c.Yields m d fragment := by
  obtain ⟨c, hc, hcompile⟩ := (mem_mapM_ok h fragment).1 hmem
  exact ⟨c, hc, Condition.yields_compile m d hcompile⟩

/-- The filters of compiled conditions accept what meets every condition without wildcards. -/
theorem holds_filtersOf (h : conditions.mapM Condition.compile = .ok fragments) :
    (∀ f ∈ filtersOf fragments, f.Holds m d) ↔
      ∀ c ∈ conditions, c.operator.isWildcard = false →
        if c.negated then ¬ c.Meets m d else c.Meets m d := by
  constructor
  · intro hall c hc hplain
    obtain ⟨fragment, hmem, hyields⟩ := exists_fragment m d h hc
    cases fragment with
    | filter f => exact hyields.2.1 (hall f (List.mem_filterMap.2 ⟨.filter f, hmem, rfl⟩))
    | wildcards _ => simp [Condition.Yields, hplain] at hyields
    | excluded _ => simp [Condition.Yields, hplain] at hyields
  · intro hall f hf
    obtain ⟨fragment, hmem, hf⟩ := List.mem_filterMap.1 hf
    obtain ⟨c, hc, hyields⟩ := exists_condition m d h hmem
    cases fragment with
    | filter g =>
      rw [Option.some.injEq] at hf
      subst hf
      exact hyields.2.2 (hall c hc hyields.1)
    | wildcards _ => simp at hf
    | excluded _ => simp at hf

/-- The excluded patterns match what meets a negated condition with wildcards. -/
theorem exists_excludedOf_iff (h : conditions.mapM Condition.compile = .ok fragments) :
    (∃ w ∈ excludedOf fragments, m.wildcard w.path w.pattern d) ↔
      ∃ c ∈ conditions, c.operator.isWildcard = true ∧ c.negated = true ∧ c.Meets m d := by
  constructor
  · rintro ⟨w, hw, hmatches⟩
    obtain ⟨fragment, hmem, hw⟩ := List.mem_flatMap.1 hw
    obtain ⟨c, hc, hyields⟩ := exists_condition m d h hmem
    cases fragment with
    | filter _ => simp at hw
    | wildcards _ => simp at hw
    | excluded clauses =>
      obtain ⟨hwild, hneg, hiff⟩ := hyields
      exact ⟨c, hc, hwild, hneg, hiff.1 ⟨w, hw, hmatches⟩⟩
  · rintro ⟨c, hc, hwild, hneg, hmeets⟩
    obtain ⟨fragment, hmem, hyields⟩ := exists_fragment m d h hc
    cases fragment with
    | filter _ => simp [Condition.Yields, hwild] at hyields
    | wildcards _ => simp [Condition.Yields, hneg] at hyields
    | excluded clauses =>
      obtain ⟨w, hw, hmatches⟩ := hyields.2.2.2 hmeets
      exact ⟨w, List.mem_flatMap.2 ⟨_, hmem, hw⟩, hmatches⟩

/-- The patterns of which one must match are matched by what meets a condition with wildcards that
is not negated. -/
theorem exists_wildcardsOf_iff (h : conditions.mapM Condition.compile = .ok fragments) :
    (∃ w ∈ wildcardsOf fragments, m.wildcard w.path w.pattern d) ↔
      ∃ c ∈ conditions, c.operator.isWildcard = true ∧ c.negated = false ∧ c.Meets m d := by
  constructor
  · rintro ⟨w, hw, hmatches⟩
    obtain ⟨fragment, hmem, hw⟩ := List.mem_flatMap.1 hw
    obtain ⟨c, hc, hyields⟩ := exists_condition m d h hmem
    cases fragment with
    | filter _ => simp at hw
    | excluded _ => simp at hw
    | wildcards clauses =>
      obtain ⟨hwild, hpos, -, hiff⟩ := hyields
      exact ⟨c, hc, hwild, hpos, hiff.1 ⟨w, hw, hmatches⟩⟩
  · rintro ⟨c, hc, hwild, hpos, hmeets⟩
    obtain ⟨fragment, hmem, hyields⟩ := exists_fragment m d h hc
    cases fragment with
    | filter _ => simp [Condition.Yields, hwild] at hyields
    | excluded _ => simp [Condition.Yields, hpos] at hyields
    | wildcards clauses =>
      obtain ⟨w, hw, hmatches⟩ := hyields.2.2.2.2 hmeets
      exact ⟨w, List.mem_flatMap.2 ⟨_, hmem, hw⟩, hmatches⟩

include m d in
/-- There are patterns of which one must match exactly when a condition with wildcards is not
negated. -/
theorem wildcardsOf_ne_nil_iff (h : conditions.mapM Condition.compile = .ok fragments) :
    wildcardsOf fragments ≠ [] ↔
      ∃ c ∈ conditions, c.operator.isWildcard = true ∧ c.negated = false := by
  constructor
  · intro hne
    obtain ⟨w, hw⟩ := List.exists_mem_of_ne_nil _ hne
    obtain ⟨fragment, hmem, hw⟩ := List.mem_flatMap.1 hw
    obtain ⟨c, hc, hyields⟩ := exists_condition m d h hmem
    cases fragment with
    | filter _ => simp at hw
    | excluded _ => simp at hw
    | wildcards clauses => exact ⟨c, hc, hyields.1, hyields.2.1⟩
  · rintro ⟨c, hc, hwild, hpos⟩
    obtain ⟨fragment, hmem, hyields⟩ := exists_fragment m d h hc
    cases fragment with
    | filter _ => simp [Condition.Yields, hwild] at hyields
    | excluded _ => simp [Condition.Yields, hpos] at hyields
    | wildcards clauses =>
      obtain ⟨w, hw⟩ := List.exists_mem_of_ne_nil _ hyields.2.2.1
      exact List.ne_nil_of_mem (List.mem_flatMap.2 ⟨_, hmem, hw⟩)

end Fragments

end Query

namespace Request

/-- Whether a request and the rules for its versions ask for a report. -/
structure AsksFor (catalog : Catalog) (request : Request) (rules : List VersionRule) : Prop where
  /-- Every condition without wildcards is met, or fails if it is negated. -/
  plain : ∀ c ∈ request.conditions, c.operator.isWildcard = false →
    if c.negated then ¬ c.Meets m d else c.Meets m d
  /-- No negated condition with wildcards is met by any of its values. -/
  excluded : ∀ c ∈ request.conditions, c.operator.isWildcard = true → c.negated = true →
    ¬ c.Meets m d
  /-- Of the conditions with wildcards that are not negated one is met, if there are any. -/
  patterns : (∃ c ∈ request.conditions, c.operator.isWildcard = true ∧ c.negated = false) →
    ∃ c ∈ request.conditions, c.operator.isWildcard = true ∧ c.negated = false ∧ c.Meets m d
  /-- One of the rules is met, if there are any. -/
  versions : rules ≠ [] → ∃ fields : VersionRule.Fields, fields.AreIn catalog ∧
    ∃ rule ∈ rules, rule.Meets m d fields

end Request

namespace Query

variable {catalog : Catalog} {maxTerms : Nat} {request : Request} {rules : List VersionRule}
  {q : Query}

/-- The parts of a compiled query come from the request and the rules for its versions. -/
theorem parts_of_compile (h : compile catalog maxTerms request rules = .ok q) :
    ∃ fragments versions,
      compileFacets catalog maxTerms request.facetSize request.facets = .ok q.facets ∧
      compileSort catalog request.sort = .ok q.sort ∧
      request.conditions.mapM Condition.compile = .ok fragments ∧
      compileVersions catalog rules = .ok versions ∧ q.page = request.page ∧
      q.filters = filtersOf fragments ++ versions ∧ q.wildcards = wildcardsOf fragments ∧
      q.excluded = excludedOf fragments := by
  unfold compile at h
  obtain ⟨facets, hfacets, h⟩ := bind_eq_ok.1 h
  obtain ⟨sort, hsort, h⟩ := bind_eq_ok.1 h
  obtain ⟨fragments, hfragments, h⟩ := bind_eq_ok.1 h
  obtain ⟨versions, hversions, h⟩ := bind_eq_ok.1 h
  simp only [pure, Except.pure, Except.ok.injEq] at h
  subst h
  exact ⟨fragments, versions, hfacets, hsort, hfragments, hversions, rfl, rfl, rfl, rfl⟩

/-- The query that a request is compiled into wants the reports that the request asks for. -/
theorem wants_compile_iff (h : compile catalog maxTerms request rules = .ok q) :
    q.Wants m d ↔ request.AsksFor m d catalog rules := by
  obtain ⟨fragments, versions, -, -, hfragments, hversions, -, hfilters, hwild, hexcluded⟩ :=
    parts_of_compile h
  have hplain := holds_filtersOf m d hfragments
  have hrules := holds_compileVersions m d hversions
  have hneg := exists_excludedOf_iff m d hfragments
  have hpos := exists_wildcardsOf_iff m d hfragments
  have hsome := wildcardsOf_ne_nil_iff m d hfragments
  -- The filters are those of the conditions, and then those of the rules.
  unfold Wants
  rw [hfilters, hwild, hexcluded, hpos, hsome]
  constructor
  · rintro ⟨hall, hnone, hone⟩
    refine ⟨hplain.1 fun f hf => hall f (List.mem_append_left _ hf), ?_, hone,
      hrules.1 fun f hf => hall f (List.mem_append_right _ hf)⟩
    intro c hc hcw hcn hmeets
    obtain ⟨w, hw, hmatches⟩ := hneg.2 ⟨c, hc, hcw, hcn, hmeets⟩
    exact hnone w hw hmatches
  · intro hasks
    refine ⟨?_, ?_, hasks.patterns⟩
    · intro f hf
      rcases List.mem_append.1 hf with hf | hf
      · exact hplain.2 hasks.plain f hf
      · exact hrules.2 hasks.versions f hf
    · intro w hw hmatches
      obtain ⟨c, hc, hcw, hcn, hmeets⟩ := hneg.1 ⟨w, hw, hmatches⟩
      exact hasks.excluded c hc hcw hcn hmeets

/-- The body of a compiled request selects exactly the reports that the request asks for, whatever
the tests on single paths mean. -/
theorem selects_compile_iff (h : compile catalog maxTerms request rules = .ok q) :
    Body.Selects m d q.toJson ↔ request.AsksFor m d catalog rules := by
  rw [Body.selects_toJson]
  exact wants_compile_iff m d h

/-- The field of the product. -/
def sampleProduct : Field := ⟨"product", "ProductName", .raw, .term, true, true, [], none⟩

/-- The field of the version. -/
def sampleVersion : Field := ⟨"version", "Version", .raw, .term, false, true, [], none⟩

/-- The field of the platform. -/
def samplePlatform : Field := ⟨"platform", "Platform", .raw, .term, false, true, [], none⟩

/-- The field of the time before a crash. -/
def sampleUptime : Field := ⟨"uptime", "Uptime", .raw, .integer, false, true, [], none⟩

/-- A catalog with the fields that versions are found by, and two others. -/
def sampleCatalog : Catalog where
  version := 1
  fields :=
    [sampleProduct, sampleVersion, samplePlatform, sampleUptime,
      ⟨"release_channel", "ReleaseChannel", .raw, .term, false, true, [], none⟩,
      ⟨"build_id", "BuildID", .raw, .integer, false, true, [], none⟩]
  faultless := by decide

/-- A request for a product by a pattern, for a platform and for more than a minute before the
crash, but not for one of the versions. -/
def sampleRequest : Request where
  conditions :=
    [⟨sampleProduct, .contains, false, ["fox"]⟩, ⟨samplePlatform, .any, false, ["linux"]⟩,
      ⟨sampleUptime, .greater, false, ["60"]⟩, ⟨sampleVersion, .any, true, ["98.0"]⟩]
  window := ⟨.earliest, .latest⟩
  page := {}
  facets := []
  facetSize := none
  wantsQuery := false
  sort := []
  columns := []

/-- A rule for the builds of a beta. -/
def sampleRule : VersionRule := ⟨"firefox", "99.0", some (.only "beta"), some ["20220331190000"]⟩

/-- Whether a number keeps a bound that has a limit. -/
def KeepsBound (bound : Bound) (limit n : Int) : Prop :=
  bound = .above ∧ limit < n ∨ bound = .atLeast ∧ limit ≤ n ∨ bound = .below ∧ n < limit ∨
    bound = .atMost ∧ n ≤ limit

/-- Reports as values at paths. Numbers have bounds, and a star at each end is all that a pattern
can have. -/
def sampleMeaning : Meaning (List (String × Json)) where
  term path value d := (path, value) ∈ d
  range path bound value d := ∃ limit n, value = .int limit ∧ (path, .int n) ∈ d ∧
    KeepsBound bound limit n
  missing path d := ∀ e ∈ d, e.1 ≠ path
  wildcard path pattern d := ∃ a v b, (path, .str (a ++ v ++ b)) ∈ d ∧ pattern = "*" ++ v ++ "*"

/-- A report of the beta. -/
def sampleReport : List (String × Json) :=
  [("raw_crash.ProductName", .str "firefox"), ("raw_crash.ProductName.full", .str "Firefox"),
    ("raw_crash.Version", .str "99.0"), ("raw_crash.ReleaseChannel", .str "beta"),
    ("raw_crash.BuildID", .int 20220331190000), ("raw_crash.Platform", .str "linux"),
    ("raw_crash.Uptime", .int 61)]

/-- The report of the beta is selected by the request and the rule for its builds. -/
theorem selects_compile_beta :
    ∃ q, compile sampleCatalog 100 sampleRequest [sampleRule] = .ok q ∧
      Body.Selects sampleMeaning sampleReport q.toJson := by
  have h : compile sampleCatalog 100 sampleRequest [sampleRule] = .ok _ := rfl
  refine ⟨_, h, (selects_compile_iff sampleMeaning sampleReport h).2 ⟨?_, ?_, ?_, ?_⟩⟩
  · intro c hc hplain
    simp only [sampleRequest, List.mem_cons, List.not_mem_nil, or_false] at hc
    rcases hc with rfl | rfl | rfl | rfl
    · cases hplain
    · refine ⟨"linux", List.mem_singleton_self _, ?_⟩
      simp [sampleMeaning, sampleReport, samplePlatform, Field.storagePath, Origin.name,
        Condition.typedValue]
    · intro v hv
      obtain rfl := List.mem_singleton.1 hv
      have hlimit : Condition.typedValue .integer "60" = .int 60 := rfl
      refine ⟨60, 61, hlimit, ?_, Or.inl ⟨rfl, by decide⟩⟩
      simp [sampleReport, sampleUptime, Field.storagePath, Origin.name]
    · rintro ⟨v, hv, hterm⟩
      obtain rfl := List.mem_singleton.1 hv
      simp [sampleMeaning, sampleReport, sampleVersion, Field.storagePath, Origin.name,
        Condition.typedValue] at hterm
  · simp [sampleRequest, Operator.isWildcard]
  · intro _
    refine ⟨⟨sampleProduct, .contains, false, ["fox"]⟩, by simp [sampleRequest], rfl, rfl, ?_⟩
    refine ⟨"fox", by simp, "Fire", "fox", "", ?_, rfl⟩
    simp [sampleProduct, sampleReport, Field.exactPath, Field.storagePath, Field.fullName,
      Origin.name]
  · intro _
    refine ⟨⟨sampleProduct, sampleVersion, _, _⟩, ⟨rfl, rfl, rfl, rfl⟩, sampleRule, by simp, ?_⟩
    refine ⟨?_, ?_, ?_, ?_, ?_⟩ <;>
      simp [sampleRule, sampleProduct, sampleVersion, sampleMeaning, sampleReport,
        Field.storagePath, Origin.name, Condition.typedValue]
    rfl

end Query

end CrashQuery
