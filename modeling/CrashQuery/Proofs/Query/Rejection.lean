import CrashQuery.Proofs.Request.Conditions

/-!
# What compilation can reject

`Request.Faulty` lists why a normalized request is refused when it is compiled: a name to count or
to sort by that the catalog does not have or does not allow, an operator that the kind of a field
does not take, and version keys without the fields that versions are found by.
`Request.compile_refuses_iff` shows that there is no other reason. A condition without usable values
would be one, but all conditions that are left of a normalized request have the values that they
need.
-/

namespace CrashQuery

open Outcome

namespace Condition

/-- Whether the kind of the field takes the operator: bounds need numbers or dates, and patterns
need texts. -/
def IsSupported (c : Condition) : Prop :=
  (c.operator.isRange = true → c.field.kind ∈ [Kind.integer, .date, .datetime]) ∧
    (c.operator.isWildcard = true → c.field.kind ∈ [Kind.text, .term])

variable {c : Condition} {fault : ArgumentFault}

/-- A test for values fails only without values. -/
theorem termFilter_ne_error {f : Field} {path : String} {values : List String} (h : values ≠ []) :
    termFilter f path values ≠ .error fault := by
  unfold termFilter
  split
  · exact absurd rfl h
  · simp
  · simp

/-- A test for bounds that are given fails exactly when the kind of the field has no order. -/
theorem rangeFilter_eq_error_iff (fault : ArgumentFault) (h : c.values ≠ []) :
    c.rangeFilter = .error fault ↔
      c.field.kind ∉ [Kind.integer, .date, .datetime] ∧
        fault = .unsupportedOperator c.operator c.name := by
  have hkind : c.field.kind.isOrdered = true ↔ c.field.kind ∈ [Kind.integer, .date, .datetime] := by
    cases c.field.kind <;> decide
  have hvalues : c.values.isEmpty = false := List.isEmpty_eq_false_iff.2 h
  unfold rangeFilter
  rw [← hkind, hvalues]
  cases c.field.kind.isOrdered with
  | true => simp
  | false => simp [eq_comm]

/-- Patterns that are given fail exactly when the kind of the field has no texts. -/
theorem wildcardClauses_eq_error_iff (fault : ArgumentFault) (h : c.values ≠ []) :
    c.wildcardClauses = .error fault ↔
      c.field.kind ∉ [Kind.text, .term] ∧ fault = .unsupportedOperator c.operator c.name := by
  have hkind : c.field.kind.isTextual = true ↔ c.field.kind ∈ [Kind.text, .term] := by
    cases c.field.kind <;> decide
  have hvalues : c.values.isEmpty = false := List.isEmpty_eq_false_iff.2 h
  unfold wildcardClauses
  rw [← hkind, hvalues]
  cases c.field.kind.isTextual with
  | true => simp
  | false => simp [eq_comm]

/-- A condition with the values that it needs is refused exactly when the kind of its field does not
take its operator. -/
theorem compile_eq_error_iff (h : c.IsFilled) : c.compile = .error fault ↔
    ¬ c.IsSupported ∧ fault = .unsupportedOperator c.operator c.name := by
  unfold IsFilled at h
  unfold compile IsSupported
  -- Each operator has its own test, and needs values unless it asks for absence.
  cases hoperator : c.operator with
  | any | equal =>
    have hvalues : c.values ≠ [] := by simp [h, hoperator]
    simp [Operator.isWildcard, Operator.isRange, map_eq_error, plainFilter, hoperator,
      termFilter_ne_error hvalues]
  | isNull => simp [Operator.isWildcard, Operator.isRange, map_eq_error, plainFilter, hoperator]
  | greater | atLeast | less | atMost =>
    have hvalues : c.values ≠ [] := by simp [h, hoperator]
    have hrange := rangeFilter_eq_error_iff fault hvalues
    rw [hoperator] at hrange
    simp [Operator.isWildcard, Operator.isRange, map_eq_error, plainFilter, hoperator, hrange]
  | contains | startsWith | endsWith =>
    have hvalues : c.values ≠ [] := by simp [h, hoperator]
    have hwild := wildcardClauses_eq_error_iff fault hvalues
    rw [hoperator] at hwild
    simp [Operator.isWildcard, Operator.isRange, map_eq_error, hwild]

end Condition

namespace VersionRule

/-- The public names of the fields that versions are found by. -/
def fieldNames : List String := ["product", "version", "release_channel", "build_id"]

/-- The fields that versions are found by are missing only where the catalog lacks one of their
names. -/
theorem Fields.exists_of_find_eq_error {catalog : Catalog} {fault : ArgumentFault}
    (h : Fields.find catalog = .error fault) :
    ∃ name ∈ fieldNames, catalog.lookup name = none ∧ fault = .unknownField name := by
  unfold Fields.find at h
  rcases bind_eq_error.1 h with h | ⟨product, -, h⟩
  · exact ⟨"product", by decide, lookup_eq_none h⟩
  rcases bind_eq_error.1 h with h | ⟨version, -, h⟩
  · exact ⟨versionField, by decide, lookup_eq_none h⟩
  rcases bind_eq_error.1 h with h | ⟨channel, -, h⟩
  · exact ⟨"release_channel", by decide, lookup_eq_none h⟩
  rcases bind_eq_error.1 h with h | ⟨build, -, h⟩
  · exact ⟨"build_id", by decide, lookup_eq_none h⟩
  cases h

/-- There is a rule for every key, whatever is known about it. -/
theorem resolveAll_eq_nil_iff {restricted keys : List String} {known : Entries VersionInfo}
    (h : ∀ k ∈ keys, isKey k = true) : resolveAll restricted known keys = [] ↔ keys = [] := by
  unfold resolveAll
  rw [List.filterMap_eq_nil_iff, List.eq_nil_iff_forall_not_mem]
  refine forall₂_congr fun k hk => iff_of_false ?_ (fun hnot => hnot)
  obtain ⟨p, hp⟩ := Option.isSome_iff_exists.1 (h k hk)
  simp [hp]

end VersionRule

namespace Request

/-- Why the compilation of a request is refused. The request is left without its version keys, which
stand beside it. -/
inductive Faulty (catalog : Catalog) (r : Request) (keys : List String) : ArgumentFault → Prop
  /-- It counts by a name that no field has. -/
  | unknownFacet {name : String} : name ∈ r.facets → catalog.lookup name = none →
    Faulty catalog r keys (.unknownFacet name)
  /-- It counts by a field that is not one to count by. -/
  | notFacetable {name : String} {f : Field} : name ∈ r.facets → catalog.lookup name = some f →
    f.isFacetable = false → Faulty catalog r keys (.notFacetable name)
  /-- It sorts by a name that no field has. -/
  | unknownSort {key : SortKey} : key ∈ r.sort → catalog.lookup key.name = none →
    Faulty catalog r keys (.unknownField key.name)
  /-- It has a condition with an operator that the kind of the field does not take. -/
  | unsupported {c : Condition} : c ∈ r.conditions → ¬ c.IsSupported →
    Faulty catalog r keys (.unsupportedOperator c.operator c.name)
  /-- It has version keys, and the catalog lacks one of the fields that versions are found by. -/
  | unversioned {name : String} : keys ≠ [] → name ∈ VersionRule.fieldNames →
    catalog.lookup name = none → Faulty catalog r keys (.unknownField name)

variable {catalog : Catalog} {maxTerms : Nat} {r : Request} {keys : List String}
  {rules : List VersionRule} {fault : ArgumentFault}

section Compile

variable (hfilled : ∀ c ∈ r.conditions, c.IsFilled) (hrules : rules = [] ↔ keys = [])

include hfilled hrules

/-- A request whose conditions have the values that they need is refused for a fault of it. -/
theorem faulty_of_compile (h : Query.compile catalog maxTerms r rules = .error fault) :
    r.Faulty catalog keys fault := by
  unfold Query.compile at h
  rcases bind_eq_error.1 h with hfacets | ⟨facets, -, h⟩
  · obtain ⟨name, hname, hfault⟩ := exists_of_mapM_error hfacets
    split at hfault
    · next hnone =>
      cases hfault
      exact .unknownFacet hname hnone
    · next f hf =>
      split at hfault
      · cases hfault
      · next hnot =>
        cases hfault
        exact .notFacetable hname hf (Bool.eq_false_iff.2 hnot)
  rcases bind_eq_error.1 h with hsort | ⟨sort, -, h⟩
  · obtain ⟨key, hkey, hfault⟩ := exists_of_mapM_error hsort
    split at hfault
    · next hnone =>
      cases hfault
      exact .unknownSort hkey hnone
    · cases hfault
  rcases bind_eq_error.1 h with hconditions | ⟨fragments, -, h⟩
  · obtain ⟨c, hc, hfault⟩ := exists_of_mapM_error hconditions
    obtain ⟨hnot, rfl⟩ := (Condition.compile_eq_error_iff (hfilled c hc)).1 hfault
    exact .unsupported hc hnot
  rcases bind_eq_error.1 h with hversions | ⟨versions, -, h⟩
  · unfold Query.compileVersions at hversions
    split at hversions
    · cases hversions
    · next hsome =>
      obtain ⟨name, hname, hnone, rfl⟩ :=
        VersionRule.Fields.exists_of_find_eq_error (map_eq_error.1 hversions)
      have hkeys : keys ≠ [] := fun hnil => hsome (List.isEmpty_iff.2 (hrules.2 hnil))
      exact .unversioned hkeys hname hnone
  · cases h

/-- A request with a fault is not compiled. -/
theorem compile_ne_ok_of_faulty (h : r.Faulty catalog keys fault) (q : Query) :
    Query.compile catalog maxTerms r rules ≠ .ok q := by
  intro hok
  obtain ⟨fragments, versions, hfacets, hsort, hconditions, hversions, -⟩ :=
    Query.parts_of_compile hok
  cases h with
  | unknownFacet hname hnone =>
    obtain ⟨facet, -, hfacet⟩ := exists_of_mapM_ok hfacets hname
    simp [hnone] at hfacet
  | notFacetable hname hf hnot =>
    obtain ⟨facet, -, hfacet⟩ := exists_of_mapM_ok hfacets hname
    simp [hf, hnot] at hfacet
  | unknownSort hkey hnone =>
    obtain ⟨order, -, horder⟩ := exists_of_mapM_ok hsort hkey
    simp [hnone] at horder
  | @unsupported c hc hnot =>
    obtain ⟨fragment, -, hfragment⟩ := exists_of_mapM_ok hconditions hc
    rw [(Condition.compile_eq_error_iff (hfilled c hc)).2 ⟨hnot, rfl⟩] at hfragment
    cases hfragment
  | unversioned hkeys hname hnone =>
    have hsome : rules.isEmpty = false := by
      rw [List.isEmpty_eq_false_iff, ne_eq, hrules]
      exact hkeys
    unfold Query.compileVersions at hversions
    rw [hsome] at hversions
    obtain ⟨fields, hfind, -⟩ := map_eq_ok.1 hversions
    obtain ⟨hproduct, hversion, hchannel, hbuild⟩ := VersionRule.Fields.areIn_of_find hfind
    simp only [VersionRule.fieldNames, List.mem_cons, List.not_mem_nil, or_false] at hname
    rcases hname with rfl | rfl | rfl | rfl <;> simp_all

end Compile

variable {options : RequestOptions} {raw : RawRequest}

/-- After its version keys have been taken out and resolved, a normalized request is refused exactly
when it counts or sorts by a name that is not allowed, when it has an operator that the kind of the
field does not take, or when it has version keys and the catalog lacks a field for them. It is
refused for one of these faults, and never for want of values. -/
theorem compile_refuses_iff (h : ofRaw catalog options raw = .ok r) (maxTerms : Nat)
    (restricted : List String) (t : VersionTable) :
    let keys := VersionRule.keysOf r.conditions
    let resolved : Request := { r with conditions := VersionRule.remaining r.conditions }
    let compiled := Query.compile catalog maxTerms resolved
      (VersionRule.resolveAll restricted (t.findAll keys) keys)
    ((∃ fault, compiled = .error fault) ↔ ∃ fault, resolved.Faulty catalog keys fault) ∧
      (∀ fault, compiled = .error fault → resolved.Faulty catalog keys fault) ∧
      ∀ name, compiled ≠ .error (.noUsableValue name) := by
  intro keys resolved compiled
  have hfilled : ∀ c ∈ resolved.conditions, c.IsFilled := isFilled_remaining h
  have hkeys : ∀ k ∈ keys, VersionRule.isKey k = true := by
    intro k hk
    obtain ⟨-, -, -, -, hkey⟩ := VersionRule.mem_keysOf.1 hk
    exact hkey
  have hrules : VersionRule.resolveAll restricted (t.findAll keys) keys = [] ↔ keys = [] :=
    VersionRule.resolveAll_eq_nil_iff hkeys
  have hfaulty : ∀ fault, compiled = .error fault → resolved.Faulty catalog keys fault :=
    fun _ => faulty_of_compile hfilled hrules
  refine ⟨⟨?_, ?_⟩, hfaulty, ?_⟩
  · rintro ⟨fault, hfault⟩
    exact ⟨fault, hfaulty fault hfault⟩
  · rintro ⟨fault, hfault⟩
    cases hcompiled : compiled with
    | error fault' => exact ⟨fault', rfl⟩
    | ok q => exact absurd hcompiled (compile_ne_ok_of_faulty hfilled hrules hfault q)
  · intro name hname
    cases hfaulty _ hname

/-- A bound on a version is normalized, and then refused for its operator, which the version key
beside it does not change. -/
theorem compile_refuses_bound : ∃ r,
    ofRaw Query.sampleCatalog Service.sampleService.options
      [("version", [">98.0", "firefox:98.0"])] = .ok r ∧
    ∃ fault, Query.compile Query.sampleCatalog 50
      { r with conditions := VersionRule.remaining r.conditions }
      (VersionRule.resolveAll ["beta"]
        (VersionRule.sampleTable.findAll (VersionRule.keysOf r.conditions))
        (VersionRule.keysOf r.conditions)) = .error fault := by
  obtain ⟨r, hr, hremaining⟩ : ∃ r,
      ofRaw Query.sampleCatalog Service.sampleService.options
        [("version", [">98.0", "firefox:98.0"])] = .ok r ∧
      VersionRule.remaining r.conditions = [⟨Query.sampleVersion, .greater, false, ["98.0"]⟩] :=
    ⟨_, rfl, rfl⟩
  refine ⟨r, hr, (compile_refuses_iff hr 50 ["beta"] VersionRule.sampleTable).1.2 ?_⟩
  refine ⟨_, .unsupported (c := ⟨Query.sampleVersion, .greater, false, ["98.0"]⟩) ?_ ?_⟩
  · rw [hremaining]
    exact List.mem_singleton_self _
  · intro hsupported
    exact absurd (hsupported.1 rfl) (by decide)

end Request

end CrashQuery
