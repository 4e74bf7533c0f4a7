import CrashQuery.Proofs.Query.Paging
import CrashQuery.Proofs.Request.Conditions

/-!
# The paths of a query

A query names the paths of stored values: its filters test them, its patterns are matched with them,
and it counts and sorts by them. `Filter.OnPaths` and `Query.OnPaths` say that all these paths have
a property. The paths come from the fields of the catalog alone: a property of the storage path and
the exact path of every field is one of all paths of a query that is compiled from a request
(`Service.onPaths_of_prepare`).
-/

namespace CrashQuery

open Outcome

variable (p : String → Prop)

namespace Filter

mutual

/-- Whether all paths that a filter tests have a property. -/
def OnPaths : Filter → Prop
  | .term path _ => p path
  | .terms path _ => p path
  | .range path _ _ => p path
  | .missing path => p path
  | .and filters => AllOnPaths filters
  | .or filters => AllOnPaths filters
  | .not filter => OnPaths filter

/-- Whether all paths that some filters test have a property. -/
def AllOnPaths : List Filter → Prop
  | [] => True
  | f :: rest => OnPaths f ∧ AllOnPaths rest

end

variable {p} {filters : List Filter}

/-- The paths of several filters are those of each of them. -/
theorem allOnPaths_iff : AllOnPaths p filters ↔ ∀ f ∈ filters, f.OnPaths p := by
  induction filters with
  | nil => simp [AllOnPaths]
  | cons f rest ih => simp [AllOnPaths, ih]

/-- A negation tests the same paths. -/
theorem onPaths_negate {f : Filter} (h : f.OnPaths p) : f.negate.OnPaths p := by
  unfold negate
  split
  · simpa only [OnPaths] using h
  · simpa only [OnPaths] using h

/-- A conjunction tests the paths of its parts. -/
theorem onPaths_all (h : ∀ f ∈ filters, f.OnPaths p) : (all filters).OnPaths p := by
  unfold all
  split
  · exact h _ (List.mem_singleton_self _)
  · simpa only [OnPaths] using allOnPaths_iff.2 h

/-- A disjunction tests the paths of its parts. -/
theorem onPaths_any (h : ∀ f ∈ filters, f.OnPaths p) : (any filters).OnPaths p := by
  unfold any
  split
  · exact h _ (List.mem_singleton_self _)
  · simpa only [OnPaths] using allOnPaths_iff.2 h

end Filter

/-- Whether a property is one of the paths of a field. -/
def Field.OnPaths (f : Field) : Prop := p f.storagePath ∧ p f.exactPath

/-- Whether all paths of a fragment have a property. -/
def Condition.Fragment.OnPaths : Condition.Fragment → Prop
  | .filter f => f.OnPaths p
  | .wildcards clauses => ∀ w ∈ clauses, p w.path
  | .excluded clauses => ∀ w ∈ clauses, p w.path

/-- Whether all paths of a query have a property. -/
structure Query.OnPaths (q : Query) : Prop where
  /-- Those of its filters. -/
  filters : ∀ f ∈ q.filters, f.OnPaths p
  /-- Those of its patterns. -/
  wildcards : ∀ w ∈ q.wildcards, p w.path
  /-- Those of its excluded patterns. -/
  excluded : ∀ w ∈ q.excluded, p w.path
  /-- Those of its counts. -/
  facets : ∀ f ∈ q.facets, p f.path
  /-- Those that it sorts by. -/
  sort : ∀ s ∈ q.sort, p s.path

variable {p}

namespace Condition

variable {c : Condition}

/-- A test for values is on its path. -/
theorem onPaths_termFilter {field : Field} {path : String} {values : List String} {f : Filter}
    (hpath : p path) (h : termFilter field path values = .ok f) : f.OnPaths p := by
  unfold termFilter at h
  split at h
  · cases h
  · cases h
    simpa only [Filter.OnPaths] using hpath
  · cases h
    simpa only [Filter.OnPaths] using hpath

/-- A condition without patterns tests the paths of its field. -/
theorem onPaths_plainFilter {f : Filter} (hfield : c.field.OnPaths p)
    (h : c.plainFilter = .ok f) : f.OnPaths p := by
  obtain ⟨hstorage, hexact⟩ := hfield
  unfold plainFilter at h
  split at h
  · exact onPaths_termFilter hstorage h
  · exact onPaths_termFilter hexact h
  · cases h
    simpa only [Filter.OnPaths] using hstorage
  · unfold rangeFilter at h
    split at h
    · cases h
    · split at h
      · cases h
      · cases h
        refine Filter.onPaths_all fun f hf => ?_
        obtain ⟨v, -, rfl⟩ := List.mem_map.1 hf
        simpa only [Filter.OnPaths] using hstorage

/-- The patterns of a condition are matched with the exact path of its field. -/
theorem onPaths_wildcardClauses {clauses : List Wildcard} (hfield : c.field.OnPaths p)
    (h : c.wildcardClauses = .ok clauses) : ∀ w ∈ clauses, p w.path := by
  unfold wildcardClauses at h
  split at h
  · cases h
  · split at h
    · cases h
    · cases h
      intro w hw
      obtain ⟨v, -, rfl⟩ := List.mem_map.1 hw
      exact hfield.2

/-- A condition is compiled into a fragment on the paths of its field. -/
theorem onPaths_compile {fragment : Fragment} (hfield : c.field.OnPaths p)
    (h : c.compile = .ok fragment) : fragment.OnPaths p := by
  unfold compile at h
  split at h
  · obtain ⟨clauses, hclauses, rfl⟩ := map_eq_ok.1 h
    split <;> exact onPaths_wildcardClauses hfield hclauses
  · obtain ⟨f, hf, rfl⟩ := map_eq_ok.1 h
    have hplain : f.OnPaths p := onPaths_plainFilter hfield hf
    unfold Fragment.OnPaths
    simp only
    split
    · exact Filter.onPaths_negate hplain
    · exact hplain

end Condition

/-- The filter for a version tests the storage paths of the fields that versions are found by. -/
theorem VersionRule.onPaths_filter {fields : VersionRule.Fields} (rule : VersionRule)
    (hproduct : p fields.product.storagePath) (hversion : p fields.version.storagePath)
    (hchannel : p fields.channel.storagePath) (hbuild : p fields.build.storagePath) :
    (rule.filter fields).OnPaths p := by
  have hchannels : ∀ f ∈ channelFilters fields.channel rule.channel, f.OnPaths p := by
    intro f hf
    unfold channelFilters at hf
    split at hf
    · cases hf
    · rw [List.mem_singleton.1 hf]
      simpa only [Filter.OnPaths] using hchannel
    · rw [List.mem_singleton.1 hf]
      exact Filter.onPaths_negate (by simpa only [Filter.OnPaths] using hchannel)
  have hbuilds : ∀ f ∈ buildFilters fields.build rule.buildIds, f.OnPaths p := by
    intro f hf
    unfold buildFilters at hf
    split at hf
    · cases hf
    · rw [List.mem_singleton.1 hf]
      simpa only [Filter.OnPaths] using hbuild
  unfold filter
  simp only [Filter.OnPaths, List.cons_append, List.nil_append, Filter.AllOnPaths]
  refine ⟨hproduct, hversion, Filter.allOnPaths_iff.2 fun f hf => ?_⟩
  rcases List.mem_append.1 hf with hf | hf
  · exact hchannels f hf
  · exact hbuilds f hf

namespace Query

section Fragments

variable {fragments : List Condition.Fragment} (h : ∀ fragment ∈ fragments, fragment.OnPaths p)

include h

/-- The filters among fragments are on their paths. -/
theorem onPaths_filtersOf : ∀ f ∈ filtersOf fragments, f.OnPaths p := by
  intro f hf
  obtain ⟨fragment, hmem, hsome⟩ := List.mem_filterMap.1 hf
  have hfragment := h fragment hmem
  cases fragment with
  | filter g =>
    cases hsome
    exact hfragment
  | wildcards _ => cases hsome
  | excluded _ => cases hsome

/-- The patterns among fragments are on their paths. -/
theorem onPaths_wildcardsOf : ∀ w ∈ wildcardsOf fragments, p w.path := by
  intro w hw
  obtain ⟨fragment, hmem, hw⟩ := List.mem_flatMap.1 hw
  have hfragment := h fragment hmem
  cases fragment with
  | wildcards _ => exact hfragment w hw
  | filter _ => cases hw
  | excluded _ => cases hw

/-- The excluded patterns among fragments are on their paths. -/
theorem onPaths_excludedOf : ∀ w ∈ excludedOf fragments, p w.path := by
  intro w hw
  obtain ⟨fragment, hmem, hw⟩ := List.mem_flatMap.1 hw
  have hfragment := h fragment hmem
  cases fragment with
  | excluded _ => exact hfragment w hw
  | filter _ => cases hw
  | wildcards _ => cases hw

end Fragments

section Catalog

variable {catalog : Catalog} (hfields : ∀ f ∈ catalog.fields, f.OnPaths p)

include hfields

/-- A property of the paths of all fields of a catalog is one of the paths of each field that is
found. -/
theorem onPaths_of_lookup {name : String} {f : Field} (hf : catalog.lookup name = some f) :
    f.OnPaths p :=
  hfields f (Catalog.lookup_eq_some_iff.1 hf).1

/-- The filters for versions are on the paths of the fields that versions are found by. -/
theorem onPaths_compileVersions {rules : List VersionRule} {filters : List Filter}
    (h : compileVersions catalog rules = .ok filters) : ∀ f ∈ filters, f.OnPaths p := by
  unfold compileVersions at h
  split at h
  · cases h
    simp
  · obtain ⟨fields, hfound, rfl⟩ := map_eq_ok.1 h
    obtain ⟨hproduct, hversion, hchannel, hbuild⟩ := VersionRule.Fields.areIn_of_find hfound
    intro f hf
    rw [List.mem_singleton.1 hf]
    refine Filter.onPaths_any fun g hg => ?_
    obtain ⟨rule, -, rfl⟩ := List.mem_map.1 hg
    exact rule.onPaths_filter (onPaths_of_lookup hfields hproduct).1
      (onPaths_of_lookup hfields hversion).1 (onPaths_of_lookup hfields hchannel).1
      (onPaths_of_lookup hfields hbuild).1

/-- Results are sorted by the exact paths of fields. -/
theorem onPaths_compileSort {keys : List SortKey} {orders : List SortOrder}
    (h : compileSort catalog keys = .ok orders) : ∀ order ∈ orders, p order.path := by
  intro order hmem
  obtain ⟨key, -, horder⟩ := (mem_mapM_ok h order).1 hmem
  split at horder
  · cases horder
  · next f hf =>
    cases horder
    exact (onPaths_of_lookup hfields hf).2

/-- Results are counted by the exact paths of fields. -/
theorem onPaths_compileFacets {maxTerms : Nat} {requested : Option Nat} {names : List String}
    {facets : List Facet} (h : compileFacets catalog maxTerms requested names = .ok facets) :
    ∀ facet ∈ facets, p facet.path := by
  intro facet hmem
  obtain ⟨f, hf, hpath, -⟩ := (facets_of_compileFacets h).2 facet hmem
  rw [hpath]
  exact (onPaths_of_lookup hfields hf).2

/-- A query is compiled from conditions on fields of a catalog into one on the paths of such
fields. -/
theorem onPaths_of_compile {maxTerms : Nat} {r : Request} {rules : List VersionRule} {q : Query}
    (hconditions : ∀ c ∈ r.conditions, c.field ∈ catalog.fields)
    (h : compile catalog maxTerms r rules = .ok q) : q.OnPaths p := by
  obtain ⟨fragments, versions, hfacets, hsort, hfragments, hversions, -, hfilters, hwild,
    hexcluded⟩ := parts_of_compile h
  have hfragment : ∀ fragment ∈ fragments, fragment.OnPaths p := by
    intro fragment hmem
    obtain ⟨c, hc, hcompile⟩ := (mem_mapM_ok hfragments fragment).1 hmem
    exact Condition.onPaths_compile (hfields _ (hconditions c hc)) hcompile
  refine ⟨?_, hwild ▸ onPaths_wildcardsOf hfragment, hexcluded ▸ onPaths_excludedOf hfragment,
    onPaths_compileFacets hfields hfacets, onPaths_compileSort hfields hsort⟩
  intro f hf
  rw [hfilters] at hf
  rcases List.mem_append.1 hf with hf | hf
  · exact onPaths_filtersOf hfragment f hf
  · exact onPaths_compileVersions hfields hversions f hf

end Catalog

end Query

namespace Request

variable {catalog : Catalog} {options : RequestOptions} {raw : RawRequest} {r : Request}

/-- The conditions of a request are on fields of the catalog. -/
theorem field_mem_of_ofRaw (h : ofRaw catalog options raw = .ok r) :
    ∀ c ∈ r.conditions, c.field ∈ catalog.fields := by
  refine conditions_induction (p := fun conditions => ∀ c ∈ conditions, c.field ∈ catalog.fields)
    h (by simp) ?_
  intro conditions f value hf hbefore c hc
  rcases Condition.field_of_mem_addRaw hc with hfield | ⟨old, hold, hfield⟩
  · rw [hfield]
    exact (Catalog.lookup_eq_some_iff.1 hf).1
  · rw [hfield]
    exact hbefore old hold

end Request

/-- The query of a prepared request has the paths of fields of the catalog. -/
theorem Service.onPaths_of_prepare {s : Service} {raw : RawRequest} {r : Request} {body : Json}
    (hfields : ∀ f ∈ s.catalog.fields, f.OnPaths p) (h : s.prepare raw = .ok (r, body)) :
    ∃ q : Query, body = q.toJson ∧ q.OnPaths p := by
  obtain ⟨request, q, hrequest, rfl, hcompile, rfl⟩ := parts_of_prepare h
  refine ⟨q, rfl, Query.onPaths_of_compile hfields ?_ hcompile⟩
  intro e he
  obtain ⟨c, hc, rfl, -⟩ := VersionRule.mem_remaining.1 he
  have hfield : (VersionRule.withoutKeys c).field = c.field := by
    unfold VersionRule.withoutKeys
    split <;> rfl
  rw [hfield]
  exact Request.field_mem_of_ofRaw hrequest c hc

end CrashQuery
