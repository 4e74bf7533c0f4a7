import CrashQuery.Proofs.Query.Compilation

/-!
# Negations in filters

Filters are made from single tests by conjunction, disjunction and the three builders `Filter.all`,
`Filter.any` and `Filter.negate`; all filters of a compiled query are made so
(`Query.isBuilt_of_compile`). In such a filter no negation stands directly under a negation
(`Filter.IsBuilt.not_within`), which makes `Filter.negate` its own inverse. What the builders mean
is said for every way to decide the single tests (`Filter.Passes`). A filter that is written as a
document is read back from it (`Filter.ofJson?_toJson`), so no two filters are written alike.
-/

namespace CrashQuery

open Outcome

namespace Filter

/-- Whether a filter is made from single tests by conjunction, disjunction and the builders. -/
inductive IsBuilt : Filter → Prop
  /-- A test for a value. -/
  | term (path : String) (value : Json) : IsBuilt (.term path value)
  /-- A test for one of several values. -/
  | terms (path : String) (values : List Json) : IsBuilt (.terms path values)
  /-- A test for a bound. -/
  | range (path : String) (bound : Bound) (value : Json) : IsBuilt (.range path bound value)
  /-- A test for absence. -/
  | missing (path : String) : IsBuilt (.missing path)
  /-- A conjunction. -/
  | and {filters : List Filter} (h : ∀ f ∈ filters, IsBuilt f) : IsBuilt (.and filters)
  /-- A disjunction. -/
  | or {filters : List Filter} (h : ∀ f ∈ filters, IsBuilt f) : IsBuilt (.or filters)
  /-- A conjunction that leaves a single filter as it is. -/
  | all {filters : List Filter} (h : ∀ f ∈ filters, IsBuilt f) : IsBuilt (all filters)
  /-- A disjunction that leaves a single filter as it is. -/
  | any {filters : List Filter} (h : ∀ f ∈ filters, IsBuilt f) : IsBuilt (any filters)
  /-- A complement. -/
  | negate {f : Filter} (h : IsBuilt f) : IsBuilt f.negate

/-- Whether a filter occurs in a filter. -/
inductive Within (g : Filter) : Filter → Prop
  /-- It occurs in itself. -/
  | self : Within g g
  /-- It occurs in a part of a conjunction. -/
  | and {filters : List Filter} {f : Filter} (hmem : f ∈ filters) (h : Within g f) :
    Within g (.and filters)
  /-- It occurs in a part of a disjunction. -/
  | or {filters : List Filter} {f : Filter} (hmem : f ∈ filters) (h : Within g f) :
    Within g (.or filters)
  /-- It occurs under a negation. -/
  | not {f : Filter} (h : Within g f) : Within g (.not f)

/-- The complement of a filter is what the filter negates, or its negation. -/
theorem negate_cases (f : Filter) :
    (∃ inner, f = .not inner ∧ f.negate = inner) ∨
      ((∀ inner, f ≠ .not inner) ∧ f.negate = .not f) := by
  cases f <;> simp [Filter.negate]

/-- A conjunction is the single filter, or a list of filters under one node. -/
theorem all_cases (filters : List Filter) :
    (∃ f, filters = [f] ∧ all filters = f) ∨ all filters = .and filters := by
  unfold Filter.all
  split <;> simp

/-- A disjunction is the single filter, or a list of filters under one node. -/
theorem any_cases (filters : List Filter) :
    (∃ f, filters = [f] ∧ any filters = f) ∨ any filters = .or filters := by
  unfold Filter.any
  split <;> simp

/-- No negation stands directly under a negation in a filter that is made by the builders. -/
theorem IsBuilt.not_within {f : Filter} (h : IsBuilt f) (g : Filter) :
    ¬ Within (.not (.not g)) f := by
  induction h with
  | term | terms | range | missing => nofun
  | and _ ih =>
    rintro (_ | ⟨hmem, hwithin⟩)
    exact ih _ hmem hwithin
  | or _ ih =>
    rintro (_ | _ | ⟨hmem, hwithin⟩)
    exact ih _ hmem hwithin
  | @all filters _ ih =>
    intro hwithin
    rcases all_cases filters with ⟨f, rfl, heq⟩ | heq
    · rw [heq] at hwithin
      exact ih f (List.mem_singleton_self f) hwithin
    · rw [heq] at hwithin
      cases hwithin with
      | and hmem hwithin => exact ih _ hmem hwithin
  | @any filters _ ih =>
    intro hwithin
    rcases any_cases filters with ⟨f, rfl, heq⟩ | heq
    · rw [heq] at hwithin
      exact ih f (List.mem_singleton_self f) hwithin
    · rw [heq] at hwithin
      cases hwithin with
      | or hmem hwithin => exact ih _ hmem hwithin
  | @negate f _ ih =>
    intro hwithin
    rcases negate_cases f with ⟨inner, rfl, heq⟩ | ⟨hne, heq⟩
    · rw [heq] at hwithin
      exact ih (.not hwithin)
    · rw [heq] at hwithin
      cases hwithin with
      | self => exact hne g rfl
      | not hwithin => exact ih hwithin

/-- The complement of the complement is the filter, if the filter does not negate a negation. -/
theorem negate_negate {f : Filter} (h : ∀ g, f ≠ .not (.not g)) : f.negate.negate = f := by
  rcases negate_cases f with ⟨inner, rfl, heq⟩ | ⟨-, heq⟩
  · rcases negate_cases inner with ⟨g, rfl, -⟩ | ⟨-, hinner⟩
    · exact absurd rfl (h g)
    · rw [heq, hinner]
  · rw [heq, Filter.negate]

section Passes

variable (test : Filter → Prop)

mutual

/-- Whether a filter accepts when its single tests are decided by `test`. -/
def Passes : Filter → Prop
  | .term path value => test (.term path value)
  | .terms path values => test (.terms path values)
  | .range path bound value => test (.range path bound value)
  | .missing path => test (.missing path)
  | .and filters => AllPass filters
  | .or filters => SomePass filters
  | .not f => ¬ Passes f

/-- Whether all filters accept. -/
def AllPass : List Filter → Prop
  | [] => True
  | f :: rest => Passes f ∧ AllPass rest

/-- Whether some filter accepts. -/
def SomePass : List Filter → Prop
  | [] => False
  | f :: rest => Passes f ∨ SomePass rest

end

/-- A list of filters all accept exactly when each of them does. -/
theorem allPass_iff (filters : List Filter) :
    AllPass test filters ↔ ∀ f ∈ filters, f.Passes test := by
  induction filters with
  | nil => simp [AllPass]
  | cons f rest ih => simp [AllPass, ih]

/-- Some filter of a list accepts exactly when one of them does. -/
theorem somePass_iff (filters : List Filter) :
    SomePass test filters ↔ ∃ f ∈ filters, f.Passes test := by
  induction filters with
  | nil => simp [SomePass]
  | cons f rest ih => simp [SomePass, ih]

/-- The complement accepts exactly what the filter does not. -/
theorem passes_negate (f : Filter) : f.negate.Passes test ↔ ¬ f.Passes test := by
  rcases negate_cases f with ⟨inner, rfl, heq⟩ | ⟨-, heq⟩
  · rw [heq, Passes, not_not]
  · rw [heq, Passes]

/-- A conjunction accepts exactly what all its filters accept. -/
theorem passes_all (filters : List Filter) :
    (all filters).Passes test ↔ ∀ f ∈ filters, f.Passes test := by
  rcases all_cases filters with ⟨f, rfl, heq⟩ | heq
  · rw [heq, List.forall_mem_singleton]
  · rw [heq, Passes, allPass_iff]

/-- A disjunction accepts exactly what one of its filters accepts. -/
theorem passes_any (filters : List Filter) :
    (any filters).Passes test ↔ ∃ f ∈ filters, f.Passes test := by
  rcases any_cases filters with ⟨f, rfl, heq⟩ | heq
  · simp [heq]
  · rw [heq, Passes, somePass_iff]

mutual

/-- The meaning of a filter is one of these, in which the meaning decides the single tests. -/
theorem passes_holds_iff {α : Type} (m : Meaning α) (d : α) :
    ∀ f : Filter, f.Passes (Holds m d) ↔ f.Holds m d
  | .term _ _ => by rw [Passes]
  | .terms _ _ => by rw [Passes]
  | .range _ _ _ => by rw [Passes]
  | .missing _ => by rw [Passes]
  | .and filters => by
    rw [Passes, Holds]
    exact allPass_holds_iff m d filters
  | .or filters => by
    rw [Passes, Holds]
    exact somePass_holds_iff m d filters
  | .not f => by
    rw [Passes, Holds]
    exact not_congr (passes_holds_iff m d f)

/-- So it is with all of some filters. -/
theorem allPass_holds_iff {α : Type} (m : Meaning α) (d : α) :
    ∀ filters : List Filter, AllPass (Holds m d) filters ↔ AllHold m d filters
  | [] => by rw [AllPass, AllHold]
  | f :: rest => by
    rw [AllPass, AllHold]
    exact and_congr (passes_holds_iff m d f) (allPass_holds_iff m d rest)

/-- So it is with one of some filters. -/
theorem somePass_holds_iff {α : Type} (m : Meaning α) (d : α) :
    ∀ filters : List Filter, SomePass (Holds m d) filters ↔ SomeHolds m d filters
  | [] => by rw [SomePass, SomeHolds]
  | f :: rest => by
    rw [SomePass, SomeHolds]
    exact or_congr (passes_holds_iff m d f) (somePass_holds_iff m d rest)

end

end Passes

mutual

/-- The filter that a document writes. -/
def ofJson? : Json → Option Filter
  | .obj [("term", .obj [(path, value)])] => some (.term path value)
  | .obj [("terms", .obj [(path, .arr values)])] => some (.terms path values)
  | .obj [("range", .obj [(path, .obj [(bound, value)])])] => some (.range path ⟨bound⟩ value)
  | .obj [("missing", .obj [("field", .str path)])] => some (.missing path)
  | .obj [("and", .arr clauses)] => (ofJsonAll? clauses).map .and
  | .obj [("or", .arr clauses)] => (ofJsonAll? clauses).map .or
  | .obj [("not", .obj [("filter", clause)])] => (ofJson? clause).map .not
  | _ => none

/-- The filters that documents write. -/
def ofJsonAll? : List Json → Option (List Filter)
  | [] => some []
  | clause :: rest => (ofJson? clause).bind fun f => (ofJsonAll? rest).map (f :: ·)

end

mutual

/-- A filter is read back from the document that it is written as. -/
theorem ofJson?_toJson : ∀ f : Filter, ofJson? f.toJson = some f
  | .term _ _ => by simp [toJson, ofJson?]
  | .terms _ _ => by simp [toJson, ofJson?]
  | .range _ _ _ => by simp [toJson, ofJson?]
  | .missing _ => by simp [toJson, ofJson?]
  | .and filters => by simp [toJson, ofJson?, ofJsonAll?_toJsonAll filters]
  | .or filters => by simp [toJson, ofJson?, ofJsonAll?_toJsonAll filters]
  | .not f => by simp [toJson, ofJson?, ofJson?_toJson f]

/-- Filters are read back from the documents that they are written as. -/
theorem ofJsonAll?_toJsonAll :
    ∀ filters : List Filter, ofJsonAll? (toJsonAll filters) = some filters
  | [] => by simp [toJsonAll, ofJsonAll?]
  | f :: rest => by simp [toJsonAll, ofJsonAll?, ofJson?_toJson f, ofJsonAll?_toJsonAll rest]

end

/-- No two filters are written alike. -/
theorem toJson_injective : Function.Injective toJson := fun f g h => by
  have hread := congrArg ofJson? h
  rwa [ofJson?_toJson, ofJson?_toJson, Option.some.injEq] at hread

/-- No two lists of filters are written alike. -/
theorem toJsonAll_injective : Function.Injective toJsonAll := fun fs gs h => by
  have hread := congrArg ofJsonAll? h
  rwa [ofJsonAll?_toJsonAll, ofJsonAll?_toJsonAll, Option.some.injEq] at hread

end Filter

namespace Condition

variable {c : Condition}

/-- A test for one of several values is built. -/
theorem isBuilt_termFilter {field : Field} {path : String} {values : List String} {f : Filter}
    (h : termFilter field path values = .ok f) : f.IsBuilt := by
  unfold termFilter at h
  split at h
  · cases h
  · cases h
    exact .term _ _
  · cases h
    exact .terms _ _

/-- The test of a condition without wildcards is built. -/
theorem isBuilt_plainFilter {f : Filter} (h : c.plainFilter = .ok f) : f.IsBuilt := by
  unfold plainFilter at h
  split at h
  · exact isBuilt_termFilter h
  · exact isBuilt_termFilter h
  · cases h
    exact .missing _
  · unfold rangeFilter at h
    split at h
    · cases h
    · split at h
      · cases h
      · cases h
        refine .all fun f hf => ?_
        obtain ⟨v, -, rfl⟩ := List.mem_map.1 hf
        exact .range _ _ _

/-- The filter that a condition is compiled into is built. -/
theorem isBuilt_compile {f : Filter} (h : c.compile = .ok (.filter f)) : f.IsBuilt := by
  unfold compile at h
  split at h
  · obtain ⟨clauses, -, heq⟩ := map_eq_ok.1 h
    split at heq <;> cases heq
  · obtain ⟨plain, hplain, heq⟩ := map_eq_ok.1 h
    have hbuilt := isBuilt_plainFilter hplain
    cases heq
    split
    · exact .negate hbuilt
    · exact hbuilt

end Condition

/-- The filter for a version is built. -/
theorem VersionRule.isBuilt_filter (fields : VersionRule.Fields) (rule : VersionRule) :
    (rule.filter fields).IsBuilt := by
  refine .and fun f hf => ?_
  rcases List.mem_append.1 hf with hf | hf
  · rcases List.mem_append.1 hf with hf | hf
    · simp only [List.mem_cons, List.not_mem_nil, or_false] at hf
      rcases hf with rfl | rfl <;> exact .term _ _
    · unfold channelFilters at hf
      split at hf
      · cases hf
      · rw [List.mem_singleton.1 hf]
        exact .term _ _
      · rw [List.mem_singleton.1 hf]
        exact .negate (.terms _ _)
  · unfold buildFilters at hf
    split at hf
    · cases hf
    · rw [List.mem_singleton.1 hf]
      exact .terms _ _

namespace Query

/-- All filters of a compiled query are built. -/
theorem isBuilt_of_compile {catalog : Catalog} {maxTerms : Nat} {request : Request}
    {rules : List VersionRule} {q : Query} (h : compile catalog maxTerms request rules = .ok q) :
    ∀ f ∈ q.filters, f.IsBuilt := by
  obtain ⟨fragments, versions, -, -, hfragments, hversions, -, hfilters, -, -⟩ := parts_of_compile h
  intro f hf
  rw [hfilters] at hf
  rcases List.mem_append.1 hf with hf | hf
  · obtain ⟨fragment, hmem, hsome⟩ := List.mem_filterMap.1 hf
    obtain ⟨c, -, hcompile⟩ := (mem_mapM_ok hfragments fragment).1 hmem
    cases fragment with
    | filter g =>
      cases hsome
      exact Condition.isBuilt_compile hcompile
    | wildcards _ => cases hsome
    | excluded _ => cases hsome
  · unfold compileVersions at hversions
    split at hversions
    · cases hversions
      cases hf
    · obtain ⟨fields, -, rfl⟩ := map_eq_ok.1 hversions
      rw [List.mem_singleton.1 hf]
      refine .any fun g hg => ?_
      obtain ⟨rule, -, rfl⟩ := List.mem_map.1 hg
      exact VersionRule.isBuilt_filter fields rule

/-- No two lists of filters are written alike in the body of a query. -/
theorem filterJson_injective : Function.Injective filterJson := fun fs gs h => by
  unfold filterJson matchAll at h
  cases fs with
  | nil =>
    cases gs with
    | nil => rfl
    | cons g gs => simp at h
  | cons f fs =>
    cases gs with
    | nil => simp at h
    | cons g gs => exact Filter.toJsonAll_injective (by simpa using h)

end Query

namespace Filter

/-- In a filter that is made by the builders no negation stands directly under a negation, and the
complement of its complement is the filter itself; all filters of a compiled query are made so.
Whatever the single tests mean, the complement accepts what the filter does not, a conjunction what
all its filters accept, and a disjunction what one of them accepts. No two filters are written
alike, and no two lists of filters in the body of a query. -/
theorem negations_apart :
    (∀ f : Filter, f.IsBuilt → (∀ g, ¬ Within (.not (.not g)) f) ∧ f.negate.negate = f) ∧
      (∀ (catalog : Catalog) (maxTerms : Nat) (request : Request) (rules : List VersionRule)
        (q : Query), Query.compile catalog maxTerms request rules = .ok q →
          ∀ f ∈ q.filters, f.IsBuilt) ∧
      (∀ test : Filter → Prop,
        (∀ f : Filter, f.negate.Passes test ↔ ¬ f.Passes test) ∧
        (∀ filters, (all filters).Passes test ↔ ∀ f ∈ filters, f.Passes test) ∧
        ∀ filters, (any filters).Passes test ↔ ∃ f ∈ filters, f.Passes test) ∧
      Function.Injective toJson ∧ Function.Injective Query.filterJson := by
  refine ⟨fun f hf => ⟨hf.not_within, negate_negate fun g heq => ?_⟩,
    fun _ _ _ _ _ => Query.isBuilt_of_compile,
    fun test => ⟨passes_negate test, passes_all test, passes_any test⟩,
    toJson_injective, Query.filterJson_injective⟩
  exact hf.not_within g (heq ▸ .self)

/-- A negation that is the only part of a conjunction is taken back. -/
example (path : String) : (all [negate (.missing path)]).negate = .missing path := rfl

end Filter

end CrashQuery
