import CrashQuery.Json.Value

/-!
# Filters

A filter is a tree of tests on single fields joined by conjunction, disjunction and negation.
`Filter.Holds` says which reports a filter accepts when the tests are given a meaning. Joining a
single filter gives that filter, and negating a negation gives what is negated; `holds_negate`,
`holds_all` and `holds_any` say that the meaning is the expected one.
-/

namespace CrashQuery

/-- On which side of a bound a value must lie, as the word that filters have for it. -/
structure Bound where
  /-- The word. -/
  name : String
  deriving DecidableEq

namespace Bound

/-- Above it. -/
def above : Bound := ⟨"gt"⟩

/-- Above it or on it. -/
def atLeast : Bound := ⟨"gte"⟩

/-- Below it. -/
def below : Bound := ⟨"lt"⟩

/-- Below it or on it. -/
def atMost : Bound := ⟨"lte"⟩

/-- Every bound that requests give. -/
def all : List Bound := [above, atLeast, below, atMost]

/-- The bound of a request with the given word. -/
def ofName? (text : String) : Option Bound := all.find? fun b => b.name == text

end Bound

/-- A test on stored reports. -/
inductive Filter where
  /-- The value at the path is the given one. -/
  | term (path : String) (value : Json)
  /-- The value at the path is one of the given ones. -/
  | terms (path : String) (values : List Json)
  /-- The value at the path lies on one side of the bound. -/
  | range (path : String) (bound : Bound) (value : Json)
  /-- There is no value at the path. -/
  | missing (path : String)
  /-- All of the filters accept. -/
  | and (filters : List Filter)
  /-- One of the filters accepts. -/
  | or (filters : List Filter)
  /-- The filter does not accept. -/
  | not (filter : Filter)

/-- What the single tests mean for reports of type `α`. -/
structure Meaning (α : Type) where
  /-- The value at the path is the given one. -/
  term : String → Json → α → Prop
  /-- The value at the path lies on one side of the bound. -/
  range : String → Bound → Json → α → Prop
  /-- There is no value at the path. -/
  missing : String → α → Prop
  /-- The value at the path matches the pattern. -/
  wildcard : String → String → α → Prop

namespace Filter

mutual

/-- Whether the filter accepts a report. -/
def Holds {α : Type} (m : Meaning α) (d : α) : Filter → Prop
  | .term path value => m.term path value d
  | .terms path values => ∃ v ∈ values, m.term path v d
  | .range path bound value => m.range path bound value d
  | .missing path => m.missing path d
  | .and filters => AllHold m d filters
  | .or filters => SomeHolds m d filters
  | .not filter => ¬ Holds m d filter

/-- Whether all filters accept a report. -/
def AllHold {α : Type} (m : Meaning α) (d : α) : List Filter → Prop
  | [] => True
  | f :: rest => Holds m d f ∧ AllHold m d rest

/-- Whether some filter accepts a report. -/
def SomeHolds {α : Type} (m : Meaning α) (d : α) : List Filter → Prop
  | [] => False
  | f :: rest => Holds m d f ∨ SomeHolds m d rest

end

/-- The complement of a filter. -/
def negate : Filter → Filter
  | .not inner => inner
  | f => .not f

/-- The conjunction of filters; a single one is its own conjunction. -/
def all : List Filter → Filter
  | [f] => f
  | filters => .and filters

/-- The disjunction of filters; a single one is its own disjunction. -/
def any : List Filter → Filter
  | [f] => f
  | filters => .or filters

mutual

/-- The filter as it is sent to the backend. -/
def toJson : Filter → Json
  | .term path value => .obj [("term", .obj [(path, value)])]
  | .terms path values => .obj [("terms", .obj [(path, .arr values)])]
  | .range path bound value => .obj [("range", .obj [(path, .obj [(bound.name, value)])])]
  | .missing path => .obj [("missing", .obj [("field", .str path)])]
  | .and filters => .obj [("and", .arr (toJsonAll filters))]
  | .or filters => .obj [("or", .arr (toJsonAll filters))]
  | .not filter => .obj [("not", .obj [("filter", toJson filter)])]

/-- The filters as they are sent to the backend. -/
def toJsonAll : List Filter → List Json
  | [] => []
  | f :: rest => toJson f :: toJsonAll rest

end

/-- A conjunction accepts what each of its filters accepts. -/
theorem allHold_iff {α : Type} (m : Meaning α) (d : α) (filters : List Filter) :
    AllHold m d filters ↔ ∀ f ∈ filters, Holds m d f := by
  induction filters with
  | nil => simp [AllHold]
  | cons f rest ih => simp [AllHold, ih]

/-- A disjunction accepts what one of its filters accepts. -/
theorem someHolds_iff {α : Type} (m : Meaning α) (d : α) (filters : List Filter) :
    SomeHolds m d filters ↔ ∃ f ∈ filters, Holds m d f := by
  induction filters with
  | nil => simp [SomeHolds]
  | cons f rest ih => simp [SomeHolds, ih]

/-- The complement accepts what the filter does not. -/
theorem holds_negate {α : Type} (m : Meaning α) (d : α) (f : Filter) :
    Holds m d f.negate ↔ ¬ Holds m d f := by
  cases f <;> simp [negate, Holds, Classical.not_not]

/-- `all` accepts what each of the filters accepts. -/
theorem holds_all {α : Type} (m : Meaning α) (d : α) (filters : List Filter) :
    Holds m d (all filters) ↔ ∀ f ∈ filters, Holds m d f := by
  unfold all
  split
  · simp
  · simp [Holds, allHold_iff]

/-- `any` accepts what one of the filters accepts. -/
theorem holds_any {α : Type} (m : Meaning α) (d : α) (filters : List Filter) :
    Holds m d (any filters) ↔ ∃ f ∈ filters, Holds m d f := by
  unfold any
  split
  · simp
  · simp [Holds, someHolds_iff]

end Filter

end CrashQuery
