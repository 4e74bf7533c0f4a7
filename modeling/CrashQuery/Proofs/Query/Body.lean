import CrashQuery.Query
import Mathlib

/-!
# What a query body selects

The backend receives a query as a JSON document. `Clause.Accepts` reads a clause of such a document
as a test on reports, when the tests on single paths are given a meaning, and `Body.Selects` reads
the part of a body that says which reports are wanted. `Body.selects_toJson` shows that writing a
query as a body keeps what it asks for: its filters, the clauses of which one must match, and those
that must not match.
-/

namespace CrashQuery

variable {α : Type} (m : Meaning α) (d : α)

namespace Clause

/-- How many of the clauses under `should` must accept: as many as the fields say, and otherwise
one, unless there are other clauses that must accept. -/
def minimumOf (fields : List (String × Json)) : Nat :=
  match (Entries.find? "minimum_should_match" fields).bind Json.nat? with
  | some n => n
  | none => if Entries.has "must" fields then 0 else 1

mutual

/-- Whether a clause accepts a report. A document that is no clause accepts nothing. -/
def Accepts : Json → Prop
  | .obj [("match_all", .obj [])] => True
  | .obj [("term", .obj [(path, value)])] => m.term path value d
  | .obj [("terms", .obj [(path, .arr values)])] => ∃ v ∈ values, m.term path v d
  | .obj [("range", .obj [(path, .obj [(bound, value)])])] => m.range path ⟨bound⟩ value d
  | .obj [("missing", .obj [("field", .str path)])] => m.missing path d
  | .obj [("wildcard", .obj [(path, .str pattern)])] => m.wildcard path pattern d
  | .obj [("and", .arr clauses)] => AllAccept clauses
  | .obj [("or", .arr clauses)] => AtLeast 1 clauses
  | .obj [("not", .obj [("filter", clause)])] => ¬ Accepts clause
  | .obj [("bool", .obj fields)] => FieldsAccept (minimumOf fields) fields
  | _ => False

/-- Whether all clauses accept a report. -/
def AllAccept : List Json → Prop
  | [] => True
  | clause :: rest => Accepts clause ∧ AllAccept rest

/-- Whether so many of the clauses accept a report. -/
def AtLeast : Nat → List Json → Prop
  | 0, _ => True
  | _ + 1, [] => False
  | n + 1, clause :: rest => (Accepts clause ∧ AtLeast n rest) ∨ AtLeast (n + 1) rest

/-- Whether the fields of a joint clause accept a report. -/
def FieldsAccept (minimum : Nat) : List (String × Json) → Prop
  | [] => True
  | ("must", .arr clauses) :: rest => AllAccept clauses ∧ FieldsAccept minimum rest
  | ("must_not", .arr clauses) :: rest => ¬ AtLeast 1 clauses ∧ FieldsAccept minimum rest
  | ("should", .arr clauses) :: rest => AtLeast minimum clauses ∧ FieldsAccept minimum rest
  | ("minimum_should_match", _) :: rest => FieldsAccept minimum rest
  | _ => False

end

/-- At least one clause accepts exactly when some clause does. -/
theorem atLeast_one_iff (clauses : List Json) :
    AtLeast m d 1 clauses ↔ ∃ c ∈ clauses, Accepts m d c := by
  induction clauses with
  | nil => simp [AtLeast]
  | cons c rest ih => simp [AtLeast, ih]

mutual

/-- A filter that is written as a clause accepts what it accepted. -/
theorem accepts_filterToJson : ∀ f : Filter, Accepts m d f.toJson ↔ f.Holds m d
  | .term _ _ => by simp [Filter.toJson, Accepts, Filter.Holds]
  | .terms _ _ => by simp [Filter.toJson, Accepts, Filter.Holds]
  | .range _ _ _ => by simp [Filter.toJson, Accepts, Filter.Holds]
  | .missing _ => by simp [Filter.toJson, Accepts, Filter.Holds]
  | .and filters => by
    simp only [Filter.toJson, Accepts, Filter.Holds]
    exact allAccept_toJsonAll filters
  | .or filters => by
    simp only [Filter.toJson, Accepts, Filter.Holds]
    exact atLeast_one_toJsonAll filters
  | .not f => by
    simp only [Filter.toJson, Accepts, Filter.Holds]
    exact not_congr (accepts_filterToJson f)

/-- Filters that are written as clauses all accept what all of them accepted. -/
theorem allAccept_toJsonAll :
    ∀ filters : List Filter, AllAccept m d (Filter.toJsonAll filters) ↔ Filter.AllHold m d filters
  | [] => by simp [Filter.toJsonAll, AllAccept, Filter.AllHold]
  | f :: rest => by
    simp only [Filter.toJsonAll, AllAccept, Filter.AllHold]
    exact and_congr (accepts_filterToJson f) (allAccept_toJsonAll rest)

/-- Of filters that are written as clauses one accepts what one of them accepted. -/
theorem atLeast_one_toJsonAll :
    ∀ filters : List Filter, AtLeast m d 1 (Filter.toJsonAll filters) ↔ Filter.SomeHolds m d filters
  | [] => by simp [Filter.toJsonAll, AtLeast, Filter.SomeHolds]
  | f :: rest => by
    simp only [Filter.toJsonAll, AtLeast, Filter.SomeHolds, and_true]
    exact or_congr (accepts_filterToJson f) (atLeast_one_toJsonAll rest)

end

/-- A wildcard clause accepts what matches its pattern. -/
theorem accepts_wildcardToJson (w : Wildcard) :
    Accepts m d w.toJson ↔ m.wildcard w.path w.pattern d := by
  simp [Wildcard.toJson, Accepts]

/-- Some wildcard clause accepts exactly when some pattern matches. -/
theorem atLeast_one_wildcards (ws : List Wildcard) :
    AtLeast m d 1 (ws.map Wildcard.toJson) ↔ ∃ w ∈ ws, m.wildcard w.path w.pattern d := by
  rw [atLeast_one_iff]
  constructor
  · rintro ⟨c, hc, haccepts⟩
    obtain ⟨w, hw, rfl⟩ := List.mem_map.1 hc
    exact ⟨w, hw, (accepts_wildcardToJson m d w).1 haccepts⟩
  · rintro ⟨w, hw, hmatches⟩
    exact ⟨w.toJson, List.mem_map_of_mem hw, (accepts_wildcardToJson m d w).2 hmatches⟩

end Clause

namespace Query

/-- Whether a query asks for a report: all its filters hold, none of the excluded patterns matches,
and if there are other patterns, one of them matches. -/
def Wants (q : Query) : Prop :=
  (∀ f ∈ q.filters, f.Holds m d) ∧ (∀ w ∈ q.excluded, ¬ m.wildcard w.path w.pattern d) ∧
    (q.wildcards ≠ [] → ∃ w ∈ q.wildcards, m.wildcard w.path w.pattern d)

/-- The filters of a body accept what all filters accept. -/
theorem accepts_filterJson (filters : List Filter) :
    Clause.Accepts m d (filterJson filters) ↔ ∀ f ∈ filters, f.Holds m d := by
  unfold filterJson
  cases filters with
  | nil => simp [matchAll, Clause.Accepts]
  | cons f rest =>
    simp only [List.isEmpty_cons, Bool.false_eq_true, if_false, Clause.Accepts]
    rw [Clause.allAccept_toJsonAll, Filter.allHold_iff]

/-- The patterns of a body accept what matches one of the patterns, if there are any, and none of
the excluded ones. -/
theorem accepts_clausesJson (wildcards excluded : List Wildcard) :
    Clause.Accepts m d (clausesJson wildcards excluded) ↔
      (∀ w ∈ excluded, ¬ m.wildcard w.path w.pattern d) ∧
        (wildcards ≠ [] → ∃ w ∈ wildcards, m.wildcard w.path w.pattern d) := by
  -- The fields of the joint clause depend on which of the two lists are empty.
  cases wildcards with
  | nil =>
    cases excluded with
    | nil => simp [clausesJson, matchAll, Clause.Accepts]
    | cons x xs =>
      have hfields : clausesJson [] (x :: xs) = .obj [("bool", .obj
          [("must", .arr [matchAll]), ("must_not", .arr ((x :: xs).map Wildcard.toJson))])] := by cbv
      have hne := Clause.atLeast_one_wildcards m d (x :: xs)
      rw [hfields]
      simp only [Clause.Accepts, Clause.FieldsAccept, Clause.AllAccept, matchAll, hne]
      simp
  | cons w ws =>
    have hsome := Clause.atLeast_one_wildcards m d (w :: ws)
    cases excluded with
    | nil =>
      have hfields : clausesJson (w :: ws) [] = .obj [("bool", .obj
          [("minimum_should_match", .nat 1),
            ("should", .arr ((w :: ws).map Wildcard.toJson))])] := by cbv
      have hone : Clause.minimumOf [("minimum_should_match", .nat 1),
          ("should", .arr ((w :: ws).map Wildcard.toJson))] = 1 := rfl
      rw [hfields]
      simp only [Clause.Accepts, Clause.FieldsAccept, hone, hsome]
      simp
    | cons x xs =>
      have hfields : clausesJson (w :: ws) (x :: xs) = .obj [("bool", .obj
          [("minimum_should_match", .nat 1), ("must_not", .arr ((x :: xs).map Wildcard.toJson)),
            ("should", .arr ((w :: ws).map Wildcard.toJson))])] := by cbv
      have hone : Clause.minimumOf [("minimum_should_match", .nat 1),
          ("must_not", .arr ((x :: xs).map Wildcard.toJson)),
          ("should", .arr ((w :: ws).map Wildcard.toJson))] = 1 := rfl
      have hne := Clause.atLeast_one_wildcards m d (x :: xs)
      rw [hfields]
      simp only [Clause.Accepts, Clause.FieldsAccept, hone, hsome, hne]
      simp

end Query

namespace Body

/-- Whether a body selects a report: the filter and the patterns of its filtered query accept. -/
def Selects (body : Json) : Prop :=
  let filtered := (body.field "query").field "filtered"
  Clause.Accepts m d (filtered.field "filter") ∧ Clause.Accepts m d (filtered.field "query")

/-- The filtered query of a body; paging, counts and sort order stand beside it. -/
theorem filtered_toJson (q : Query) :
    (q.toJson.field "query").field "filtered" = Json.object
      [("query", Query.clausesJson q.wildcards q.excluded),
        ("filter", Query.filterJson q.filters)] := by
  unfold Query.toJson
  by_cases hf : q.facets.isEmpty <;> by_cases hs : q.sort.isEmpty <;>
    simp [hf, hs, Json.object, Json.field, Json.get?, Entries.ofList, Entries.find?_insert,
      Entries.find?]

/-- The filter of a body is that of its query. -/
theorem filter_toJson (q : Query) :
    ((q.toJson.field "query").field "filtered").field "filter" = Query.filterJson q.filters := by
  rw [filtered_toJson]
  simp [Json.object, Json.field, Json.get?, Entries.ofList, Entries.find?_insert]

/-- A body selects the reports that its query asks for. -/
theorem selects_toJson (q : Query) : Selects m d q.toJson ↔ q.Wants m d := by
  have hquery : ((q.toJson.field "query").field "filtered").field "query" =
      Query.clausesJson q.wildcards q.excluded := by
    rw [filtered_toJson]
    simp [Json.object, Json.field, Json.get?, Entries.ofList, Entries.find?_insert]
  simp only [Selects, Query.Wants]
  rw [filter_toJson, hquery, Query.accepts_filterJson, Query.accepts_clausesJson]

end Body

end CrashQuery
