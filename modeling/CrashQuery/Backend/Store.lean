import CrashQuery.Backend.Basic
import CrashQuery.Entries
import CrashQuery.Json.Writer
import CrashQuery.Text.Split

/-!
# A backend in memory

A store keeps the documents of each index and serves all of them: filters and wildcards are not
looked at, but paging and counting are done. A call on an index that does not exist fails with a
report of the first one.
-/

namespace CrashQuery

open Text

/-- Indices with their documents and mappings. -/
structure Store where
  /-- The documents of each index. -/
  documents : Entries (List Json) := []
  /-- The mappings of the indices that have one. -/
  mappings : Entries Json := []
  /-- The milliseconds that every call takes. -/
  latency : Nat := 0
  /-- The failures of the next calls. -/
  failures : List BackendFault := []

namespace Store

/-- Creates an index without documents, unless it exists. -/
def withIndex (index : String) (s : Store) : Store :=
  { s with documents := Entries.update index [] id s.documents }

/-- Appends documents to an index. -/
def withDocuments (index : String) (docs : List Json) (s : Store) : Store :=
  { s with documents := Entries.update index [] (· ++ docs) s.documents }

/-- Sets the mapping of an index, which is created unless it exists. -/
def withMapping (index : String) (mapping : Json) (s : Store) : Store :=
  { s.withIndex index with mappings := Entries.insert index mapping s.mappings }

/-- Lets a call fail behind the failures that are waiting. -/
def failNext (fault : BackendFault) (s : Store) : Store :=
  { s with failures := s.failures ++ [fault] }

/-- Whether the index exists. -/
def hasIndex (s : Store) (index : String) : Bool := Entries.has index s.documents

/-- The failure of a call on a missing index. -/
def missingFault (index : String) : BackendFault :=
  .status 404 <| Json.render <| Json.object
    [("error", .str ("IndexMissingException[[" ++ index ++ "] missing]")), ("status", .nat 404)]

/-- The value at a dotted path; a last step to the untokenized sub-field is not taken. -/
def valueAt (path : String) (doc : Json) : Option Json :=
  -- The sub-field holds what its parent holds, so a step to it is cut off.
  let steps := (dropEnd? ['.', 'f', 'u', 'l', 'l'] path.toList).getD path.toList
  (splitAll '.' steps).foldl (fun node step => node.bind (Json.get? (String.ofList step)))
    (some doc)

/-- A value as it is counted: a string as it is, and any other value but null as its text. -/
def termOf : Json → Option String
  | .str s => some s
  | .null => none
  | value => some value.render

/-- The values at a path that are counted. -/
def termsAt (path : String) (docs : List Json) : List String :=
  docs.filterMap fun doc => (valueAt path doc).bind termOf

/-- How often each term occurs. -/
def counts (terms : List String) : Entries Nat :=
  terms.foldl (fun m t => Entries.update t 0 (· + 1) m) []

/-- Whether a count stands before another: the greater first, equal ones by their terms. -/
def isBefore (a b : String × Nat) : Bool :=
  decide (b.2 < a.2 ∨ (a.2 = b.2 ∧ (a.1 < b.1 ∨ a.1 = b.1)))

/-- The most frequent terms at a path. -/
def topTerms (path : String) (limit : Nat) (docs : List Json) : List (String × Nat) :=
  ((counts (termsAt path docs)).mergeSort isBefore).take limit

/-- The most frequent terms at a path, as they are answered. -/
def termCounts (path : String) (limit : Nat) (docs : List Json) : Json :=
  let top := topTerms path limit docs
  Json.object
    [("_type", .str "terms"), ("total", .nat top.length),
      ("terms", .arr (top.map fun t =>
        Json.object [("term", .str t.1), ("count", .nat t.2)]))]

/-- The documents of the indices, in the order of the indices. -/
def documentsOf (s : Store) (indices : List String) : List Json :=
  indices.flatMap fun index => (Entries.find? index s.documents).getD []

/-- The counts that a body asks for. -/
def facetsFor (body : Json) (docs : List Json) : List (String × Json) :=
  ((body.field "facets").fields?.getD []).map fun (name, spec) =>
    let terms := spec.field "terms"
    let path := ((terms.field "field").string?).getD ""
    let limit := ((terms.field "size").nat?).getD 10
    (name, termCounts path limit docs)

/-- The answer to a search. -/
def searchAnswer (s : Store) (indices : List String) (body : Json) : Json :=
  let docs := s.documentsOf indices
  let offset := ((body.field "from").nat?).getD 0
  let size := ((body.field "size").nat?).getD 10
  let hits := ((docs.drop offset).take size).map fun doc => Json.obj [("_source", doc)]
  Json.object
    [("hits", Json.object [("total", .nat docs.length), ("hits", .arr hits)]),
      ("facets", Json.object (facetsFor body docs))]

/-- The mappings of the indices that have one. -/
def mappingAnswer (s : Store) (indices : List String) : Json :=
  Json.object <| indices.filterMap fun index =>
    (Entries.find? index s.mappings).map fun m => (index, m)

/-- The answer to a call when no failure is waiting. -/
def answer (s : Store) (call : Call) : Answer :=
  match call.indices.find? fun index => !s.hasIndex index with
  | some missing => .error (missingFault missing)
  | none =>
    match call.question with
    | .search body => .ok (s.searchAnswer call.indices body)
    | .mapping => .ok (s.mappingAnswer call.indices)

/-- What happens to a call: a waiting failure comes first. -/
def ask (call : Call) (s : Store) : Pending Store :=
  match s.failures with
  | fault :: rest => ⟨s.latency, .error fault, { s with failures := rest }⟩
  | [] => ⟨s.latency, s.answer call, s⟩

/-- The store as a backend. -/
def backend : Backend Store := ⟨ask⟩

end Store

/-- A store behind a list of answers that the next calls get at once. -/
structure ScriptedStore where
  /-- The answers of the next calls. -/
  script : List Answer := []
  /-- The store that answers when there are none left. -/
  store : Store := {}

namespace ScriptedStore

/-- What happens to a call: an answer of the script comes first. -/
def ask (call : Call) (s : ScriptedStore) : Pending ScriptedStore :=
  match s.script with
  | answer :: rest => ⟨0, answer, { s with script := rest }⟩
  | [] =>
    let pending := s.store.ask call
    ⟨pending.delay, pending.answer, { s with store := pending.state }⟩

/-- The scripted store as a backend. -/
def backend : Backend ScriptedStore := ⟨ask⟩

end ScriptedStore

end CrashQuery
