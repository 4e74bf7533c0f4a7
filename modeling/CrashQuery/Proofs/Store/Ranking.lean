import CrashQuery.Proofs.Store.Counting
import CrashQuery.Proofs.Store.Values
import Mathlib.Algebra.BigOperators.Group.List.Lemmas
import Mathlib.Algebra.GroupWithZero.Nat
import Mathlib.Data.List.Dedup

/-!
# How documents are counted by their terms

The term of a document at a path is the string that it has there (`Store.IsAt`), or the compact text
of any other value but null (`Store.HasTerm`). `Store.IsRanking` says what a ranking of terms by the
number of their documents is, in the words of the documents alone, and `Store.ranks_termCounts` that
a store answers with it: the most frequent terms (`isTop_topTerms`) are as many as there are terms or
as are wanted (`length_topTerms`), and all of them together have all documents with a value
(`sum_mergeSort_counts`). Documents in another order have the same terms as often, and so the same
ranking (`IsTop.of_perm`).
-/

namespace CrashQuery.Store

variable {path t : String} {doc value : Json} {docs : List Json} {terms others : List String}
  {limit : Nat} {top : List (String × Nat)}

section Term

/-- Whether a value is counted under a term: a string under itself, and any other value but null
under its compact text. -/
inductive IsTermOf : Json → String → Prop where
  /-- A string is its own term. -/
  | string (s : String) : IsTermOf (.str s) s
  /-- The term of another value is its text. -/
  | other {value : Json} (hstring : ∀ s, value ≠ .str s) (hnull : value ≠ .null) :
      IsTermOf value value.render

/-- Values are counted under their terms. -/
theorem termOf_eq_some_iff : termOf value = some t ↔ IsTermOf value t := by
  constructor
  · intro h
    cases value with
    | str s =>
      obtain rfl := Option.some.inj h
      exact .string s
    | null => cases h
    | _ =>
      obtain rfl := Option.some.inj h
      exact .other nofun nofun
  · intro h
    cases h with
    | string s => rfl
    | other hstring hnull =>
      cases value with
      | str s => exact absurd rfl (hstring s)
      | null => exact absurd rfl hnull
      | _ => rfl

/-- A value has a term unless it is null. -/
theorem isSome_termOf_iff : (termOf value).isSome = true ↔ value ≠ .null := by
  cases value <;> simp [termOf]

/-- The term of a document at a path, if its value there is counted. -/
def termAt (path : String) (doc : Json) : Option String := (valueAt path doc).bind termOf

/-- Whether a document is counted under a term. -/
def HasTerm (path : String) (doc : Json) (t : String) : Prop :=
  ∃ value, IsAt path doc value ∧ IsTermOf value t

/-- Whether a document has a value at a path that is not null. -/
def HasValue (path : String) (doc : Json) : Prop :=
  ∃ value, IsAt path doc value ∧ value ≠ .null

/-- The term of a document is the one that it is counted under. -/
theorem termAt_eq_some_iff : termAt path doc = some t ↔ HasTerm path doc t := by
  simp only [termAt, HasTerm, Option.bind_eq_some_iff, valueAt_eq_some_iff, termOf_eq_some_iff]

/-- A document has a term if it has a value that is not null. -/
theorem isSome_termAt_iff : (termAt path doc).isSome = true ↔ HasValue path doc := by
  simp only [HasValue, ← valueAt_eq_some_iff]
  unfold termAt
  cases valueAt path doc <;> simp [isSome_termOf_iff]

instance : Decidable (HasTerm path doc t) := decidable_of_iff _ termAt_eq_some_iff

instance : Decidable (HasValue path doc) := decidable_of_iff _ isSome_termAt_iff

/-- A term is one of those that are counted if a document has it. -/
theorem mem_termsAt : t ∈ termsAt path docs ↔ ∃ doc ∈ docs, HasTerm path doc t := by
  show t ∈ docs.filterMap (termAt path) ↔ _
  simp only [List.mem_filterMap, termAt_eq_some_iff]

/-- A term occurs as often as documents have it. -/
theorem count_termsAt (path t : String) (docs : List Json) :
    (termsAt path docs).count t = docs.countP fun doc => decide (HasTerm path doc t) := by
  show (docs.filterMap (termAt path)).count t = _
  rw [List.count_filterMap]
  refine List.countP_congr fun doc _ => ?_
  rw [beq_iff_eq, decide_eq_true_eq, termAt_eq_some_iff]

/-- There are as many terms as documents with a value. -/
theorem length_termsAt (path : String) (docs : List Json) :
    (termsAt path docs).length = docs.countP fun doc => decide (HasValue path doc) := by
  show (docs.filterMap (termAt path)).length = _
  rw [List.length_filterMap_eq_countP]
  refine List.countP_congr fun doc _ => ?_
  rw [decide_eq_true_eq, isSome_termAt_iff]

end Term

section Counts

/-- The counted terms are the different ones. -/
theorem keys_counts_perm (terms : List String) :
    (Entries.keys (counts terms)).Perm terms.dedup := by
  have hnodup := Entries.nodup_keys (sorted_counts terms)
  refine (List.perm_ext_iff_of_nodup hnodup terms.nodup_dedup).2 fun t => ?_
  rw [List.mem_dedup]
  constructor
  · intro h
    obtain ⟨p, hp, rfl⟩ := List.mem_map.1 h
    exact (mem_counts.1 hp).1
  · intro h
    exact List.mem_map.2 ⟨(t, terms.count t), mem_counts.2 ⟨h, rfl⟩, rfl⟩

/-- There are as many counts as different terms. -/
theorem length_counts (terms : List String) : (counts terms).length = terms.dedup.length := by
  have hkeys := (keys_counts_perm terms).length_eq
  rwa [Entries.keys, List.length_map] at hkeys

/-- As many terms are found as there are different ones, or as are wanted. -/
theorem length_topTerms (path : String) (limit : Nat) (docs : List Json) :
    (topTerms path limit docs).length = min limit (termsAt path docs).dedup.length := by
  rw [topTerms, List.length_take, List.length_mergeSort, length_counts]

/-- All counts together are the number of the terms. -/
theorem sum_mergeSort_counts (terms : List String) :
    (((counts terms).mergeSort isBefore).map Prod.snd).sum = terms.length := by
  have hnumbers : (counts terms).map Prod.snd = (Entries.keys (counts terms)).map terms.count := by
    rw [Entries.keys, List.map_map]
    exact List.map_congr_left fun p hp => (mem_counts.1 hp).2
  calc (((counts terms).mergeSort isBefore).map Prod.snd).sum
      = ((counts terms).map Prod.snd).sum :=
        ((List.mergeSort_perm (counts terms) isBefore).map Prod.snd).sum_eq
    _ = (terms.dedup.map terms.count).sum := by
        rw [hnumbers]
        exact ((keys_counts_perm terms).map terms.count).sum_eq
    _ = terms.length := List.sum_map_count_dedup_eq_length terms

/-- The most frequent terms do not depend on the order of the terms. -/
theorem IsTop.of_perm (h : IsTop terms limit top) (hperm : terms.Perm others) :
    IsTop others limit top where
  counted p hp := by
    rw [← hperm.mem_iff, ← hperm.count_eq]
    exact h.counted p hp
  ordered := h.ordered
  length_le := h.length_le
  left_out t ht := by
    rw [← hperm.count_eq]
    exact h.left_out t (hperm.mem_iff.2 ht)

end Counts

/-- Whether a list ranks terms by the number of the documents that have them, down to a limit. -/
structure IsRanking (path : String) (limit : Nat) (docs : List Json) (top : List (String × Nat)) :
    Prop where
  /-- It has each term that a document has, or so many as the limit allows. -/
  length_eq : top.length = min limit (docs.filterMap (termAt path)).dedup.length
  /-- Each term stands with the number of its documents, of which there are some. -/
  counted : ∀ p ∈ top, p.2 = docs.countP (fun doc => decide (HasTerm path doc p.1)) ∧ 0 < p.2
  /-- No term stands twice. -/
  nodup : (top.map Prod.fst).Nodup
  /-- Terms of more documents come first, and those of as many are in order. -/
  ordered : top.Pairwise fun p q => q.2 < p.2 ∨ p.2 = q.2 ∧ p.1 < q.1
  /-- A term that is left out has fewer documents than each that stands there, or as many and comes
  behind it in order. -/
  left_out : ∀ t, (∃ doc ∈ docs, HasTerm path doc t) → t ∉ top.map Prod.fst → ∀ p ∈ top,
    docs.countP (fun doc => decide (HasTerm path doc t)) < p.2 ∨
      p.2 = docs.countP (fun doc => decide (HasTerm path doc t)) ∧ p.1 < t
  /-- If nothing is cut off, all documents with a value are counted. -/
  sum_eq : (docs.filterMap (termAt path)).dedup.length ≤ limit →
    (top.map Prod.snd).sum = docs.countP fun doc => decide (HasValue path doc)

/-- A store finds the ranking of the terms. -/
theorem isRanking_topTerms (path : String) (limit : Nat) (docs : List Json) :
    IsRanking path limit docs (topTerms path limit docs) := by
  obtain ⟨hcounted, hordered, -, hleft⟩ := isTop_topTerms path limit docs
  refine ⟨length_topTerms path limit docs, ?_, ?_, hordered, ?_, ?_⟩
  · intro p hp
    obtain ⟨hmem, hcount⟩ := hcounted p hp
    rw [hcount]
    exact ⟨count_termsAt path p.1 docs, List.count_pos_iff.2 hmem⟩
  · -- Of two entries for one term neither could stand before the other.
    refine List.pairwise_map.2 (hordered.imp_of_mem ?_)
    intro p q hp hq hbefore hsame
    have hcount : p.2 = q.2 := by rw [(hcounted p hp).2, (hcounted q hq).2, hsame]
    rcases hbefore with hless | ⟨-, hless⟩
    · omega
    · exact String.lt_irrefl _ (hsame ▸ hless)
  · intro t ht hnot p hp
    have hother : ∀ q ∈ topTerms path limit docs, q.1 ≠ t := fun q hq hqt =>
      hnot (hqt ▸ List.mem_map_of_mem hq)
    rw [← count_termsAt]
    exact (hleft t (mem_termsAt.2 ht) hother).2 p hp
  · intro hall
    -- Nothing is cut off, so that the ranking has all counts.
    have hwhole : topTerms path limit docs = (counts (termsAt path docs)).mergeSort isBefore := by
      refine List.take_of_length_le ?_
      rw [List.length_mergeSort, length_counts]
      exact hall
    rw [hwhole, sum_mergeSort_counts, length_termsAt]

/-- A store answers a count of documents by their terms with the ranking of the terms, and the
answer is the same for the documents in any order. -/
theorem ranks_termCounts (path : String) (limit : Nat) (docs : List Json) :
    (∃ top, (termCounts path limit docs).field "terms" = .arr (top.map fun p =>
        Json.object [("term", .str p.1), ("count", .nat p.2)]) ∧
      IsRanking path limit docs top) ∧
    ∀ shuffled, docs.Perm shuffled →
      termCounts path limit shuffled = termCounts path limit docs := by
  refine ⟨⟨topTerms path limit docs, ?_, isRanking_topTerms path limit docs⟩, ?_⟩
  · simp [termCounts, Json.field, Json.object, Json.get?, Entries.find?_ofList_cons]
  · intro shuffled hperm
    have hterms : (termsAt path docs).Perm (termsAt path shuffled) := hperm.filterMap (termAt path)
    have hsame := ((isTop_topTerms path limit docs).of_perm hterms).unique
      (isTop_topTerms path limit shuffled)
    unfold termCounts
    rw [hsame]

/-- Of three systems two are wanted: the one of two reports and, of those of one report, the first
in order. A report without a system is not counted. -/
example :
    let report : Json → Json := fun system => .obj [("processed_crash", .obj [("os", system)])]
    topTerms "processed_crash.os.full" 2
        [report (.str "Mac"), report (.str "Windows"), report .null, report (.str "Linux"),
          report (.str "Windows")] =
      [("Windows", 2), ("Linux", 1)] := by
  cbv

end CrashQuery.Store
