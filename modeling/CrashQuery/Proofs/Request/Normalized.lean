import CrashQuery.Proofs.Entries
import CrashQuery.Proofs.Outcome
import CrashQuery.Request.Normal

/-!
# The stages of normalization

A raw request is normalized in three stages, each of which can refuse it: its parameters are looked
at for a fault, then its conditions for a required field, and then its window is completed. What is
left is put together from the parameters (`Request.ofRaw_eq`).
-/

namespace CrashQuery.Request

open Outcome

/-- The first fault of the parameters, in the order of the keys. -/
def firstFault? (catalog : Catalog) (maxResults : Nat) (raw : RawRequest) : Option ArgumentFault :=
  raw.findSome? fun p => keyFault? catalog maxResults p.1 p.2

/-- The request that parameters ask for, with a window and the conditions that belong to it. -/
def assemble (raw : RawRequest) (window : Window) (conditions : List Condition) : Request where
  conditions := conditions
  window := window
  page := pageOf raw
  facets := listOf raw facetsKey
  facetSize := lastNumber? (raw.valuesOf facetSizeKey)
  wantsQuery := lastBool (raw.valuesOf wantsQueryKey)
  sort := (listOf raw sortKey).map sortKeyOf
  columns := listOf raw columnsKey

/-- The meaning of a raw request, stage by stage. -/
theorem ofRaw_eq (catalog : Catalog) (options : RequestOptions) (raw : RawRequest) :
    ofRaw catalog options raw =
      match firstFault? catalog options.maxResults raw with
      | some fault => .error (.error (.badArgument fault))
      | none =>
        match missingField? options.required (conditionsOf catalog options.now raw) with
        | some name => .error (.error (.missingArgument name))
        | none =>
          (Window.complete catalog options (conditionsOf catalog options.now raw)).map fun p =>
            assemble raw p.1 p.2 := by
  unfold ofRaw firstFault?
  simp only [bind, Except.bind, throw, throwThe, MonadExceptOf.throw, pure, Except.pure]
  cases raw.findSome? fun p => keyFault? catalog options.maxResults p.1 p.2 with
  | some fault => rfl
  | none =>
    cases missingField? options.required (conditionsOf catalog options.now raw) with
    | some name => rfl
    | none => cases Window.complete catalog options (conditionsOf catalog options.now raw) <;> rfl

variable {catalog : Catalog} {options : RequestOptions} {raw : RawRequest} {r : Request}

/-- A request that is normalized has no faulty parameter and all required fields, and is assembled
from its parameters and its completed window. -/
theorem parts_of_ofRaw (h : ofRaw catalog options raw = .ok r) :
    firstFault? catalog options.maxResults raw = none ∧
      missingField? options.required (conditionsOf catalog options.now raw) = none ∧
      Window.complete catalog options (conditionsOf catalog options.now raw) =
        .ok (r.window, r.conditions) ∧
      r = assemble raw r.window r.conditions := by
  rw [ofRaw_eq] at h
  split at h
  · cases h
  · next hfault =>
    split at h
    · cases h
    · next hmissing =>
      obtain ⟨p, hcomplete, rfl⟩ := map_eq_ok.1 h
      exact ⟨hfault, hmissing, hcomplete, rfl⟩

/-- The window of a request completes the conditions that its raw values stand for. -/
theorem complete_of_ofRaw (h : ofRaw catalog options raw = .ok r) :
    Window.complete catalog options (conditionsOf catalog options.now raw) =
      .ok (r.window, r.conditions) := by
  obtain ⟨-, -, hcomplete, -⟩ := parts_of_ofRaw h
  exact hcomplete

/-- The number of results that a normalized request gives is within the limit. -/
theorem number_le_of_ofRaw (h : ofRaw catalog options raw = .ok r) {size : Nat}
    (hsize : lastNumber? (raw.valuesOf sizeKey) = some size) : size ≤ options.maxResults := by
  obtain ⟨hfault, -⟩ := parts_of_ofRaw h
  unfold RawRequest.valuesOf at hsize
  cases hfind : Entries.find? sizeKey raw with
  | none =>
    rw [hfind] at hsize
    cases hsize
  | some values =>
    rw [hfind, Option.getD_some] at hsize
    have hkey : keyFault? catalog options.maxResults sizeKey values = none :=
      List.findSome?_eq_none_iff.1 hfault _ (Entries.mem_of_find? hfind)
    unfold keyFault? at hkey
    rw [if_pos rfl, hsize] at hkey
    by_cases hlt : options.maxResults < size
    · simp [hlt] at hkey
    · exact Nat.not_lt.1 hlt

/-- The page of a normalized request is within the limit exactly when the request gives a number of
results, or the usual number is within the limit. -/
theorem size_le_iff (h : ofRaw catalog options raw = .ok r) :
    r.page.size ≤ options.maxResults ↔
      (lastNumber? (raw.valuesOf sizeKey)).isSome = true ∨ 100 ≤ options.maxResults := by
  obtain ⟨-, -, -, hr⟩ := parts_of_ofRaw h
  have hpage : r.page.size = (lastNumber? (raw.valuesOf sizeKey)).getD 100 := by
    rw [hr]
    rfl
  rw [hpage]
  cases hsize : lastNumber? (raw.valuesOf sizeKey) with
  | none => simp
  | some size => simp [number_le_of_ofRaw h hsize]

end CrashQuery.Request
