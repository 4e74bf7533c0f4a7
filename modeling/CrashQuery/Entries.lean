/-!
# Entry lists sorted by key

A finite map from strings is the list of its entries, sorted by key and with one entry for a key.
Keys are compared by code points. `find?_insert` says what an insertion does to a look-up.
-/

namespace CrashQuery

/-- Entries of a map from strings, sorted by key. -/
abbrev Entries (α : Type) := List (String × α)

namespace Entries

variable {α β : Type}

/-- Sets the value at a key, at the place that keeps the keys sorted. -/
def insert (key : String) (value : α) : Entries α → Entries α
  | [] => [(key, value)]
  | (k, v) :: rest =>
    if key = k then (key, value) :: rest
    else if key < k then (key, value) :: (k, v) :: rest
    else (k, v) :: insert key value rest

/-- The value at a key. -/
def find? (key : String) : Entries α → Option α
  | [] => none
  | (k, v) :: rest => if key = k then some v else find? key rest

/-- The map of the entries, in which a later entry replaces an earlier one of the same key. -/
def ofList (entries : List (String × α)) : Entries α :=
  entries.foldl (fun m e => insert e.1 e.2 m) []

/-- Changes the value at a key, which is created from `fresh` if it is absent. -/
def update (key : String) (fresh : α) (change : α → α) (m : Entries α) : Entries α :=
  insert key (change ((find? key m).getD fresh)) m

/-- Whether the key has a value. -/
def has (key : String) (m : Entries α) : Bool := (find? key m).isSome

/-- The keys in order. -/
def keys (m : Entries α) : List String := m.map Prod.fst

/-- The strings in order, each once. -/
def sortStrings (names : List String) : List String := keys (ofList (names.map fun n => (n, ())))

@[simp]
theorem find?_nil (key : String) : find? key ([] : Entries α) = none := rfl

/-- An insertion changes the value at its own key and at no other. -/
theorem find?_insert (key k : String) (value : α) (m : Entries α) :
    find? k (insert key value m) = if k = key then some value else find? k m := by
  induction m with
  | nil => simp [insert, find?]
  | cons e m ih =>
    obtain ⟨k', v⟩ := e
    by_cases h : key = k'
    · subst h
      by_cases hk : k = key <;> simp [insert, find?, hk]
    · by_cases hlt : key < k'
      · by_cases hk : k = key <;> simp [insert, find?, h, hlt, hk]
      · by_cases hk : k = key
        · subst hk
          simp [insert, find?, h, hlt, ih]
        · simp [insert, find?, h, hlt, ih, hk]

end Entries

end CrashQuery
