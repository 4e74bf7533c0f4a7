import CrashQuery.Entries
import Mathlib.Data.List.Sort

/-!
# Maps as sorted lists

`Entries.Sorted` says that the keys of a list of entries grow. An insertion leaves the other entries
where they are (`exists_insert_eq`) and keeps the order (`sorted_insert`), so that a list made by
`ofList` is sorted, and has its entries from the given list (`mem_of_mem_ofList`) and its keys too
(`mem_keys_ofList`); under a key it has the last value that was given (`find?_ofList_cons`,
`find?_ofList`), and a list that is written over keeps what it has under all other keys
(`find?_foldl_insert`). A sorted list is made of its own entries (`ofList_of_sorted`), each entry is
found under its key (`mem_iff_find?`), and which entries there are says all about it
(`Sorted.eq_of_mem_iff`), as it does for sorted strings (`sortStrings_congr`). Values can be changed
before or after the list is made (`map_ofList`), and entries can be picked by their keys
(`filter_ofList`).
-/

namespace CrashQuery.Entries

variable {α β : Type} {m : Entries α} {key : String} {value : α}

/-- Of two keys one comes first, or they are the same. -/
theorem lt_or_eq_or_lt (a b : String) : a < b ∨ a = b ∨ b < a := by
  by_cases hlt : a < b
  · exact Or.inl hlt
  · by_cases hgt : b < a
    · exact Or.inr (Or.inr hgt)
    · exact Or.inr (Or.inl (String.le_antisymm (String.not_lt.1 hgt) (String.not_lt.1 hlt)))

/-- Whether the keys grow. -/
def Sorted (m : Entries α) : Prop := m.Pairwise fun a b => a.1 < b.1

/-- The entries after an insertion are the new one and some of those before it. -/
theorem mem_of_mem_insert {e : String × α} (h : e ∈ insert key value m) :
    e = (key, value) ∨ e ∈ m := by
  induction m with
  | nil => exact Or.inl (List.mem_singleton.1 h)
  | cons first rest ih =>
    obtain ⟨k, v⟩ := first
    rw [insert] at h
    split at h
    · rcases List.mem_cons.1 h with rfl | hrest
      · exact Or.inl rfl
      · exact Or.inr (List.mem_cons_of_mem _ hrest)
    · split at h
      · exact List.mem_cons.1 h
      · rcases List.mem_cons.1 h with rfl | hrest
        · exact Or.inr List.mem_cons_self
        · exact (ih hrest).imp_right (List.mem_cons_of_mem _)

/-- An insertion puts the entry in the place of an entry of its key, or between two others. -/
theorem exists_insert_eq (key : String) (value : α) (m : Entries α) : ∃ before replaced after,
    m = before ++ replaced ++ after ∧ (∀ e ∈ replaced, e.1 = key) ∧
      insert key value m = before ++ [(key, value)] ++ after := by
  induction m with
  | nil => exact ⟨[], [], [], rfl, by simp, rfl⟩
  | cons first rest ih =>
    obtain ⟨k, v⟩ := first
    rw [insert]
    split
    · next heq => exact ⟨[], [(k, v)], rest, rfl, by simp [heq], rfl⟩
    · split
      · exact ⟨[], [], (k, v) :: rest, rfl, by simp, rfl⟩
      · obtain ⟨before, replaced, after, hrest, hreplaced, hinsert⟩ := ih
        refine ⟨(k, v) :: before, replaced, after, ?_, hreplaced, ?_⟩
        · rw [hrest]
          rfl
        · rw [hinsert]
          rfl

/-- The keys after an insertion are the new one and those before it. -/
theorem mem_keys_insert {k : String} :
    k ∈ keys (insert key value m) ↔ k = key ∨ k ∈ keys m := by
  induction m with
  | nil => simp [insert, keys]
  | cons first rest ih =>
    obtain ⟨k', v⟩ := first
    have hkeys : ∀ (e : String × α) (l : Entries α), keys (e :: l) = e.1 :: keys l :=
      fun _ _ => rfl
    rw [insert]
    split
    · next heq =>
      subst heq
      simp [hkeys]
    · split
      · simp [hkeys]
      · rw [hkeys, List.mem_cons, ih, hkeys, List.mem_cons]
        exact or_left_comm

/-- Insertions keep a list sorted. -/
theorem sorted_insert (h : Sorted m) : Sorted (insert key value m) := by
  unfold Sorted at h ⊢
  induction m with
  | nil => simp [insert]
  | cons first rest ih =>
    obtain ⟨k, v⟩ := first
    obtain ⟨hfirst, hrest⟩ := List.pairwise_cons.1 h
    rw [insert]
    split
    · next heq =>
      subst heq
      exact List.pairwise_cons.2 ⟨hfirst, hrest⟩
    · next hne =>
      split
      · next hlt =>
        refine List.pairwise_cons.2 ⟨?_, h⟩
        intro e he
        rcases List.mem_cons.1 he with rfl | he
        · exact hlt
        · exact String.lt_trans hlt (hfirst e he)
      · next hnot =>
        have hlt : k < key := ((lt_or_eq_or_lt key k).resolve_left hnot).resolve_left hne
        refine List.pairwise_cons.2 ⟨?_, ih hrest⟩
        intro e he
        rcases mem_of_mem_insert he with rfl | he
        · exact hlt
        · exact hfirst e he

/-- An insertion behind all keys appends. -/
theorem insert_of_lt (h : ∀ e ∈ m, e.1 < key) : insert key value m = m ++ [(key, value)] := by
  induction m with
  | nil => rfl
  | cons first rest ih =>
    obtain ⟨k, v⟩ := first
    have hlt : k < key := h (k, v) List.mem_cons_self
    have hne : key ≠ k := by
      rintro rfl
      exact String.lt_irrefl _ hlt
    rw [insert, if_neg hne, if_neg (String.lt_asymm hlt),
      ih fun e he => h e (List.mem_cons_of_mem _ he), List.cons_append]

/-- Values can be changed before or after an insertion. -/
theorem map_insert (f : α → β) : (insert key value m).map (fun e => (e.1, f e.2)) =
    insert key (f value) (m.map fun e => (e.1, f e.2)) := by
  induction m with
  | nil => rfl
  | cons first rest ih =>
    obtain ⟨k, v⟩ := first
    rw [List.map_cons, insert, insert]
    split
    · rfl
    · split
      · rfl
      · rw [List.map_cons, ih]

section OfList

variable {entries : List (String × α)}

@[simp]
theorem ofList_nil : ofList ([] : List (String × α)) = [] := rfl

/-- What holds of the empty list and is kept by insertions holds of a list that is made. -/
theorem ofList_induction {p : Entries α → Prop} (hnil : p [])
    (hinsert : ∀ m, ∀ e ∈ entries, p m → p (insert e.1 e.2 m)) : p (ofList entries) := by
  have hfold : ∀ rest ⊆ entries, ∀ m, p m →
      p (rest.foldl (fun m e => insert e.1 e.2 m) m) := by
    intro rest
    induction rest with
    | nil => exact fun _ m hm => hm
    | cons e rest ih =>
      intro hsub m hm
      exact ih (fun e he => hsub (List.mem_cons_of_mem _ he)) _
        (hinsert m e (hsub List.mem_cons_self) hm)
  exact hfold entries (fun _ he => he) [] hnil

/-- A list that is made is sorted. -/
theorem sorted_ofList : Sorted (ofList entries) :=
  ofList_induction List.Pairwise.nil fun _ _ _ => sorted_insert

/-- Under a key stands the last value that is inserted for it, or what stood there before. -/
theorem find?_foldl_insert (entries : List (String × α)) (m : Entries α) (key : String) :
    find? key (entries.foldl (fun m e => insert e.1 e.2 m) m) =
      (find? key (ofList entries)).or (find? key m) := by
  induction entries generalizing m with
  | nil => simp [ofList]
  | cons e rest ih =>
    have hcons : ofList (e :: rest) =
        rest.foldl (fun m e => insert e.1 e.2 m) (insert e.1 e.2 []) := rfl
    rw [List.foldl_cons, ih, hcons, ih, find?_insert, find?_insert, Option.or_assoc]
    split <;> simp

/-- Under a key stands the last value that is given for it. -/
theorem find?_ofList_cons (e : String × α) (key : String) : find? key (ofList (e :: entries)) =
    (find? key (ofList entries)).or (if key = e.1 then some e.2 else none) := by
  rw [ofList, List.foldl_cons, find?_foldl_insert, find?_insert]
  simp

/-- Under a key stands the value of the last entry that is given for it. -/
theorem find?_ofList (entries : List (String × α)) (key : String) : find? key (ofList entries) =
    (entries.filter fun e => e.1 == key).getLast?.map Prod.snd := by
  induction entries with
  | nil => rfl
  | cons e rest ih =>
    rw [find?_ofList_cons, ih, List.filter_cons]
    by_cases hkey : e.1 = key
    · rw [if_pos (beq_iff_eq.2 hkey), if_pos hkey.symm, List.getLast?_cons]
      cases (rest.filter fun e => e.1 == key).getLast? <;> rfl
    · rw [if_neg (Ne.symm hkey), if_neg (by simpa using hkey), Option.or_none]

/-- The entries of a list that is made are given. -/
theorem mem_of_mem_ofList {e : String × α} (h : e ∈ ofList entries) : e ∈ entries := by
  refine ofList_induction (p := fun m => ∀ e ∈ m, e ∈ entries) (by simp) ?_ e h
  intro m given hgiven hm e he
  rcases mem_of_mem_insert he with rfl | he
  · exact hgiven
  · exact hm e he

/-- The keys of a list that is made are those that are given. -/
theorem mem_keys_ofList {k : String} : k ∈ keys (ofList entries) ↔ k ∈ entries.map Prod.fst := by
  have hfold : ∀ (entries : List (String × α)) (m : Entries α),
      k ∈ keys (entries.foldl (fun m e => insert e.1 e.2 m) m) ↔
        k ∈ keys m ∨ k ∈ entries.map Prod.fst := by
    intro entries
    induction entries with
    | nil => simp
    | cons e rest ih =>
      intro m
      rw [List.foldl_cons, ih, mem_keys_insert, List.map_cons, List.mem_cons, or_assoc,
        or_left_comm]
  rw [ofList, hfold]
  simp [keys]

/-- A sorted list is made of its own entries. -/
theorem ofList_of_sorted (h : Sorted m) : ofList m = m := by
  have hfold : ∀ (rest before : Entries α), Sorted (before ++ rest) →
      rest.foldl (fun m e => insert e.1 e.2 m) before = before ++ rest := by
    intro rest
    induction rest with
    | nil => simp
    | cons e rest ih =>
      intro before hsorted
      have hlast : ∀ d ∈ before, d.1 < e.1 := fun d hd =>
        (List.pairwise_append.1 hsorted).2.2 d hd e List.mem_cons_self
      rw [List.foldl_cons, insert_of_lt hlast, ih _ (by simpa using hsorted)]
      simp
  exact hfold m [] h

/-- Values can be changed before or after a list is made. -/
theorem map_ofList (f : α → β) (entries : List (String × α)) :
    (ofList entries).map (fun e => (e.1, f e.2)) =
      ofList (entries.map fun e => (e.1, f e.2)) := by
  have hfold : ∀ (entries : List (String × α)) (m : Entries α),
      (entries.foldl (fun m e => insert e.1 e.2 m) m).map (fun e => (e.1, f e.2)) =
        (entries.map fun e => (e.1, f e.2)).foldl (fun m e => insert e.1 e.2 m)
          (m.map fun e => (e.1, f e.2)) := by
    intro entries
    induction entries with
    | nil => simp
    | cons e rest ih =>
      intro m
      rw [List.foldl_cons, ih, map_insert, List.map_cons, List.foldl_cons]
  exact hfold entries []

end OfList

/-- In a sorted list each entry is found under its key. -/
theorem mem_iff_find? (h : Sorted m) : (key, value) ∈ m ↔ find? key m = some value := by
  induction m with
  | nil => simp
  | cons first rest ih =>
    obtain ⟨k, v⟩ := first
    obtain ⟨hfirst, hrest⟩ := List.pairwise_cons.1 h
    rw [find?, List.mem_cons, Prod.mk.injEq]
    split
    · next heq =>
      subst heq
      -- The key stands nowhere else.
      have hnot : (key, value) ∉ rest := fun hmem =>
        String.lt_irrefl key (hfirst _ hmem)
      simp [hnot, eq_comm]
    · next hne => simp [hne, ih hrest]

/-- The keys of a sorted list grow. -/
theorem pairwise_keys (h : Sorted m) : (keys m).Pairwise (· < ·) := List.pairwise_map.2 h

/-- In a sorted list no key occurs twice. -/
theorem nodup_keys (h : Sorted m) : (keys m).Nodup := by
  refine (pairwise_keys h).imp ?_
  rintro a b hlt rfl
  exact String.lt_irrefl _ hlt

/-- What is found under a key is an entry of the list, sorted or not. -/
theorem mem_of_find? (h : find? key m = some value) : (key, value) ∈ m := by
  induction m with
  | nil => simp at h
  | cons first rest ih =>
    obtain ⟨k, v⟩ := first
    rw [find?] at h
    split at h
    · next heq =>
      rw [heq, Option.some.inj h]
      exact List.mem_cons_self
    · exact List.mem_cons_of_mem _ (ih h)

/-- In a sorted list there is one value under a key. -/
theorem Sorted.eq_of_mem {other : α} (h : Sorted m) (hvalue : (key, value) ∈ m)
    (hother : (key, other) ∈ m) : other = value := by
  rw [mem_iff_find? h] at hvalue hother
  exact Option.some.inj (hother.symm.trans hvalue)

/-- The last entry of a sorted list that passes a test has the greatest key of those that do. -/
theorem Sorted.exists_getLast?_filter {p : String × α → Bool} {e : String × α} (h : Sorted m)
    (he : e ∈ m) (hpass : p e = true) : ∃ last, (m.filter p).getLast? = some last ∧ last ∈ m ∧
      p last = true ∧ ∀ d ∈ m, p d = true → d = last ∨ d.1 < last.1 := by
  have hne : m.filter p ≠ [] := List.ne_nil_of_mem (List.mem_filter.2 ⟨he, hpass⟩)
  have hlast := List.getLast?_eq_some_getLast hne
  obtain ⟨before, hbefore⟩ := List.getLast?_eq_some_iff.1 hlast
  obtain ⟨hmem, hlastpass⟩ := List.mem_filter.1 (List.mem_of_getLast? hlast)
  refine ⟨_, hlast, hmem, hlastpass, fun d hd hdpass => ?_⟩
  have hsorted : Sorted (m.filter p) := List.Pairwise.filter p h
  have hdfilter : d ∈ m.filter p := List.mem_filter.2 ⟨hd, hdpass⟩
  rw [hbefore] at hsorted hdfilter
  rcases List.mem_append.1 hdfilter with hd | hd
  · exact Or.inr ((List.pairwise_append.1 hsorted).2.2 d hd _ (List.mem_singleton_self _))
  · exact Or.inl (List.mem_singleton.1 hd)

/-- Sorted lists with the same entries are the same. -/
theorem Sorted.eq_of_mem_iff {m m' : Entries α} (h : Sorted m) (h' : Sorted m')
    (hmem : ∀ key value, (key, value) ∈ m ↔ (key, value) ∈ m') : m = m' := by
  have : Std.Irrefl fun a b : String × α => a.1 < b.1 := ⟨fun a => String.lt_irrefl a.1⟩
  have : Std.Antisymm fun a b : String × α => a.1 < b.1 :=
    ⟨fun a _ hlt hgt => absurd (String.lt_trans hlt hgt) (String.lt_irrefl a.1)⟩
  exact List.Pairwise.eq_of_mem_iff h h' fun e => hmem e.1 e.2

/-- Entries can be picked by their keys before or after a list is made. -/
theorem filter_ofList (p : String → Bool) (entries : List (String × α)) :
    (ofList entries).filter (fun e => p e.1) = ofList (entries.filter fun e => p e.1) := by
  have hsorted : Sorted ((ofList entries).filter fun e => p e.1) :=
    List.Pairwise.filter _ sorted_ofList
  refine hsorted.eq_of_mem_iff sorted_ofList fun key value => ?_
  rw [List.mem_filter, mem_iff_find? sorted_ofList, mem_iff_find? sorted_ofList, find?_ofList,
    find?_ofList, List.filter_filter]
  cases hp : p key with
  | true =>
    have hboth : (entries.filter fun e => e.1 == key && p e.1) =
        entries.filter fun e => e.1 == key := by
      refine List.filter_congr fun e _ => ?_
      cases hkey : e.1 == key with
      | false => rfl
      | true => rw [beq_iff_eq.1 hkey, hp, Bool.and_self]
    simp [hboth]
  | false =>
    have hnone : (entries.filter fun e => e.1 == key && p e.1) = [] := by
      refine List.filter_eq_nil_iff.2 fun e _ hboth => ?_
      rw [Bool.and_eq_true, beq_iff_eq] at hboth
      rw [hboth.1, hp] at hboth
      exact absurd hboth.2 Bool.false_ne_true
    simp [hnone]

section SortStrings

variable {names others : List String} {name : String}

/-- The sorted strings are the given ones. -/
theorem mem_sortStrings : name ∈ sortStrings names ↔ name ∈ names := by
  unfold sortStrings
  rw [mem_keys_ofList, List.map_map]
  simp

/-- The sorted strings grow. -/
theorem pairwise_sortStrings (names : List String) : (sortStrings names).Pairwise (· < ·) :=
  pairwise_keys sorted_ofList

/-- What is sorted depends only on which strings are given. -/
theorem sortStrings_congr (h : ∀ name, name ∈ names ↔ name ∈ others) :
    sortStrings names = sortStrings others := by
  have hentry : ∀ (names : List String) (name : String),
      (name, ()) ∈ ofList (names.map fun n => (n, ())) ↔ name ∈ names := by
    intro names name
    rw [← mem_sortStrings, sortStrings, keys, List.mem_map]
    constructor
    · exact fun h => ⟨_, h, rfl⟩
    · rintro ⟨e, he, rfl⟩
      exact he
  refine congrArg keys (Sorted.eq_of_mem_iff sorted_ofList sorted_ofList ?_)
  intro name value
  rw [hentry, hentry, h]

end SortStrings

end CrashQuery.Entries
