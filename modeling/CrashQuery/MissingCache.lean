/-!
# The cache of missing indices

The names of indices that a backend has reported missing, which later runs leave out. A cache
forgets a name when its lifetime is over. When it has been told of more names than it may keep, it
forgets some of them before: which ones and when is up to its policy (`Eviction`), of which nothing
is assumed. Time only takes from what a cache knows (`has_asOf_of_le`), and a mark adds nothing but
its name (`has_mark`). A cache without room knows nothing (`has_of_noRoom`), and one that is not
crowded knows all names whose lifetime is not over (`has_iff_of_room`).
-/

namespace CrashQuery

/-- When a name that is marked at a time gives way to others, if ever. It does so only in a cache
that has been told of too many names. -/
abbrev Eviction := Nat → String → Option Nat

/-- The names that were reported missing. -/
structure MissingCache where
  /-- The names with the times of their marks, the last mark first. -/
  marks : List (String × Nat) := []
  /-- The most names that are kept, if there is a bound. -/
  capacity : Option Nat := none
  /-- The milliseconds for which a name is kept, if there is a bound. -/
  lifetime : Option Nat := none
  /-- When names give way to others. -/
  evicts : Eviction := fun _ _ => none
  /-- The present, in milliseconds. -/
  now : Nat := 0

namespace MissingCache

/-- An empty cache for so many names, of which each is kept for so many seconds. -/
def bounded (capacity seconds : Nat) (evicts : Eviction) : MissingCache where
  capacity := some capacity
  lifetime := some (seconds * 1000)
  evicts

/-- The cache at a time. -/
def asOf (cache : MissingCache) (time : Nat) : MissingCache := { cache with now := time }

/-- The names that the cache has been told of, each once. -/
def names (cache : MissingCache) : List String :=
  cache.marks.foldr (fun named names => names.insert named.1) []

/-- Whether the cache has been told of more names than it may keep. -/
def isCrowded (cache : MissingCache) : Bool :=
  cache.capacity.any fun most => decide (most < cache.names.length)

/-- Whether the lifetime of a name that was marked at the time is over. -/
def isExpired (cache : MissingCache) (marked : Nat) : Bool :=
  cache.lifetime.any fun span => decide (marked + span ≤ cache.now)

/-- Whether a name that was marked at the time has given way; without room no name stays. -/
def isEvicted (cache : MissingCache) (name : String) (marked : Nat) : Bool :=
  cache.isCrowded && (cache.capacity == some 0 ||
    (cache.evicts marked name).any fun time => decide (time ≤ cache.now))

/-- Whether the index is known to be missing. -/
def has (cache : MissingCache) (index : String) : Bool :=
  (cache.marks.lookup index).any fun marked =>
    !cache.isExpired marked && !cache.isEvicted index marked

/-- Remembers that an index is missing. -/
def mark (cache : MissingCache) (index : String) : MissingCache :=
  { cache with marks := (index, cache.now) :: cache.marks }

/-- The indices that are not known to be missing, in order. -/
def keepPresent (cache : MissingCache) (indices : List String) : List String :=
  indices.filter fun index => !cache.has index

variable {cache : MissingCache} {index i : String} {s t : Nat}

/-- A name is known if its last mark has neither expired nor given way. -/
theorem has_iff : cache.has i = true ↔ ∃ marked, cache.marks.lookup i = some marked ∧
    cache.isExpired marked = false ∧ cache.isEvicted i marked = false := by
  simp [has, Option.any_eq_true]

/-- The cache has been told of the names that it has marks for. -/
theorem mem_names : i ∈ cache.names ↔ ∃ marked, (i, marked) ∈ cache.marks := by
  unfold names
  induction cache.marks with
  | nil => simp
  | cons named rest ih =>
    rw [List.foldr_cons, List.mem_insert_iff, ih]
    constructor
    · rintro (rfl | ⟨marked, hmem⟩)
      · exact ⟨named.2, List.mem_cons_self⟩
      · exact ⟨marked, List.mem_cons_of_mem _ hmem⟩
    · rintro ⟨marked, hmem⟩
      rcases List.mem_cons.1 hmem with rfl | hmem
      · exact Or.inl rfl
      · exact Or.inr ⟨marked, hmem⟩

/-- The cache has been told of a name that it knows. -/
theorem mem_names_of_has (h : cache.has i = true) : i ∈ cache.names := by
  obtain ⟨marked, hlast, -⟩ := has_iff.1 h
  obtain ⟨before, after, hmarks, -⟩ := List.lookup_eq_some_iff.1 hlast
  exact mem_names.2 ⟨marked, hmarks ▸ List.mem_append_right _ List.mem_cons_self⟩

/-- A lifetime is not over as long as it has not passed since the mark. -/
theorem isExpired_eq_false_iff {marked : Nat} : cache.isExpired marked = false ↔
    ∀ span, cache.lifetime = some span → cache.now < marked + span := by
  simp [isExpired, Option.any_eq_false]

/-- A lifetime that is not over has not been over before. -/
theorem isExpired_asOf_of_le (h : s ≤ t) {marked : Nat}
    (hfresh : (cache.asOf t).isExpired marked = false) :
    (cache.asOf s).isExpired marked = false := by
  rw [isExpired_eq_false_iff] at hfresh ⊢
  intro span hspan
  have hlater : t < marked + span := hfresh span hspan
  show s < marked + span
  omega

/-- A later mark does not expire before an earlier one. -/
theorem isExpired_of_le (h : s ≤ t) (hfresh : cache.isExpired s = false) :
    cache.isExpired t = false := by
  rw [isExpired_eq_false_iff] at hfresh ⊢
  intro span hspan
  have hearlier := hfresh span hspan
  omega

/-- A name has not given way while there is room, or if there is some and its time has not come. -/
theorem isEvicted_eq_false_iff {marked : Nat} : cache.isEvicted i marked = false ↔
    cache.isCrowded = false ∨ cache.capacity ≠ some 0 ∧
      ∀ time, cache.evicts marked i = some time → cache.now < time := by
  unfold isEvicted
  cases cache.isCrowded <;> simp [Option.any_eq_false]

/-- A name that has not given way has not done so before. -/
theorem isEvicted_asOf_of_le (h : s ≤ t) {marked : Nat}
    (hstays : (cache.asOf t).isEvicted i marked = false) :
    (cache.asOf s).isEvicted i marked = false := by
  rw [isEvicted_eq_false_iff] at hstays ⊢
  rcases hstays with hroom | ⟨hcapacity, hlater⟩
  · exact Or.inl hroom
  · refine Or.inr ⟨hcapacity, fun time htime => ?_⟩
    exact Nat.lt_of_le_of_lt h (hlater time htime)

/-- What is known at a time has been known at all times since its mark. -/
theorem has_asOf_of_le (h : s ≤ t) (hknown : (cache.asOf t).has i = true) :
    (cache.asOf s).has i = true := by
  obtain ⟨marked, hlast, hfresh, hstays⟩ := has_iff.1 hknown
  exact has_iff.2 ⟨marked, hlast, isExpired_asOf_of_le h hfresh, isEvicted_asOf_of_le h hstays⟩

/-- A crowded cache is crowded after a mark. -/
theorem isCrowded_mark (h : cache.isCrowded = true) : (cache.mark index).isCrowded = true := by
  unfold isCrowded at h ⊢
  rw [Option.any_eq_true] at h ⊢
  obtain ⟨most, hmost, hlt⟩ := h
  have hle : cache.names.length ≤ (cache.mark index).names.length :=
    List.length_le_length_insert
  exact ⟨most, hmost, decide_eq_true (Nat.lt_of_lt_of_le (of_decide_eq_true hlt) hle)⟩

/-- After a mark nothing is known but the marked index and what was known before. -/
theorem has_mark (h : ((cache.mark index).asOf t).has i = true) :
    i = index ∨ (cache.asOf t).has i = true := by
  by_cases hi : i = index
  · exact Or.inl hi
  · obtain ⟨marked, hlast, hfresh, hstays⟩ := has_iff.1 h
    have hsame : cache.marks.lookup i = some marked := by
      have hne : (i == index) = false := beq_false_of_ne hi
      rwa [asOf, mark, List.lookup_cons, hne] at hlast
    refine Or.inr (has_iff.2 ⟨marked, hsame, hfresh, ?_⟩)
    -- What has not given way in the new cache has not done so in the old one, which has more room.
    rw [isEvicted_eq_false_iff] at hstays ⊢
    refine hstays.imp_left fun hroom => ?_
    rw [← Bool.not_eq_true] at hroom ⊢
    exact fun hcrowded => hroom (isCrowded_mark hcrowded)

/-- A cache without room knows nothing. -/
theorem has_of_noRoom (h : cache.capacity = some 0) : cache.has i = false := by
  rw [← Bool.not_eq_true]
  intro hknown
  obtain ⟨marked, -, -, hstays⟩ := has_iff.1 hknown
  rcases isEvicted_eq_false_iff.1 hstays with hroom | ⟨hcapacity, -⟩
  · -- There is a name, and so one more than there is room for.
    have hpos := List.length_pos_of_mem (mem_names_of_has hknown)
    rw [isCrowded, h, Option.any_some, decide_eq_false_iff_not] at hroom
    exact hroom hpos
  · exact hcapacity h

/-- A cache that is not crowded knows the names whose lifetime is not over. -/
theorem has_iff_of_room (hroom : cache.isCrowded = false) : cache.has i = true ↔
    ∃ marked, cache.marks.lookup i = some marked ∧ cache.isExpired marked = false := by
  rw [has_iff]
  constructor
  · rintro ⟨marked, hlast, hfresh, -⟩
    exact ⟨marked, hlast, hfresh⟩
  · rintro ⟨marked, hlast, hfresh⟩
    exact ⟨marked, hlast, hfresh, isEvicted_eq_false_iff.2 (Or.inl hroom)⟩

end MissingCache

end CrashQuery
