import CrashQuery.Proofs.Request.Conditions

/-!
# Raw values in groups

Each raw value of a field stands for an entry, which has one value, or none if it asks for absence.
`Condition.grouped` puts entries into groups by name, operator and negation: the groups come in the
order in which they were first seen, and so do the distinct values of each. A further entry is
merged into the groups (`Condition.grouped_concat`), so that conditions made by merging entries one
after the other are their groups (`Condition.foldl_merge_eq_grouped`). Those of a request are the
groups of the entries that it gives, followed by the bounds that its window was missing
(`Request.conditions_eq_grouped`).
-/

namespace CrashQuery

open Calendar

/-- An element at the end is kept if it is new. -/
theorem eraseDups_concat {α : Type} [BEq α] [LawfulBEq α] (l : List α) (a : α) :
    (l ++ [a]).eraseDups = if a ∈ l then l.eraseDups else l.eraseDups ++ [a] := by
  rw [List.eraseDups_append]
  by_cases h : a ∈ l <;> simp [List.removeAll, List.eraseDups_cons, h]

/-- A list without repetition is left as it is. -/
theorem eraseDups_of_nodup {α : Type} [BEq α] [LawfulBEq α] {l : List α} (h : l.Nodup) :
    l.eraseDups = l := by
  induction l with
  | nil => exact List.eraseDups_nil
  | cons a rest ih =>
    obtain ⟨hnot, hrest⟩ := List.nodup_cons.1 h
    have hfilter : rest.filter (fun b => !b == a) = rest := by
      refine List.filter_eq_self.2 fun b hb => ?_
      have hne : b ≠ a := by
        rintro rfl
        exact hnot hb
      simp [hne]
    rw [List.eraseDups_cons, hfilter, ih hrest]

/-- No element is kept twice. -/
theorem nodup_eraseDups {α : Type} [BEq α] [LawfulBEq α] (l : List α) : l.eraseDups.Nodup := by
  induction hlength : l.length using Nat.strongRecOn generalizing l with
  | _ n ih =>
    subst hlength
    cases l with
    | nil => simp
    | cons a rest =>
      have hlt : (rest.filter fun b => !b == a).length < (a :: rest).length :=
        Nat.lt_succ_of_le (List.length_filter_le _ _)
      rw [List.eraseDups_cons]
      exact List.nodup_cons.2 ⟨by simp [List.mem_eraseDups], ih _ hlt _ rfl⟩

namespace Condition

/-- What entries are grouped by: the name of the field, the operator and the negation. -/
def key (c : Condition) : String × Operator × Bool := (c.name, c.operator, c.negated)

/-- The distinct values of the entries with a key, in the order in which they were first seen. -/
def valuesOf (entries : List Condition) (key : String × Operator × Bool) : List String :=
  ((entries.filter fun e => e.key == key).flatMap values).eraseDups

/-- The group of a key: the first entry with it, with the values of all of them. -/
def groupOf? (entries : List Condition) (key : String × Operator × Bool) : Option Condition :=
  (entries.find? fun e => e.key == key).map fun first =>
    { first with values := valuesOf entries key }

/-- The groups of entries, in the order in which their keys were first seen. -/
def grouped (entries : List Condition) : List Condition :=
  (entries.map key).eraseDups.filterMap (groupOf? entries)

variable {entries conditions : List Condition} {new e g : Condition}
  {k : String × Operator × Bool}

/-- Conditions are alike when they are grouped together. -/
theorem isAlike_iff {c d : Condition} : c.isAlike d = true ↔ c.key = d.key := by
  simp [isAlike, key, and_assoc]

/-- Merged values are the distinct ones of both. -/
theorem mergeValues_eraseDups (values new : List String) :
    mergeValues values.eraseDups new = (values ++ new).eraseDups := by
  induction new generalizing values with
  | nil => rw [mergeValues, List.append_nil]
  | cons v rest ih =>
    have hstep : (if v ∈ values.eraseDups then values.eraseDups else values.eraseDups ++ [v]) =
        (values ++ [v]).eraseDups := by
      rw [eraseDups_concat]
      simp only [List.mem_eraseDups]
    rw [mergeValues, hstep, ih, List.append_assoc]
    rfl

/-- A condition with a new key comes behind all others. -/
theorem merge_of_notMem (h : new.key ∉ conditions.map key) :
    merge new conditions = conditions ++ [new] := by
  induction conditions with
  | nil => rfl
  | cons c rest ih =>
    rw [List.map_cons, List.mem_cons, not_or] at h
    have hne : c.isAlike new ≠ true := fun halike => h.1 (isAlike_iff.1 halike).symm
    rw [merge, if_neg hne, ih h.2, List.cons_append]

/-- A condition with a key that is there gives its values to the one that has it. -/
theorem merge_of_mem (hnodup : (conditions.map key).Nodup) (h : new.key ∈ conditions.map key) :
    merge new conditions = conditions.map fun c =>
      if c.key = new.key then { c with values := mergeValues c.values new.values } else c := by
  induction conditions with
  | nil => cases h
  | cons c rest ih =>
    obtain ⟨hnot, hrest⟩ := List.nodup_cons.1 hnodup
    rw [merge, List.map_cons]
    by_cases hkey : c.key = new.key
    · have hsame : ∀ d ∈ rest, d.key ≠ new.key := fun d hd heq =>
        hnot (List.mem_map.2 ⟨d, hd, heq.trans hkey.symm⟩)
      rw [if_pos (isAlike_iff.2 hkey), if_pos hkey]
      congr 1
      refine (List.map_id' _).symm.trans (List.map_congr_left fun d hd => ?_)
      rw [if_neg (hsame d hd)]
    · have hmem : new.key ∈ rest.map key :=
        (List.mem_cons.1 h).resolve_left fun heq => hkey heq.symm
      rw [if_neg (mt isAlike_iff.1 hkey), if_neg hkey, ih hrest hmem]

/-- A group has its key. -/
theorem key_of_groupOf? (h : groupOf? entries k = some g) : g.key = k := by
  obtain ⟨first, hfirst, rfl⟩ := Option.map_eq_some_iff.1 h
  have hkey : (first.key == k) = true :=
    List.find?_some (p := fun e : Condition => e.key == k) hfirst
  exact beq_iff_eq.1 hkey

/-- There is a group for the key of each entry. -/
theorem exists_groupOf? (h : k ∈ entries.map key) : ∃ g, groupOf? entries k = some g := by
  obtain ⟨e, he, hkey⟩ := List.mem_map.1 h
  have hsome : (entries.find? fun e => e.key == k).isSome = true :=
    List.find?_isSome.2 ⟨e, he, beq_iff_eq.2 hkey⟩
  obtain ⟨first, hfirst⟩ := Option.isSome_iff_exists.1 hsome
  exact ⟨_, Option.map_eq_some_iff.2 ⟨first, hfirst, rfl⟩⟩

/-- The keys of the groups are those of the entries, in the order in which they were first seen. -/
theorem map_key_grouped (entries : List Condition) :
    (grouped entries).map key = (entries.map key).eraseDups := by
  have hkeys : ∀ ks : List (String × Operator × Bool), (∀ k ∈ ks, k ∈ entries.map key) →
      (ks.filterMap (groupOf? entries)).map key = ks := by
    intro ks
    induction ks with
    | nil => exact fun _ => rfl
    | cons k rest ih =>
      intro h
      -- No key is passed over, since each has a group.
      obtain ⟨g, hg⟩ := exists_groupOf? (h k List.mem_cons_self)
      rw [List.filterMap_cons_some hg, List.map_cons, key_of_groupOf? hg,
        ih fun j hj => h j (List.mem_cons_of_mem _ hj)]
  exact hkeys _ fun k hk => List.mem_eraseDups.1 hk

/-- No two groups have the same key. -/
theorem nodup_keys_grouped (entries : List Condition) : ((grouped entries).map key).Nodup := by
  rw [map_key_grouped]
  exact nodup_eraseDups _

/-- No group has a value twice. -/
theorem nodup_values_of_mem_grouped (h : g ∈ grouped entries) : g.values.Nodup := by
  obtain ⟨k, -, hg⟩ := List.mem_filterMap.1 h
  obtain ⟨first, -, rfl⟩ := Option.map_eq_some_iff.1 hg
  exact nodup_eraseDups _

/-- An entry leaves the groups of other keys. -/
theorem groupOf?_concat_of_ne (h : e.key ≠ k) : groupOf? (entries ++ [e]) k = groupOf? entries k := by
  have hne : (e.key == k) = false := beq_false_of_ne h
  simp [groupOf?, valuesOf, List.find?_append, List.filter_append, hne]

/-- An entry with a key that is there gives its values to the group. -/
theorem groupOf?_concat_of_mem (h : e.key ∈ entries.map key) :
    groupOf? (entries ++ [e]) e.key = (groupOf? entries e.key).map fun c =>
      { c with values := mergeValues c.values e.values } := by
  obtain ⟨g, hg⟩ := exists_groupOf? h
  obtain ⟨first, hfirst, rfl⟩ := Option.map_eq_some_iff.1 hg
  simp [groupOf?, valuesOf, List.find?_append, hfirst, mergeValues_eraseDups]

/-- An entry with a new key is a group. -/
theorem groupOf?_concat_of_notMem (h : e.key ∉ entries.map key) (hvalues : e.values.Nodup) :
    groupOf? (entries ++ [e]) e.key = some e := by
  have hne : ∀ d ∈ entries, (d.key == e.key) = false := fun d hd =>
    beq_false_of_ne fun heq => h (List.mem_map.2 ⟨d, hd, heq⟩)
  have hfind : entries.find? (fun d => d.key == e.key) = none :=
    List.find?_eq_none.2 fun d hd => by simp [hne d hd]
  have hfilter : entries.filter (fun d => d.key == e.key) = [] :=
    List.filter_eq_nil_iff.2 fun d hd => by simp [hne d hd]
  simp [groupOf?, valuesOf, List.find?_append, List.filter_append, hfind, hfilter,
    eraseDups_of_nodup hvalues]

/-- A further entry is merged into the groups. -/
theorem grouped_concat (hvalues : e.values.Nodup) :
    grouped (entries ++ [e]) = merge e (grouped entries) := by
  have hkeys := map_key_grouped entries
  by_cases hmem : e.key ∈ entries.map key
  · have hgrouped : e.key ∈ (grouped entries).map key := by
      rw [hkeys]
      exact List.mem_eraseDups.2 hmem
    rw [merge_of_mem (nodup_keys_grouped entries) hgrouped]
    unfold grouped
    rw [List.map_append, List.map_singleton, eraseDups_concat, if_pos hmem, List.map_filterMap]
    -- The keys stay the same, and only the group of the entry grows.
    refine List.filterMap_congr fun k hk => ?_
    obtain ⟨g, hg⟩ := exists_groupOf? (List.mem_eraseDups.1 hk)
    by_cases hkey : e.key = k
    · subst hkey
      rw [groupOf?_concat_of_mem hmem, hg, Option.map_some, Option.map_some,
        if_pos (key_of_groupOf? hg)]
    · have hne : g.key ≠ e.key := fun heq => hkey (heq.symm.trans (key_of_groupOf? hg))
      rw [groupOf?_concat_of_ne hkey, hg, Option.map_some, if_neg hne]
  · have hgrouped : e.key ∉ (grouped entries).map key := by
      rw [hkeys]
      exact mt List.mem_eraseDups.1 hmem
    rw [merge_of_notMem hgrouped]
    unfold grouped
    rw [List.map_append, List.map_singleton, eraseDups_concat, if_neg hmem, List.filterMap_append,
      List.filterMap_cons_some (groupOf?_concat_of_notMem hmem hvalues), List.filterMap_nil]
    congr 1
    -- The groups before are those of other keys.
    refine List.filterMap_congr fun k hk => groupOf?_concat_of_ne ?_
    rintro rfl
    exact hmem (List.mem_eraseDups.1 hk)

/-- Entries that are merged one after the other are put into their groups. -/
theorem foldl_merge_eq_grouped (h : ∀ e ∈ entries, e.values.Nodup) :
    entries.foldl (fun conditions e => merge e conditions) [] = grouped entries := by
  induction entries using List.reverseRecOn with
  | nil => rfl
  | append_singleton entries e ih =>
    rw [List.foldl_concat, ih fun d hd => h d (List.mem_append_left _ hd),
      grouped_concat (h e (by simp))]

end Condition

open Condition

namespace Window

variable {catalog : Catalog} {options : RequestOptions} {conditions completed : List Condition}

/-- The entry for a bound on the date, if the text of the bound is a value of its field. -/
def bound? (catalog : Catalog) (now : Instant) (operator : Operator) (t : Instant) :
    Option Condition :=
  (catalog.lookup dateField).bind fun f =>
    (Request.coerce f.kind operator (Request.temporalText f.kind t).toList now).map fun v =>
      ⟨f, operator, false, [v]⟩

/-- The entries for the bounds that conditions do not give: the present and the beginning of the
window. -/
def missingBounds (catalog : Catalog) (options : RequestOptions) (window : Window)
    (conditions : List Condition) : List Condition :=
  (if (upper? conditions).isSome then []
    else (bound? catalog options.now .atMost options.now).toList) ++
  if (lower? conditions).isSome then []
    else (bound? catalog options.now .atLeast window.first).toList

/-- A bound is added to groups as a further entry. -/
theorem addBound_grouped (entries : List Condition) (now t : Instant) {operator : Operator}
    (hoperator : operator = .atLeast ∨ operator = .atMost) :
    addBound catalog now operator t (grouped entries) =
      grouped (entries ++ (bound? catalog now operator t).toList) := by
  cases hf : catalog.lookup dateField with
  | none =>
    simp only [addBound, bound?, hf, Option.bind_none, Option.toList_none, List.append_nil]
  | some f =>
    have hraw := ofRaw?_bound hoperator f (Request.temporalText f.kind t) now
    cases hv : Request.coerce f.kind operator (Request.temporalText f.kind t).toList now with
    | none =>
      rw [hv, Option.map_none] at hraw
      simp only [addBound, bound?, hf, addRaw, hraw, hv, Option.bind_some, Option.map_none,
        Option.toList_none, List.append_nil]
    | some v =>
      rw [hv, Option.map_some] at hraw
      simp only [addBound, bound?, hf, addRaw, hraw, hv, Option.bind_some, Option.map_some,
        Option.toList_some]
      rw [grouped_concat (List.nodup_singleton v)]

/-- A completed window has the groups of the entries before it and of the missing bounds. -/
theorem complete_grouped {entries : List Condition} {window : Window}
    (h : complete catalog options (grouped entries) = .ok (window, completed)) :
    completed = grouped (entries ++ missingBounds catalog options window (grouped entries)) := by
  obtain ⟨-, -, hcompleted, -⟩ := parts_of_complete h
  rw [hcompleted]
  unfold missingBounds
  cases (upper? (grouped entries)).isSome <;> cases (lower? (grouped entries)).isSome <;>
    simp [addBound_grouped]

end Window

namespace Request

variable {catalog : Catalog} {options : RequestOptions} {raw : RawRequest} {r : Request}

/-- The entries for the raw values of a request, in order; a value that does not fit its field has
none. -/
def entriesOf (catalog : Catalog) (now : Instant) (raw : RawRequest) : List Condition :=
  (fieldValues catalog raw).filterMap fun p => ofRaw? p.1 p.2 now

/-- An entry has no value twice, since it has at most one. -/
theorem nodup_values_of_mem_entriesOf {now : Instant} {e : Condition}
    (h : e ∈ entriesOf catalog now raw) : e.values.Nodup := by
  obtain ⟨p, -, hp⟩ := List.mem_filterMap.1 h
  obtain ⟨-, ⟨-, hnil⟩ | ⟨-, v, hv⟩⟩ := eq_of_ofRaw? hp
  · rw [hnil]
    exact List.nodup_nil
  · rw [hv]
    exact List.nodup_singleton v

/-- The parameters of a request give the groups of its entries. -/
theorem conditionsOf_eq_grouped (catalog : Catalog) (now : Instant) (raw : RawRequest) :
    conditionsOf catalog now raw = grouped (entriesOf catalog now raw) := by
  rw [← foldl_merge_eq_grouped fun e => nodup_values_of_mem_entriesOf, entriesOf, List.foldl_filterMap]
  unfold conditionsOf
  congr 1
  funext conditions p
  unfold addRaw
  cases ofRaw? p.1 p.2 now <;> rfl

/-- The conditions of a request are the groups of the entries for its raw values and of the bounds
that these do not give. No two of them have the same name, operator and negation, none has a value
twice, just those that ask for absence have no values, and each is on the field that the catalog has
for its name. -/
theorem conditions_eq_grouped (h : ofRaw catalog options raw = .ok r) :
    let entries := entriesOf catalog options.now raw
    r.conditions = grouped
        (entries ++ Window.missingBounds catalog options r.window (grouped entries)) ∧
      (r.conditions.map key).Nodup ∧
      ∀ c ∈ r.conditions, c.values.Nodup ∧ (c.values = [] ↔ c.operator = .isNull) ∧
        catalog.lookup c.name = some c.field := by
  intro entries
  have hcomplete := complete_of_ofRaw h
  rw [conditionsOf_eq_grouped] at hcomplete
  have hgroups := Window.complete_grouped hcomplete
  have hfields : ∀ c ∈ r.conditions, catalog.lookup c.name = some c.field := by
    refine conditions_induction (p := fun conditions => ∀ c ∈ conditions,
      catalog.lookup c.name = some c.field) h (by simp) ?_
    intro conditions f value hf hconditions c hc
    rcases field_of_mem_addRaw hc with hfield | ⟨old, hold, hfield⟩
    · rw [name, hfield, hf]
    · rw [name, hfield]
      exact hconditions old hold
  refine ⟨hgroups, ?_, fun c hc => ⟨?_, isFilled_of_ofRaw h c hc, hfields c hc⟩⟩
  · rw [hgroups]
    exact nodup_keys_grouped _
  · rw [hgroups] at hc
    exact nodup_values_of_mem_grouped hc

/-- Platforms under two other names, one of them twice, beside an upper bound on the date and one that
cannot be read. -/
def platformsRequest : RawRequest :=
  [("date", ["<=2024-03-10", "<=soon"]), ("os", ["Linux", "!Mac"]),
    ("platforms", ["linux", "__null__", "Windows"])]

/-- The platforms are in one group, the other two conditions on them are groups of their own, and the
lower bound on the date is added. -/
theorem conditions_eq_grouped_platforms : ∃ r,
    ofRaw Catalog.builtin Service.sampleService.options platformsRequest = .ok r ∧
    (r.conditions = grouped (entriesOf Catalog.builtin Service.sampleService.now platformsRequest ++
      Window.missingBounds Catalog.builtin Service.sampleService.options r.window
        (grouped (entriesOf Catalog.builtin Service.sampleService.now platformsRequest)))) ∧
    r.conditions.map (fun c => (c.key, c.values)) =
      [(("date", .atMost, false), ["2024-03-10T00:00:00Z"]),
        (("platform", .any, false), ["linux", "windows"]), (("platform", .any, true), ["mac"]),
        (("platform", .isNull, false), []),
        (("date", .atLeast, false), ["2024-03-03T00:00:00Z"])] ∧
    (r.conditions.map key).Nodup := by
  obtain ⟨r, hr, hvalues⟩ : ∃ r,
      ofRaw Catalog.builtin Service.sampleService.options platformsRequest = .ok r ∧
      r.conditions.map (fun c => (c.key, c.values)) =
        [(("date", .atMost, false), ["2024-03-10T00:00:00Z"]),
          (("platform", .any, false), ["linux", "windows"]), (("platform", .any, true), ["mac"]),
          (("platform", .isNull, false), []),
          (("date", .atLeast, false), ["2024-03-03T00:00:00Z"])] := ⟨_, rfl, rfl⟩
  obtain ⟨hgroups, hkeys, -⟩ := conditions_eq_grouped hr
  exact ⟨r, hr, hgroups, hvalues, hkeys⟩

end Request

end CrashQuery
