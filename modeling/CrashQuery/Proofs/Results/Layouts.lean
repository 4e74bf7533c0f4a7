import CrashQuery.Proofs.Results.Labels

/-!
# Nested and dotted layouts

The sections of a stored report are objects under their names, or they are taken apart into keys of
the report that begin with the name of the section and a dot. `Results.dotted` takes a nested report
apart, and `Results.ofHit_dotted` says that it is shown as before. Which of several fields of one
label is shown depends on the order in which they are written. Keys with a common beginning are in
the order of what follows it, so that the fields of a section come in one order from either layout
(`storedIn_dotted`), and no dotted key is shown as one outside the sections
(`filter_isPlain_dotted`).
-/

namespace CrashQuery.Results

variable {origin o : Origin} {name key : String} {value : Json} {source : List (String × Json)}
  {e : String × Json}

/-- The dotted key of a field of a section. -/
def dottedKey (origin : Origin) (name : String) : String := origin.name ++ "." ++ name

/-- What becomes of one key of a nested report: the object of a section is taken apart into dotted
keys, and any other key stays. -/
def dottedFields (key : String) (value : Json) : List (String × Json) :=
  match Origin.ofName? key with
  | some o => ((value.fields?).getD []).map fun f => (dottedKey o f.1, f.2)
  | none => [(key, value)]

/-- A nested report taken apart. -/
def dotted (source : List (String × Json)) : Entries Json :=
  Entries.ofList (source.flatMap fun e => dottedFields e.1 e.2)

/-- Whether a report is nested: no field of a section stands under a dotted key, and all keys are in
order. -/
structure IsNested (source : List (String × Json)) : Prop where
  /-- The keys of the report are in order. -/
  sorted : Entries.Sorted source
  /-- The keys of each section are in order. -/
  sections : ∀ (o : Origin) (fields : List (String × Json)),
    (o.name, Json.obj fields) ∈ source → Entries.Sorted fields
  /-- No key is a dotted one of a section. -/
  undotted : ∀ (o : Origin) (name : String), dottedKey o name ∉ Entries.keys source

section DottedKey

/-- Dotted keys of a section are in the order of the names of their fields. -/
theorem dottedKey_lt_dottedKey {a b : String} (h : a < b) : dottedKey o a < dottedKey o b := by
  unfold dottedKey
  rw [String.lt_iff, String.toList_append, String.toList_append (s := o.name ++ ".")]
  exact List.append_left_lt (String.lt_iff.1 h)

/-- A dotted key is split into its section and the name of its field, whatever the name is. -/
theorem splitDotted?_dottedKey (o : Origin) (name : String) :
    splitDotted? (dottedKey o name) = some (o, name) := by
  have hdot : '.' ∉ o.name.toList := by cases o <;> decide
  have hchars : (dottedKey o name).toList = o.name.toList ++ '.' :: name.toList := by
    simp [dottedKey]
  have hsplit := Text.splitFirst?_eq_some_iff.2 ⟨hchars, hdot⟩
  unfold splitDotted? Text.splitOnce?
  rw [hsplit]
  simp

/-- A dotted key is not the name of a section. -/
theorem ofName?_dottedKey (o : Origin) (name : String) :
    Origin.ofName? (dottedKey o name) = none := by
  rw [Option.eq_none_iff_forall_ne_some]
  intro other hother
  have hdot : '.' ∈ (dottedKey o name).toList := by simp [dottedKey]
  rw [Origin.eq_name_of_ofName? hother] at hdot
  exact absurd hdot (by cases other <;> decide)

/-- A dotted key holds one field of its section, and none of the other one. -/
theorem sectionFields_dottedKey (o : Origin) (name : String) (value : Json) :
    sectionFields origin (dottedKey o name) value = if o = origin then [(name, value)] else [] := by
  unfold sectionFields
  rw [ofName?_dottedKey, splitDotted?_dottedKey]

/-- A dotted key is not outside the sections. -/
theorem isPlain_dottedKey (o : Origin) (name : String) : isPlain (dottedKey o name) = false := by
  unfold isPlain
  rw [splitDotted?_dottedKey]
  simp

end DottedKey

/-- The section that a dotted key names. -/
def sectionOf? (key : String) : Option Origin := (splitDotted? key).map Prod.fst

/-- A key that does not name a section, with or without a dot, holds none of its fields. -/
theorem sectionFields_of_sectionOf?_ne (hname : Origin.ofName? key = none)
    (hsection : sectionOf? key ≠ some origin) : sectionFields origin key value = [] := by
  unfold sectionFields
  rw [hname]
  cases hsplit : splitDotted? key with
  | none => rfl
  | some parts =>
    refine if_neg fun heq => hsection ?_
    rw [sectionOf?, hsplit, Option.map_some, heq]

/-- The fields of a section are those that the keys hold one after the other. -/
theorem storedIn_eq (origin : Origin) (source : List (String × Json)) :
    storedIn origin source = source.flatMap fun e => sectionFields origin e.1 e.2 := rfl

/-- Keys that hold no fields of a section can be left out. -/
theorem storedIn_filter {p : String → Bool}
    (h : ∀ e ∈ source, p e.1 = false → sectionFields origin e.1 e.2 = []) :
    storedIn origin (source.filter fun e => p e.1) = storedIn origin source := by
  simp only [storedIn_eq]
  induction source with
  | nil => rfl
  | cons first rest ih =>
    have hrest := ih fun e he => h e (List.mem_cons_of_mem _ he)
    rw [List.filter_cons]
    split
    · rw [List.flatMap_cons, List.flatMap_cons, hrest]
    · next hp =>
      have hnone := h first List.mem_cons_self (Bool.eq_false_iff.2 hp)
      rw [List.flatMap_cons, hrest, hnone, List.nil_append]

/-- No key of the dotted layout is the name of a section. -/
theorem ofName?_of_mem_dotted (he : e ∈ dotted source) : Origin.ofName? e.1 = none := by
  obtain ⟨d, -, hfield⟩ := List.mem_flatMap.1 (Entries.mem_of_mem_ofList he)
  unfold dottedFields at hfield
  split at hfield
  · obtain ⟨f, -, rfl⟩ := List.mem_map.1 hfield
    exact ofName?_dottedKey _ _
  · next hname =>
    rw [List.mem_singleton.1 hfield]
    exact hname

/-- The keys outside the sections are those that stay. -/
theorem filter_isPlain_dottedFields (e : String × Json) :
    ((dottedFields e.1 e.2).filter fun d => isPlain d.1) = [e].filter fun d => isPlain d.1 := by
  unfold dottedFields
  cases hname : Origin.ofName? e.1 with
  | none => rfl
  | some o =>
    have hplain : isPlain e.1 = false := by simp [isPlain, hname]
    rw [List.filter_map, List.filter_eq_nil_iff.2, List.filter_eq_nil_iff.2]
    · rfl
    · simp [hplain]
    · simp [isPlain_dottedKey]

/-- The keys outside the sections are the same in either layout. -/
theorem filter_isPlain_dotted (source : List (String × Json)) :
    ((dotted source).filter fun e => isPlain e.1) =
      Entries.ofList (source.filter fun e => isPlain e.1) := by
  unfold dotted
  rw [Entries.filter_ofList isPlain, List.filter_flatMap]
  refine congrArg Entries.ofList ?_
  calc (source.flatMap fun e => (dottedFields e.1 e.2).filter fun d => isPlain d.1)
      = source.flatMap fun e => [e].filter fun d => isPlain d.1 :=
        List.flatMap_congr fun e _ => filter_isPlain_dottedFields e
    _ = source.filter fun e => isPlain e.1 := by
        rw [← List.filter_flatMap, List.flatMap_singleton']

namespace IsNested

/-- The keys of a nested report do not split into a section and a name. -/
theorem splitDotted?_eq_none (h : IsNested source) (he : e ∈ source) :
    splitDotted? e.1 = none := by
  rw [Option.eq_none_iff_forall_ne_some]
  rintro ⟨o, name⟩ hsplit
  refine h.undotted o name ?_
  rw [dottedKey, ← eq_append_of_splitDotted? hsplit]
  exact List.mem_map_of_mem he

/-- The dotted keys that name a section are those of its fields. -/
theorem filter_sectionOf?_dottedFields (h : IsNested source) (origin : Origin) (he : e ∈ source) :
    ((dottedFields e.1 e.2).filter fun d => sectionOf? d.1 == some origin) =
      (sectionFields origin e.1 e.2).map fun f => (dottedKey origin f.1, f.2) := by
  have hsplit := h.splitDotted?_eq_none he
  unfold dottedFields sectionFields
  cases Origin.ofName? e.1 with
  | none => simp [hsplit, sectionOf?]
  | some o =>
    simp only
    -- All fields of an object belong to the section that has its key for a name.
    have hall : ∀ f : String × Json, sectionOf? (dottedKey o f.1) = some o := fun f => by
      rw [sectionOf?, splitDotted?_dottedKey, Option.map_some]
    by_cases ho : o = origin
    · subst ho
      rw [if_pos rfl, List.filter_map, List.filter_eq_self.2]
      intro f _
      simp [hall]
    · rw [if_neg ho, List.filter_map, List.filter_eq_nil_iff.2]
      · rfl
      · intro f _
        simp [hall, ho]

/-- The fields of a section are in the order of their names. -/
theorem sorted_storedIn (h : IsNested source) (origin : Origin) :
    Entries.Sorted (storedIn origin source) := by
  -- Only the name of the section has fields of it, and it stands once in the report.
  have hown : ∀ e ∈ source, sectionFields origin e.1 e.2 ≠ [] → e.1 = origin.name := by
    intro e he hne
    refine Classical.byContradiction fun hkey => hne ?_
    refine sectionFields_eq_nil hkey (fun name hname => h.undotted origin name ?_) e.2
    rw [dottedKey, ← hname]
    exact List.mem_map_of_mem he
  refine List.pairwise_flatMap.2 ⟨?_, ?_⟩
  · rintro ⟨key, value⟩ he
    show Entries.Sorted (sectionFields origin key value)
    unfold sectionFields
    cases hname : Origin.ofName? key with
    | none =>
      rw [h.splitDotted?_eq_none he]
      exact List.Pairwise.nil
    | some o =>
      simp only
      split
      · cases value with
        | obj fields =>
          rw [Origin.eq_name_of_ofName? hname] at he
          exact h.sections o fields he
        | _ => exact List.Pairwise.nil
      · exact List.Pairwise.nil
  · refine h.sorted.imp_of_mem ?_
    intro a b ha hb hlt x hx y hy
    have haname := hown a ha (List.ne_nil_of_mem hx)
    have hbname := hown b hb (List.ne_nil_of_mem hy)
    rw [haname, hbname] at hlt
    exact absurd hlt (String.lt_irrefl _)

/-- The fields of a section are the same in either layout, and in the same order. -/
theorem storedIn_dotted (h : IsNested source) (origin : Origin) :
    storedIn origin (dotted source) = storedIn origin source := by
  have hothers : ∀ e ∈ dotted source, (sectionOf? e.1 == some origin) = false →
      sectionFields origin e.1 e.2 = [] := by
    intro e he hne
    exact sectionFields_of_sectionOf?_ne (ofName?_of_mem_dotted he) (by simpa using hne)
  have hkeys : (dotted source).filter (fun d => sectionOf? d.1 == some origin) =
      Entries.ofList ((storedIn origin source).map fun f => (dottedKey origin f.1, f.2)) := by
    rw [storedIn_eq, dotted, Entries.filter_ofList fun key => sectionOf? key == some origin,
      List.filter_flatMap, List.map_flatMap]
    exact congrArg _ <| List.flatMap_congr fun e he => h.filter_sectionOf?_dottedFields origin he
  have hsorted : Entries.Sorted
      ((storedIn origin source).map fun f => (dottedKey origin f.1, f.2)) :=
    List.pairwise_map.2 ((h.sorted_storedIn origin).imp dottedKey_lt_dottedKey)
  calc storedIn origin (dotted source)
      = storedIn origin ((dotted source).filter fun d => sectionOf? d.1 == some origin) :=
        (storedIn_filter (p := fun key => sectionOf? key == some origin) hothers).symm
    _ = storedIn origin
          ((storedIn origin source).map fun f => (dottedKey origin f.1, f.2)) := by
        rw [hkeys, Entries.ofList_of_sorted hsorted]
    _ = (storedIn origin source).flatMap fun f => [f] := by
        rw [storedIn_eq, List.flatMap_map]
        refine List.flatMap_congr fun f _ => ?_
        rw [sectionFields_dottedKey, if_pos rfl]
    _ = storedIn origin source := List.flatMap_singleton' _

/-- A report has the same fields by public names in either layout. -/
theorem flatten_dotted (h : IsNested source) (catalog : Catalog) :
    flatten catalog (dotted source) = flatten catalog source := by
  unfold flatten writeSection
  rw [h.storedIn_dotted, h.storedIn_dotted, filter_isPlain_dotted,
    Entries.ofList_of_sorted Entries.sorted_ofList]

end IsNested

/-- A key without a dot is in the dotted layout only if it is in the nested one. -/
theorem mem_keys_of_mem_keys_dotted (hdot : '.' ∉ key.toList)
    (h : key ∈ Entries.keys (dotted source)) : key ∈ Entries.keys source := by
  obtain ⟨d, hd, rfl⟩ := List.mem_map.1 h
  obtain ⟨e, he, hfield⟩ := List.mem_flatMap.1 (Entries.mem_of_mem_ofList hd)
  unfold dottedFields at hfield
  split at hfield
  · obtain ⟨f, -, rfl⟩ := List.mem_map.1 hfield
    exact absurd (by simp [dottedKey]) hdot
  · rw [List.mem_singleton.1 hfield]
    exact List.mem_map_of_mem he

/-- A hit whose report is taken apart is shown as before, with any columns, whether the report
stands among other fields of the hit or is the hit itself. -/
theorem ofHit_dotted (h : IsNested source) (catalog : Catalog) (columns : List String) :
    (∀ fields,
      ofHit catalog columns (.obj (Entries.insert "_source" (.obj (dotted source)) fields)) =
        ofHit catalog columns (.obj (Entries.insert "_source" (.obj source) fields))) ∧
    ("_source" ∉ Entries.keys source →
      ofHit catalog columns (.obj (dotted source)) = ofHit catalog columns (.obj source)) := by
  have hshown : ∀ hit hit' : Json, (hit.get? "_source").getD hit = .obj (dotted source) →
      (hit'.get? "_source").getD hit' = .obj source →
        ofHit catalog columns hit = ofHit catalog columns hit' := by
    intro hit hit' hdotted hnested
    unfold ofHit
    rw [hdotted, hnested]
    simp only
    rw [h.flatten_dotted]
  have hbare : ∀ m : Entries Json, "_source" ∉ Entries.keys m →
      (Json.obj m).get? "_source" = none := by
    intro m hm
    rw [Option.eq_none_iff_forall_ne_some]
    intro value hvalue
    exact hm (List.mem_map_of_mem (Entries.mem_of_find? hvalue))
  refine ⟨fun fields => hshown _ _ ?_ ?_, fun hsource => hshown _ _ ?_ ?_⟩
  · simp [Json.get?, Entries.find?_insert]
  · simp [Json.get?, Entries.find?_insert]
  · rw [hbare _ fun hmem => hsource (mem_keys_of_mem_keys_dotted (by decide) hmem)]
    rfl
  · rw [hbare _ hsource]
    rfl

/-- A report with fields of the names that make a difference: none at all, one with a dot, one of a
section, and two that are shown under one label. -/
def layoutsReport : List (String × Json) :=
  [("processed_crash", .obj [("", .nat 1), ("a.b", .nat 2), ("build", .nat 3), ("build_id", .nat 4),
      ("raw_crash", .nat 5)]),
    ("raw_crash", .obj [("build_id", .nat 6)]), ("uuid", .str "u")]

/-- The report is shown as before when its sections are taken apart. -/
theorem ofHit_dotted_sections :
    IsNested layoutsReport ∧
    Entries.keys (dotted layoutsReport) = ["processed_crash.", "processed_crash.a.b",
      "processed_crash.build", "processed_crash.build_id", "processed_crash.raw_crash",
      "raw_crash.build_id", "uuid"] ∧
    ofHit Catalog.builtin ["build_id", ""] (.obj (dotted layoutsReport)) =
      [("", .nat 1), ("build_id", .nat 4)] := by
  have hsorted : Entries.Sorted layoutsReport := by
    unfold Entries.Sorted layoutsReport
    decide
  have hsections : ∀ (o : Origin) (fields : List (String × Json)),
      (o.name, Json.obj fields) ∈ layoutsReport → Entries.Sorted fields := by
    intro o fields hmem
    simp only [layoutsReport, List.mem_cons, List.not_mem_nil, or_false, Prod.mk.injEq,
      Json.obj.injEq] at hmem
    rcases hmem with ⟨-, rfl⟩ | ⟨-, rfl⟩ | ⟨-, hvalue⟩
    · unfold Entries.Sorted
      decide
    · unfold Entries.Sorted
      decide
    · cases hvalue
  have hundotted : ∀ (o : Origin) (name : String),
      dottedKey o name ∉ Entries.keys layoutsReport := by
    intro o name hmem
    have hdots : ∀ key ∈ Entries.keys layoutsReport, '.' ∉ key.toList := by decide
    exact hdots _ hmem (by simp [dottedKey])
  have hnested : IsNested layoutsReport := ⟨hsorted, hsections, hundotted⟩
  refine ⟨hnested, rfl, ?_⟩
  rw [(ofHit_dotted hnested Catalog.builtin ["build_id", ""]).2 (by decide)]
  rfl

end CrashQuery.Results
