import CrashQuery.Backend.Store

/-!
# What a store finds at a path

A path is a list of steps with dots between them (`Store.IsPath`), and a step leads from an object
to the value of a key. A store finds at a path what its steps lead to, and nothing if they lead
nowhere (`Store.valueAt_eq_some_iff`).
-/

namespace CrashQuery

namespace Text

variable {sep : Char} {s : List Char}

/-- Splitting leaves no separator. -/
theorem not_mem_of_mem_splitAll {part : List Char} (h : part ∈ splitAll sep s) : sep ∉ part := by
  induction s generalizing part with
  | nil =>
    obtain rfl := List.mem_singleton.1 h
    exact List.not_mem_nil
  | cons c s ih =>
    rw [splitAll] at h
    split at h
    · rcases List.mem_cons.1 h with rfl | hrest
      · exact List.not_mem_nil
      · exact ih hrest
    · next hc =>
      obtain ⟨first, rest, hparts⟩ := List.exists_cons_of_ne_nil (splitAll_ne_nil sep s)
      rw [hparts] at h ih
      rcases List.mem_cons.1 h with rfl | hrest
      · rw [List.mem_cons, not_or]
        exact ⟨Ne.symm hc, ih List.mem_cons_self⟩
      · exact ih (List.mem_cons_of_mem _ hrest)

/-- The parts of a text are those that split it at every separator. -/
theorem splitAll_eq_splitOn (sep : Char) (s : List Char) : splitAll sep s = s.splitOn sep := by
  induction s with
  | nil => rfl
  | cons c s ih =>
    rw [splitAll, ih, List.splitOn_eq_splitOnP, List.splitOn_eq_splitOnP,
      List.splitOnP_cons_eq_if_modifyHead]
    by_cases hc : c = sep
    · simp [hc]
    · obtain ⟨first, rest, hparts⟩ :=
        List.exists_cons_of_ne_nil (List.splitOnP_ne_nil (· == sep) s)
      simp [hc, hparts]

/-- The parts of a text have no separator in them, and are the text with separators between them. -/
theorem splitAll_eq_iff {parts : List (List Char)} : splitAll sep s = parts ↔
    parts ≠ [] ∧ (∀ part ∈ parts, sep ∉ part) ∧ s = [sep].intercalate parts := by
  rw [splitAll_eq_splitOn]
  constructor
  · rintro rfl
    refine ⟨?_, ?_, (List.intercalate_splitOn sep).symm⟩
    · rw [← splitAll_eq_splitOn]
      exact splitAll_ne_nil sep s
    · intro part hpart
      rw [← splitAll_eq_splitOn] at hpart
      exact not_mem_of_mem_splitAll hpart
  · rintro ⟨hne, hnot, rfl⟩
    exact List.splitOn_intercalate sep hnot hne

/-- What precedes an end is the text without the end. -/
theorem dropEnd?_eq_some_iff {ending rest : List Char} :
    dropEnd? ending s = some rest ↔ s = rest ++ ending := by
  unfold dropEnd?
  rw [Option.map_eq_some_iff]
  constructor
  · rintro ⟨front, hfront, rfl⟩
    rw [← List.reverse_inj, eq_append_of_dropStart? hfront, List.reverse_append,
      List.reverse_reverse]
  · rintro rfl
    refine ⟨rest.reverse, ?_, List.reverse_reverse rest⟩
    rw [List.reverse_append]
    exact dropStart?_append _ _

/-- A text is left without an end, or as it is if it does not have that end. -/
theorem getD_dropEnd?_eq_iff {ending rest : List Char} : (dropEnd? ending s).getD s = rest ↔
    s = rest ++ ending ∨ s = rest ∧ ∀ front, s ≠ front ++ ending := by
  cases hend : dropEnd? ending s with
  | none =>
    have hno : ∀ front, s ≠ front ++ ending := by
      intro front hs
      rw [dropEnd?_eq_some_iff.2 hs] at hend
      cases hend
    rw [Option.getD_none]
    constructor
    · exact fun hs => Or.inr ⟨hs, hno⟩
    · rintro (hs | ⟨hs, -⟩)
      · exact absurd hs (hno rest)
      · exact hs
  | some front =>
    have hfront : s = front ++ ending := dropEnd?_eq_some_iff.1 hend
    rw [Option.getD_some]
    constructor
    · rintro rfl
      exact Or.inl hfront
    · rintro (hs | ⟨-, hno⟩)
      · exact List.append_cancel_right (hfront.symm.trans hs)
      · exact absurd hfront (hno front)

end Text

namespace Store

open Text

variable {path : String} {steps : List String} {doc value : Json}

/-- Whether a path is written with the steps. A further step to the untokenized sub-field, which
holds what its parent holds, is none of them. -/
structure IsPath (path : String) (steps : List String) : Prop where
  /-- There is a step. -/
  ne_nil : steps ≠ []
  /-- No step has a dot in it. -/
  undotted : ∀ step ∈ steps, '.' ∉ step.toList
  /-- The path has the steps with dots between them, and perhaps that to the sub-field. -/
  written : path = ".".intercalate steps ++ ".full" ∨
    path = ".".intercalate steps ∧ ∀ stem, path ≠ stem ++ ".full"

/-- Whether steps lead from one value to another: the first one from an object to the value of a
key, and the others from there. -/
inductive Leads : List String → Json → Json → Prop where
  /-- No steps lead from a value to itself. -/
  | nil (value : Json) : Leads [] value value
  /-- A step leads on. -/
  | cons {step : String} {rest : List String} {doc inner value : Json}
    (hstep : doc.get? step = some inner) (hrest : Leads rest inner value) :
    Leads (step :: rest) doc value

/-- Whether a document has a value at a path. -/
def IsAt (path : String) (doc value : Json) : Prop :=
  ∃ steps, IsPath path steps ∧ Leads steps doc value

/-- Where nothing is left, the steps find nothing. -/
theorem foldl_bind_none (steps : List String) :
    steps.foldl (fun node step => node.bind (Json.get? step)) none = none := by
  induction steps with
  | nil => rfl
  | cons step rest ih => exact ih

/-- The steps are taken one after the other. -/
theorem foldl_bind_eq_some_iff :
    steps.foldl (fun node step => node.bind (Json.get? step)) (some doc) = some value ↔
      Leads steps doc value := by
  induction steps generalizing doc with
  | nil =>
    constructor
    · rintro ⟨⟩
      exact .nil _
    · rintro ⟨⟩
      rfl
  | cons step rest ih =>
    -- The first step leads to a value, from which the others go on, or nowhere.
    rw [List.foldl_cons, Option.bind_some]
    cases hstep : doc.get? step with
    | none =>
      rw [foldl_bind_none]
      refine iff_of_false nofun ?_
      rintro (_ | ⟨hinner, -⟩)
      rw [hstep] at hinner
      cases hinner
    | some inner =>
      rw [ih]
      constructor
      · exact .cons hstep
      · rintro (_ | ⟨hinner, hrest⟩)
        rw [hstep] at hinner
        obtain rfl := Option.some.inj hinner
        exact hrest

/-- The steps of a path are the parts of it between its dots, but for an ending for the sub-field. -/
theorem isPath_iff : IsPath path steps ↔
    splitAll '.' ((dropEnd? ".full".toList path.toList).getD path.toList) =
      steps.map String.toList := by
  have hjoined : ['.'].intercalate (steps.map String.toList) = (".".intercalate steps).toList := by
    rw [String.toList_intercalate]
    rfl
  have hno : (∀ front, path.toList ≠ front ++ ".full".toList) ↔ ∀ stem, path ≠ stem ++ ".full" := by
    constructor
    · rintro hno stem rfl
      exact hno stem.toList String.toList_append
    · intro hno front hpath
      refine hno (String.ofList front) ?_
      rw [← String.toList_inj, String.toList_append, String.toList_ofList, hpath]
  rw [splitAll_eq_iff, getD_dropEnd?_eq_iff, hjoined, hno, ← String.toList_append,
    String.toList_inj, String.toList_inj, List.forall_mem_map, ne_eq, List.map_eq_nil_iff]
  constructor
  · rintro ⟨hne, hundotted, hwritten⟩
    exact ⟨hne, hundotted, hwritten⟩
  · rintro ⟨hne, hundotted, hwritten⟩
    exact ⟨hne, hundotted, hwritten⟩

/-- A store finds at a path the value that the steps of the path lead to. -/
theorem valueAt_eq_some_iff : valueAt path doc = some value ↔ IsAt path doc value := by
  let parts := splitAll '.' ((dropEnd? ".full".toList path.toList).getD path.toList)
  -- There is one way to write a path with steps.
  have hsteps : ∀ steps, IsPath path steps ↔ steps = parts.map String.ofList := by
    intro steps
    rw [isPath_iff]
    constructor
    · intro hparts
      show steps = (splitAll _ _).map String.ofList
      rw [hparts, List.map_map]
      exact (List.map_id'' (fun _ => String.ofList_toList) steps).symm
    · rintro rfl
      rw [List.map_map]
      exact (List.map_id'' (fun _ => String.toList_ofList) parts).symm
  have hvalue : valueAt path doc = (parts.map String.ofList).foldl
      (fun node step => node.bind (Json.get? step)) (some doc) := by
    rw [List.foldl_map]
    rfl
  rw [hvalue, foldl_bind_eq_some_iff]
  constructor
  · exact fun hleads => ⟨_, (hsteps _).2 rfl, hleads⟩
  · rintro ⟨steps, hpath, hleads⟩
    rwa [← (hsteps steps).1 hpath]

end Store

end CrashQuery
