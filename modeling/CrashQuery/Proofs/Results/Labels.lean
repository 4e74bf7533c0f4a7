import CrashQuery.Proofs.Entries
import CrashQuery.Proofs.Request.Searchable

/-!
# Labels of stored values

The fields of a section are written into a report one after the other in key order, so that under a
label stands the last field that has it (`Results.find?_writeSection`). No two fields that the
catalog knows share a label (`Catalog.storageName_inj`), but a field that it does not know is
labelled by its own key, which can be the label of a known field. `Results.labelled_iff` says
when the value of a known field is displaced by such a key.
-/

namespace CrashQuery

namespace Origin

/-- The key of a section is its name. -/
theorem eq_name_of_ofName? {text : String} {o : Origin} (h : ofName? text = some o) :
    text = o.name := by
  unfold ofName? at h
  split at h
  · next heq =>
    cases h
    exact heq
  · split at h
    · next heq =>
      cases h
      exact heq
    · cases h

end Origin

namespace Catalog

variable {catalog : Catalog} {origin : Origin} {name other : String} {f g : Field}

/-- A field that is found by its storage name is one of the catalog's and has that name. -/
theorem mem_of_byStorage (h : catalog.byStorage origin name = some f) :
    f ∈ catalog.fields ∧ f.storageName = name := by
  rw [byStorage_eq_find?] at h
  have hfound := List.find?_some h
  simp only [Field.place, beq_iff_eq, Prod.mk.injEq] at hfound
  exact ⟨List.mem_of_find?_eq_some h, hfound.2⟩

/-- Fields that are found by different storage names have different labels. -/
theorem storageName_inj (hf : catalog.byStorage origin name = some f)
    (hg : catalog.byStorage origin other = some g) (hlabel : g.publicName = f.publicName) :
    other = name := by
  obtain ⟨hfmem, rfl⟩ := mem_of_byStorage hf
  obtain ⟨hgmem, rfl⟩ := mem_of_byStorage hg
  have hlookup := lookup_of_mem hgmem
  rw [hlabel, lookup_of_mem hfmem, Option.some.injEq] at hlookup
  rw [hlookup]

end Catalog

namespace Results

variable {catalog : Catalog} {origin : Origin} {source fields : List (String × Json)}

/-- Under a label stands the last field of the section that has it, or what stood there before. -/
theorem find?_writeSection (catalog : Catalog) (origin : Origin) (source : List (String × Json))
    (report : Entries Json) (label : String) :
    Entries.find? label (writeSection catalog origin source report) =
      (((storedIn origin source).filter fun e =>
          publicName catalog origin e.1 == label).getLast?.map Prod.snd).or
        (Entries.find? label report) := by
  have hfold : writeSection catalog origin source report =
      ((storedIn origin source).map fun e => (publicName catalog origin e.1, e.2)).foldl
        (fun m e => Entries.insert e.1 e.2 m) report := by
    rw [List.foldl_map]
    rfl
  rw [hfold, Entries.find?_foldl_insert, Entries.find?_ofList, List.filter_map, List.getLast?_map,
    Option.map_map]
  rfl

/-- A dotted key begins with the name of its section. -/
theorem eq_append_of_splitDotted? {key name : String} (h : splitDotted? key = some (origin, name)) :
    key = origin.name ++ "." ++ name := by
  unfold splitDotted? at h
  split at h
  · next head rest hsplit =>
    obtain ⟨o, ho, he⟩ := Option.map_eq_some_iff.1 h
    obtain ⟨rfl, rfl⟩ := Prod.mk.inj he
    obtain ⟨⟨a, b⟩, hfirst, hparts⟩ := Option.map_eq_some_iff.1 hsplit
    obtain ⟨rfl, rfl⟩ := Prod.mk.inj hparts
    have hkey := Text.eq_append_of_splitFirst? hfirst
    have hname := Origin.eq_name_of_ofName? ho
    apply String.toList_injective
    rw [hkey, ← hname]
    simp
  · cases h

/-- A key that is neither the section's nor a dotted one of it holds none of its fields. -/
theorem sectionFields_eq_nil {key : String} (hkey : key ≠ origin.name)
    (hdotted : ∀ name, key ≠ origin.name ++ "." ++ name) (value : Json) :
    sectionFields origin key value = [] := by
  unfold sectionFields
  split
  · next o ho =>
    refine if_neg ?_
    rintro rfl
    exact hkey (Origin.eq_name_of_ofName? ho)
  · split
    · next o name hsplit =>
      refine if_neg ?_
      rintro rfl
      exact hdotted name (eq_append_of_splitDotted? hsplit)
    · rfl

/-- Without dotted keys, the fields of a section are those of the object under its key. -/
theorem storedIn_of_find? (hsorted : Entries.Sorted source)
    (hsection : Entries.find? origin.name source = some (.obj fields))
    (hdotted : ∀ name, origin.name ++ "." ++ name ∉ Entries.keys source) :
    storedIn origin source = fields := by
  obtain ⟨before, after, rfl⟩ := List.append_of_mem (Entries.mem_of_find? hsection)
  -- The other keys stand before or behind that of the section.
  obtain ⟨-, hafter, hbefore⟩ := List.pairwise_append.1 hsorted
  have hnil : ∀ e ∈ before ++ after, sectionFields origin e.1 e.2 = [] := by
    intro e he
    refine sectionFields_eq_nil ?_ (fun name hname => hdotted name ?_) e.2
    · intro hname
      rcases List.mem_append.1 he with he | he
      · exact String.lt_irrefl _ (hname ▸ hbefore e he _ List.mem_cons_self)
      · exact String.lt_irrefl _ (hname ▸ (List.pairwise_cons.1 hafter).1 e he)
    · rw [← hname]
      refine List.mem_map_of_mem ?_
      simp only [List.mem_append, List.mem_cons] at he ⊢
      tauto
  have hown : sectionFields origin origin.name (.obj fields) = fields := by
    simp [sectionFields, Json.fields?]
  have hbefore' : before.flatMap (fun e => sectionFields origin e.1 e.2) = [] :=
    List.flatMap_eq_nil_iff.2 fun e he => hnil e (List.mem_append_left _ he)
  have hafter' : after.flatMap (fun e => sectionFields origin e.1 e.2) = [] :=
    List.flatMap_eq_nil_iff.2 fun e he => hnil e (List.mem_append_right _ he)
  show (before ++ (origin.name, Json.obj fields) :: after).flatMap
    (fun e => sectionFields origin e.1 e.2) = fields
  rw [List.flatMap_append, List.flatMap_cons, hbefore', hafter', hown, List.nil_append,
    List.append_nil]

section Label

variable {f : Field} {key : String} {value : Json}

/-- A field with the label of a known one is that field, or one that the catalog does not know. -/
theorem publicName_eq_iff (hknown : catalog.byStorage origin key = some f) (k : String) :
    publicName catalog origin k = f.publicName ↔
      k = key ∨ (k = f.publicName ∧ catalog.byStorage origin k = none) := by
  unfold publicName
  cases hk : catalog.byStorage origin k with
  | none =>
    refine ⟨fun h => Or.inr ⟨h, rfl⟩, ?_⟩
    rintro (rfl | ⟨rfl, -⟩)
    · rw [hknown] at hk
      cases hk
    · rfl
  | some g =>
    refine ⟨fun h => Or.inl (Catalog.storageName_inj hknown hk h), ?_⟩
    rintro (rfl | ⟨-, hnone⟩)
    · rw [hknown, Option.some.injEq] at hk
      rw [hk]
    · cases hnone

/-- In a section with sorted keys, the last field with the label of a known one has its value exactly
when no field that the catalog does not know has the label for its key, behind the known one and
with another value. -/
theorem exists_getLast?_label (hfields : Entries.Sorted fields) (hmem : (key, value) ∈ fields)
    (hknown : catalog.byStorage origin key = some f) :
    ∃ last, (fields.filter fun e => publicName catalog origin e.1 == f.publicName).getLast? =
        some last ∧
      (last.2 = value ↔ ∀ other, (f.publicName, other) ∈ fields →
        catalog.byStorage origin f.publicName = none → key < f.publicName → other = value) := by
  have hpass : ∀ e : String × Json, (publicName catalog origin e.1 == f.publicName) = true ↔
      e.1 = key ∨ (e.1 = f.publicName ∧ catalog.byStorage origin e.1 = none) := by
    intro e
    rw [beq_iff_eq, publicName_eq_iff hknown]
  have hown : (publicName catalog origin key == f.publicName) = true :=
    (hpass (key, value)).2 (Or.inl rfl)
  obtain ⟨last, hlast, hlastmem, hlastpass, hbehind⟩ := hfields.exists_getLast?_filter
    (p := fun e => publicName catalog origin e.1 == f.publicName) hmem hown
  refine ⟨last, hlast, ?_, ?_⟩
  · rintro rfl other hother hnone hlt
    rcases hbehind _ hother ((hpass (f.publicName, other)).2 (Or.inr ⟨rfl, hnone⟩)) with
      rfl | hbefore
    · rfl
    · rcases (hpass last).1 hlastpass with hkey | ⟨hlabel, -⟩
      · rw [hkey] at hbefore
        exact absurd hlt (String.lt_asymm hbefore)
      · rw [hlabel] at hbefore
        exact absurd hbefore (String.lt_irrefl _)
  · intro hothers
    rcases (hpass last).1 hlastpass with hkey | ⟨hlabel, hnone⟩
    · exact hfields.eq_of_mem hmem (hkey ▸ hlastmem)
    · rw [hlabel] at hnone
      have hlt : key < f.publicName := by
        rcases hbehind _ hmem hown with heq | hlt
        · -- The key is known, and the label is not.
          rw [← hlabel, ← heq, hknown] at hnone
          cases hnone
        · rwa [← hlabel]
      exact hothers last.2 (hlabel ▸ hlastmem) hnone hlt

/-- A known field of the processed section is shown with its value under its public name exactly
when the section has no field that the catalog does not know, with that name for its key, behind the
known one and with another value. No other key of the report displaces it. -/
theorem labelled_iff (catalog : Catalog) {hit : Json}
    (hsource : (hit.get? "_source").getD hit = .obj source) (hsorted : Entries.Sorted source)
    (hsection : Entries.find? "processed_crash" source = some (.obj fields))
    (hfields : Entries.Sorted fields)
    (hdotted : ∀ name, "processed_crash." ++ name ∉ Entries.keys source)
    (hmem : (key, value) ∈ fields) (hknown : catalog.byStorage .processed key = some f) :
    Entries.find? f.publicName (ofHit catalog [] hit) = some value ↔
      ∀ other, (f.publicName, other) ∈ fields →
        catalog.byStorage .processed f.publicName = none → key < f.publicName → other = value := by
  have hstored : storedIn .processed source = fields := storedIn_of_find? hsorted hsection hdotted
  have hhit : ofHit catalog [] hit = flatten catalog source := by
    unfold ofHit
    rw [hsource]
    rfl
  obtain ⟨last, hlast, hiff⟩ := exists_getLast?_label hfields hmem hknown
  rw [hhit, flatten, find?_writeSection, hstored, hlast, Option.map_some, Option.some_or,
    Option.some.injEq, hiff]

end Label

/-- A build is shown as it is stored, although other sections have something else under its public
name. -/
theorem labelled_build :
    let source := [("build_id", Json.str "2"),
      ("processed_crash", .obj [("adapter", .str "none"), ("build", .nat 20240101)]),
      ("raw_crash", .obj [("build_id", .str "1")])]
    Entries.find? "build_id" (ofHit Catalog.builtin [] (.obj [("_source", .obj source)])) =
      some (.nat 20240101) := by
  intro source
  have hsorted : Entries.Sorted source := by
    unfold Entries.Sorted
    decide
  have hfields : Entries.Sorted [("adapter", Json.str "none"), ("build", .nat 20240101)] := by
    unfold Entries.Sorted
    decide
  have hdotted : ∀ name, "processed_crash." ++ name ∉ Entries.keys source := by
    intro name hname
    have hstart : ∀ k ∈ Entries.keys source, k.toList.take 16 ≠ "processed_crash.".toList := by
      decide
    exact hstart _ hname (by rw [String.toList_append]; rfl)
  obtain ⟨f, hknown, hlabel⟩ : ∃ f, Catalog.builtin.byStorage .processed "build" = some f ∧
      f.publicName = "build_id" := ⟨_, rfl, rfl⟩
  have hsource : (Json.get? "_source" (.obj [("_source", .obj source)])).getD
      (.obj [("_source", .obj source)]) = .obj source := rfl
  have hmem : ("build", Json.nat 20240101) ∈
      [("adapter", Json.str "none"), ("build", .nat 20240101)] := by simp
  have hshown := labelled_iff Catalog.builtin hsource hsorted rfl hfields hdotted hmem hknown
  rw [hlabel] at hshown
  refine hshown.2 fun other hother => ?_
  simp at hother

/-- A field that the catalog does not know is shown in the place of a build whose public name it
has for its key. -/
theorem not_labelled_build :
    (Catalog.builtin.byStorage .processed "build").map Field.publicName = some "build_id" ∧
    Entries.find? "build_id" (ofHit Catalog.builtin [] (.obj [("_source", .obj
      [("processed_crash", .obj [("build", .nat 20240101), ("build_id", .str "x")])])])) =
        some (.str "x") ∧
    Json.str "x" ≠ .nat 20240101 := by
  refine ⟨rfl, rfl, ?_⟩
  intro h
  cases h

end Results

end CrashQuery
