import CrashQuery.Catalog
import CrashQuery.Proofs.Outcome
import Mathlib.Data.List.Nodup

/-!
# Overriding fields

A catalog is made of a list of fields, and then fields of it are replaced or added one after
another. Every time the positions of all names are noted anew, so that what is found by a name is
what a search through the list finds (`Catalog.isFaithful`). `Catalog.overrides_of_withOverride`
says what one override changes, `Catalog.lookup_of_overrides` what a run of them leaves under each
public name, and `Catalog.faithful_overrides` joins these with the question when lists and overrides
are accepted.
-/

namespace CrashQuery.Catalog

open Outcome

variable {c d : Catalog} {f g : Field} {fields : List Field}

/-- Fields of other names stay in front of the field that is replaced or added. -/
theorem replaceIn_append {before : List Field} (h : ∀ g ∈ before, g.publicName ≠ f.publicName)
    (rest : List Field) : replaceIn f (before ++ rest) = before ++ replaceIn f rest := by
  induction before with
  | nil => rfl
  | cons g before ih =>
    obtain ⟨hfirst, hbefore⟩ := List.forall_mem_cons.1 h
    rw [List.cons_append, replaceIn, if_neg hfirst, ih hbefore, List.cons_append]

/-- The first field of the name is replaced, or the field is added at the end. -/
theorem replaceIn_cases (f : Field) (fields : List Field) :
    (∃ before g after, fields = before ++ g :: after ∧ g.publicName = f.publicName ∧
      (∀ k ∈ before, k.publicName ≠ f.publicName) ∧ replaceIn f fields = before ++ f :: after) ∨
    ((∀ g ∈ fields, g.publicName ≠ f.publicName) ∧ replaceIn f fields = fields ++ [f]) := by
  cases hfound : fields.find? fun g => g.publicName == f.publicName with
  | none =>
    have hnone : ∀ g ∈ fields, g.publicName ≠ f.publicName := by simpa using hfound
    refine Or.inr ⟨hnone, ?_⟩
    have happend := replaceIn_append hnone []
    rwa [List.append_nil] at happend
  | some g =>
    obtain ⟨hname, before, after, rfl, hbefore⟩ := List.find?_eq_some_iff_append.1 hfound
    rw [beq_iff_eq] at hname
    have hothers : ∀ k ∈ before, k.publicName ≠ f.publicName := by simpa using hbefore
    refine Or.inl ⟨before, g, after, rfl, hname, hothers, ?_⟩
    rw [replaceIn_append hothers, replaceIn, if_pos hname]

/-- Only the given field is new. -/
theorem eq_or_mem_of_mem_replaceIn (h : g ∈ replaceIn f fields) : g = f ∨ g ∈ fields := by
  rcases replaceIn_cases f fields with ⟨before, k, after, rfl, -, -, heq⟩ | ⟨-, heq⟩
  · rw [heq, List.mem_append, List.mem_cons] at h
    rcases h with h | rfl | h
    · exact Or.inr (List.mem_append_left _ h)
    · exact Or.inl rfl
    · exact Or.inr (List.mem_append_right _ (List.mem_cons_of_mem _ h))
  · rw [heq, List.mem_append, List.mem_singleton] at h
    exact h.symm

/-- Distinct public names stay distinct. -/
theorem nodup_replaceIn (h : (fields.map Field.publicName).Nodup) :
    ((replaceIn f fields).map Field.publicName).Nodup := by
  rcases replaceIn_cases f fields with ⟨before, k, after, rfl, hname, -, heq⟩ | ⟨hnone, heq⟩
  · rw [heq]
    simpa only [List.map_append, List.map_cons, hname] using h
  · rw [heq, List.map_append, List.map_singleton, List.nodup_append]
    refine ⟨h, List.nodup_singleton _, ?_⟩
    intro name hmem other hother
    obtain ⟨g, hg, rfl⟩ := List.mem_map.1 hmem
    rw [List.mem_singleton.1 hother]
    exact hnone g hg

/-- The given field is in the list. -/
theorem self_mem_replaceIn (f : Field) (fields : List Field) : f ∈ replaceIn f fields := by
  rcases replaceIn_cases f fields with ⟨before, g, after, -, -, -, heq⟩ | ⟨-, heq⟩ <;> simp [heq]

/-- A search by public names finds the given field under its name, and the same as before under
every other name. -/
theorem find?_replaceIn (f : Field) (fields : List Field) (name : String) :
    ((replaceIn f fields).find? fun g => g.publicName == name) =
      if name = f.publicName then some f else fields.find? fun g => g.publicName == name := by
  rcases replaceIn_cases f fields with ⟨before, k, after, rfl, hname, hothers, heq⟩ | ⟨hnone, heq⟩
  · rw [heq, List.find?_append, List.find?_append, List.find?_cons, List.find?_cons, hname]
    by_cases hown : name = f.publicName
    · subst hown
      have hbefore : (before.find? fun g => g.publicName == f.publicName) = none := by
        simpa using hothers
      rw [hbefore, beq_self_eq_true, Option.none_or, if_pos rfl]
    · rw [if_neg hown, beq_eq_false_iff_ne.2 (Ne.symm hown)]
  · rw [heq, List.find?_append, List.find?_singleton]
    by_cases hown : name = f.publicName
    · subst hown
      have hfields : (fields.find? fun g => g.publicName == f.publicName) = none := by
        simpa using hnone
      rw [hfields, beq_self_eq_true, Option.none_or, if_pos rfl, if_pos rfl]
    · rw [if_neg hown, beq_eq_false_iff_ne.2 (Ne.symm hown), if_neg Bool.false_ne_true,
        Option.or_none]

/-- Replacing a field by itself changes nothing. -/
theorem replaceIn_replaceIn (f : Field) (fields : List Field) :
    replaceIn f (replaceIn f fields) = replaceIn f fields := by
  rcases replaceIn_cases f fields with ⟨before, k, after, -, -, hothers, heq⟩ | ⟨hnone, heq⟩
  · rw [heq, replaceIn_append hothers, replaceIn, if_pos rfl]
  · rw [heq, replaceIn_append hnone, replaceIn, if_pos rfl]

/-- The one field of the name is replaced where it stands. -/
theorem replaceIn_eq_set (hnodup : (fields.map Field.publicName).Nodup) {i : Nat}
    (hg : fields[i]? = some g) (hname : g.publicName = f.publicName) :
    replaceIn f fields = fields.set i f := by
  rcases replaceIn_cases f fields with ⟨before, k, after, rfl, hk, -, heq⟩ | ⟨hnone, -⟩
  · -- Public names are distinct, so this is the position of the field that is replaced.
    have hi : before.length = i := by
      refine (List.getElem?_inj (by simp) hnodup).1 ?_
      rw [List.getElem?_map, List.getElem?_map, hg, Option.map_some, hname, ← hk]
      simp
    rw [heq, ← hi, List.set_append_right _ _ (Nat.le_refl _), Nat.sub_self, List.set_cons_zero]
  · exact absurd hname (hnone g (List.mem_of_getElem? hg))

/-- A list of fields is made into the catalog that has these fields. -/
theorem ofFields_eq_ok_iff {version : Nat} :
    ofFields version fields = .ok c ↔ c.version = version ∧ c.fields = fields := by
  unfold ofFields
  constructor
  · intro h
    split at h
    · rw [Except.ok.injEq] at h
      rw [← h]
      exact ⟨rfl, rfl⟩
    · cases h
  · rintro ⟨rfl, rfl⟩
    -- The positions are determined by the fields.
    have hnoted := c.noteAll_fields
    split
    · next positions h =>
      obtain ⟨version, fields, noted, faultless⟩ := c
      rw [h, Except.ok.injEq] at hnoted
      cases hnoted
      rfl
    · next fault h =>
      rw [h] at hnoted
      cases hnoted

/-- A list of fields is accepted exactly when its fields are valid and their public names are
distinct. -/
theorem exists_ofFields_iff {version : Nat} : (∃ c, ofFields version fields = .ok c) ↔
    (∀ f ∈ fields, f.isValid = true) ∧ (fields.map Field.publicName).Nodup := by
  have hnoted : (∃ q, Positions.noteAll {} 0 fields = .ok q) ↔
      (∀ f ∈ fields, f.isValid = true) ∧ (fields.map Field.publicName).Nodup := by
    rw [Positions.exists_noteAll_iff]
    simp [Positions.AreNew]
  rw [← hnoted]
  constructor
  · rintro ⟨c, hc⟩
    obtain ⟨-, rfl⟩ := ofFields_eq_ok_iff.1 hc
    exact ⟨c.positions, c.noteAll_fields⟩
  · rintro ⟨positions, h⟩
    exact ⟨⟨version, fields, positions, by rw [h]; rfl⟩, ofFields_eq_ok_iff.2 ⟨rfl, rfl⟩⟩

/-- An override keeps the version and replaces the field in the list. -/
theorem withOverride_eq_ok_iff : c.withOverride f = .ok d ↔
    d.version = c.version ∧ d.fields = replaceIn f c.fields :=
  ofFields_eq_ok_iff

/-- An override succeeds exactly when its field is valid. -/
theorem exists_withOverride_iff : (∃ d, c.withOverride f = .ok d) ↔ f.isValid = true := by
  unfold withOverride
  rw [exists_ofFields_iff]
  constructor
  · rintro ⟨hvalid, -⟩
    exact hvalid f (self_mem_replaceIn f c.fields)
  · intro hvalid
    refine ⟨fun g hg => ?_, nodup_replaceIn c.nodup_publicName⟩
    rcases eq_or_mem_of_mem_replaceIn hg with rfl | hmem
    · exact hvalid
    · exact c.isValid_of_mem hmem

/-- The fault of an override is that its field is invalid. -/
theorem invalid_of_withOverride {fault : SettingsFault} (h : c.withOverride f = .error fault) :
    f.isValid = false ∧ fault = .invalidField f.publicName := by
  unfold withOverride ofFields at h
  split at h
  · cases h
  · next other hnoted =>
    rw [Except.error.injEq] at h
    subst h
    obtain ⟨g, hg, hinvalid, hfault⟩ :=
      Positions.invalid_of_noteAll ⟨nodup_replaceIn c.nodup_publicName, fun _ _ => rfl⟩ hnoted
    -- The fields of the catalog are valid, so the invalid one is the new one.
    rcases eq_or_mem_of_mem_replaceIn hg with rfl | hmem
    · exact ⟨hinvalid, hfault⟩
    · rw [c.isValid_of_mem hmem] at hinvalid
      cases hinvalid

/-- An override fails exactly when its field is invalid, which is then the fault. -/
theorem withOverride_eq_error_iff {fault : SettingsFault} : c.withOverride f = .error fault ↔
    f.isValid = false ∧ fault = .invalidField f.publicName := by
  refine ⟨invalid_of_withOverride, ?_⟩
  rintro ⟨hinvalid, rfl⟩
  cases h : c.withOverride f with
  | ok d =>
    rw [exists_withOverride_iff.1 ⟨d, h⟩] at hinvalid
    cases hinvalid
  | error fault => rw [(invalid_of_withOverride h).2]

/-- Whether what is found in a catalog by names is what its fields are. -/
structure IsFaithful (c : Catalog) : Prop where
  /-- The public names are distinct. -/
  distinct : (c.fields.map Field.publicName).Nodup
  /-- The field that is found by a public name is the one that bears it. -/
  lookup_eq_some_iff : ∀ name f, c.lookup name = some f ↔ f ∈ c.fields ∧ f.publicName = name
  /-- No field is found by a public name that none bears. -/
  lookup_eq_none_iff : ∀ name, c.lookup name = none ↔ ∀ f ∈ c.fields, f.publicName ≠ name
  /-- The field that is found by a place is the first one there. -/
  byStorage_eq_some_iff : ∀ origin name f, c.byStorage origin name = some f ↔
    ∃ before after, c.fields = before ++ f :: after ∧
      (f.origin = origin ∧ f.storageName = name) ∧
      ∀ g ∈ before, ¬ (g.origin = origin ∧ g.storageName = name)
  /-- No field is found by a place where none is. -/
  byStorage_eq_none_iff : ∀ origin name, c.byStorage origin name = none ↔
    ∀ f ∈ c.fields, ¬ (f.origin = origin ∧ f.storageName = name)
  /-- A position that is noted of a public name is one of the list. -/
  byName_lt : ∀ name i, c.positions.byName.lookup name = some i → i < c.fields.length
  /-- A position that is noted of a place is one of the list. -/
  byPlace_lt : ∀ place i, c.positions.byPlace.lookup place = some i → i < c.fields.length

/-- What is found in a catalog by names is what its fields are. -/
theorem isFaithful (c : Catalog) : c.IsFaithful where
  distinct := c.nodup_publicName
  lookup_eq_some_iff _ _ := Catalog.lookup_eq_some_iff
  lookup_eq_none_iff name := by
    rw [lookup_eq_find?]
    simp
  byStorage_eq_some_iff origin name f := by
    rw [byStorage_eq_find?, List.find?_eq_some_iff_append]
    simp [Field.place, and_comm, and_left_comm, and_assoc]
  byStorage_eq_none_iff origin name := by
    rw [byStorage_eq_find?]
    simp [Field.place]
  byName_lt name i h := by
    rw [c.indexes_positions.byName] at h
    exact (List.findIdx?_eq_some_iff_getElem.1 h).1
  byPlace_lt place i h := by
    rw [c.indexes_positions.byPlace] at h
    exact (List.findIdx?_eq_some_iff_getElem.1 h).1

/-- What an override changes in a catalog. -/
structure Overrides (c : Catalog) (f : Field) (d : Catalog) : Prop where
  /-- The version stays. -/
  version : d.version = c.version
  /-- The field is found by its public name. -/
  own : d.lookup f.publicName = some f
  /-- Under every other public name the same is found. -/
  others : ∀ name, name ≠ f.publicName → d.lookup name = c.lookup name
  /-- A field of the public name is replaced where it stands. -/
  replaced : ∀ i g, c.fields[i]? = some g → g.publicName = f.publicName →
    d.fields = c.fields.set i f
  /-- A field of a new public name is added at the end. -/
  added : (∀ g ∈ c.fields, g.publicName ≠ f.publicName) → d.fields = c.fields ++ [f]
  /-- The same override once more changes nothing. -/
  again : d.withOverride f = .ok d

/-- An override that succeeds changes what it should, and nothing else. -/
theorem overrides_of_withOverride (h : c.withOverride f = .ok d) : c.Overrides f d := by
  obtain ⟨hversion, hfields⟩ := withOverride_eq_ok_iff.1 h
  have hlookup : ∀ name, d.lookup name =
      if name = f.publicName then some f else c.lookup name := fun name => by
    rw [lookup_eq_find?, hfields, find?_replaceIn, ← lookup_eq_find?]
  refine ⟨hversion, ?_, fun name hother => ?_, fun i g hg hname => ?_, fun hnew => ?_, ?_⟩
  · rw [hlookup, if_pos rfl]
  · rw [hlookup, if_neg hother]
  · rw [hfields, replaceIn_eq_set c.nodup_publicName hg hname]
  · have happend := replaceIn_append hnew []
    rw [List.append_nil] at happend
    rw [hfields, happend, replaceIn]
  · rw [withOverride_eq_ok_iff, hfields, replaceIn_replaceIn]
    exact ⟨rfl, rfl⟩

/-- After a run of overrides the version is the same, and the last override of a public name is
found by it, or else the field that was found before. -/
theorem lookup_of_overrides {overrides : List Field} (h : overrides.foldlM withOverride c = .ok d) :
    d.version = c.version ∧ ∀ name, d.lookup name =
      (overrides.reverse.find? fun f => f.publicName == name).or (c.lookup name) := by
  induction overrides generalizing c with
  | nil =>
    cases h
    exact ⟨rfl, fun _ => rfl⟩
  | cons f rest ih =>
    obtain ⟨next, hnext, hrest⟩ := bind_eq_ok.1 h
    have hstep := overrides_of_withOverride hnext
    obtain ⟨hversion, hlookup⟩ := ih hrest
    refine ⟨hversion.trans hstep.version, fun name => ?_⟩
    rw [hlookup, List.reverse_cons, List.find?_append, Option.or_assoc, List.find?_singleton]
    by_cases hown : name = f.publicName
    · subst hown
      rw [hstep.own, beq_self_eq_true, if_pos rfl, Option.some_or]
    · rw [hstep.others name hown, beq_eq_false_iff_ne.2 (Ne.symm hown),
        if_neg Bool.false_ne_true, Option.none_or]

/-- A list of fields is accepted exactly when its fields are valid and their public names are
distinct. In a catalog that is made of it by any run of overrides, names find what the fields are,
and a further override fails only by the fault that its field is invalid, and otherwise changes what
it should. -/
theorem faithful_overrides (version : Nat) (fields : List Field) :
    ((∃ base, ofFields version fields = .ok base) ↔
      (∀ f ∈ fields, f.isValid = true) ∧ (fields.map Field.publicName).Nodup) ∧
    ∀ base, ofFields version fields = .ok base →
      base.version = version ∧ base.fields = fields ∧
      ∀ (overrides : List Field) (c : Catalog), overrides.foldlM withOverride base = .ok c →
        c.IsFaithful ∧ c.version = version ∧
        (∀ name, c.lookup name =
          (overrides.reverse.find? fun f => f.publicName == name).or (base.lookup name)) ∧
        ∀ f, (∀ fault, c.withOverride f = .error fault ↔
            f.isValid = false ∧ fault = .invalidField f.publicName) ∧
          ∀ d, c.withOverride f = .ok d → c.Overrides f d := by
  refine ⟨exists_ofFields_iff, fun base hbase => ?_⟩
  obtain ⟨hversion, hfields⟩ := ofFields_eq_ok_iff.1 hbase
  refine ⟨hversion, hfields, fun overrides c hrun => ?_⟩
  obtain ⟨hkept, hlookup⟩ := lookup_of_overrides hrun
  exact ⟨c.isFaithful, hkept.trans hversion, hlookup,
    fun f => ⟨fun _ => withOverride_eq_error_iff, fun _ => overrides_of_withOverride⟩⟩

/-- A field that shares its place with `uptimeRange`. -/
def uptime : Field where
  publicName := "uptime"
  storageName := "uptime"
  origin := .processed
  kind := .integer

/-- A field behind `uptime` in the same place. -/
def uptimeRange : Field := { uptime with publicName := "uptime_range" }

/-- The field in another place. -/
def movedUptime : Field := { uptime with storageName := "seconds" }

/-- A catalog of two fields in one place. -/
def uptimeCatalog : Catalog where
  version := 1
  fields := [uptime, uptimeRange]
  faultless := by decide

/-- The catalog with the first field moved. -/
def movedCatalog : Catalog where
  version := 1
  fields := [movedUptime, uptimeRange]
  faultless := by decide

/-- A field that is moved away from a place frees it for the one behind it, and takes it back when
it returns. -/
theorem faithful_overrides_uptime :
    ofFields 1 [uptime, uptimeRange] = .ok uptimeCatalog ∧
      [movedUptime].foldlM withOverride uptimeCatalog = .ok movedCatalog ∧
      movedCatalog.withOverride uptime = .ok uptimeCatalog ∧ movedCatalog.IsFaithful ∧
      movedCatalog.Overrides uptime uptimeCatalog ∧
      uptimeCatalog.byStorage .processed "uptime" = some uptime ∧
      movedCatalog.byStorage .processed "uptime" = some uptimeRange := by
  have hbase : ofFields 1 [uptime, uptimeRange] = .ok uptimeCatalog :=
    ofFields_eq_ok_iff.2 ⟨rfl, rfl⟩
  have hmoved : uptimeCatalog.withOverride movedUptime = .ok movedCatalog :=
    withOverride_eq_ok_iff.2 ⟨rfl, rfl⟩
  have hrun : [movedUptime].foldlM withOverride uptimeCatalog = .ok movedCatalog := by
    rw [List.foldlM_cons, hmoved]
    rfl
  have hback : movedCatalog.withOverride uptime = .ok uptimeCatalog :=
    withOverride_eq_ok_iff.2 ⟨rfl, rfl⟩
  obtain ⟨-, -, hreached⟩ := (faithful_overrides 1 [uptime, uptimeRange]).2 _ hbase
  obtain ⟨hfaithful, -, -, hoverride⟩ := hreached _ _ hrun
  exact ⟨hbase, hrun, hback, hfaithful, (hoverride uptime).2 _ hback, rfl, rfl⟩

end CrashQuery.Catalog
