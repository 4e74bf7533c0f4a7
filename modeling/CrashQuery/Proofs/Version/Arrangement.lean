import CrashQuery.Proofs.Version.Keys
import Mathlib.Data.List.Perm.Basic

/-!
# Tables of the same entries

The entries of a version table are set one after the other under their lower-case keys, so that of
the entries whose keys differ in case only the last one is found (`find?_ofEntries`). Their order is
not part of what a text defines. Tables that are made of the same entries in different orders answer
alike exactly when any two entries of one lower-case key are the same
(`answersAlike_of_perm_iff`); two spellings of one key with different entries make tables that differ
(`not_answersAlike_spellings`).
-/

namespace CrashQuery.VersionTable

open Text

variable {entries : List (String × VersionInfo)}

/-- Whether two tables know the same about all versions, whichever of them are asked for. -/
def AnswersAlike (t u : VersionTable) : Prop := ∀ keys, t.findAll keys = u.findAll keys

/-- Tables answer alike when they have the same for each key. -/
theorem answersAlike_iff {t u : VersionTable} :
    t.AnswersAlike u ↔ ∀ key, t.find? key = u.find? key := by
  constructor
  · intro h key
    have hkey := congrArg (Entries.find? key) (h [key])
    rwa [find?_findAll, find?_findAll, if_pos List.mem_cons_self, if_pos List.mem_cons_self] at hkey
  · intro h keys
    unfold findAll
    simp only [h]

/-- A table is made of its entries under their lower-case keys. -/
theorem entries_ofEntries (entries : List (String × VersionInfo)) :
    (ofEntries entries).entries = Entries.ofList (entries.map fun e => (lowered e.1, e.2)) := by
  have hfold : ∀ (entries : List (String × VersionInfo)) (t : VersionTable),
      (entries.foldl (fun t e => t.insert e.1 e.2) t).entries =
        (entries.map fun e => (lowered e.1, e.2)).foldl
          (fun m e => Entries.insert e.1 e.2 m) t.entries := by
    intro entries
    induction entries with
    | nil => exact fun _ => rfl
    | cons e rest ih => exact fun t => ih (t.insert e.1 e.2)
  exact hfold entries empty

/-- What is found is the last of the entries whose keys differ from the given one in case only. -/
theorem find?_ofEntries (entries : List (String × VersionInfo)) (key : String) :
    (ofEntries entries).find? key =
      (entries.filter fun e => lowered e.1 == lowered key).getLast?.map Prod.snd := by
  unfold find?
  rw [entries_ofEntries, Entries.find?_ofList, List.filter_map, List.getLast?_map, Option.map_map]
  rfl

/-- An entry that is set last is found. -/
theorem find?_ofEntries_concat (e : String × VersionInfo) :
    (ofEntries (entries ++ [e])).find? e.1 = some e.2 := by
  have hlast : [e].filter (fun f => lowered f.1 == lowered e.1) = [e] :=
    List.filter_cons_of_pos (beq_self_eq_true (lowered e.1))
  rw [find?_ofEntries, List.filter_append, hlast, List.getLast?_concat, Option.map_some]

/-- What is found for a key is the same for all orders of entries that agree. -/
theorem find?_ofEntries_of_perm {others : List (String × VersionInfo)}
    (hagree : ∀ e ∈ entries, ∀ f ∈ entries, lowered e.1 = lowered f.1 → e.2 = f.2)
    (hperm : others.Perm entries) (key : String) :
    (ofEntries others).find? key = (ofEntries entries).find? key := by
  rw [find?_ofEntries, find?_ofEntries]
  have hsame := hperm.filter fun e => lowered e.1 == lowered key
  -- Either list ends with one of the entries for the key, and all of these are the same.
  cases hothers : (others.filter fun e => lowered e.1 == lowered key).getLast? with
  | none =>
    rw [List.getLast?_eq_none_iff] at hothers
    rw [hothers, List.nil_perm] at hsame
    rw [hsame]
    rfl
  | some e =>
    cases hentries : (entries.filter fun e => lowered e.1 == lowered key).getLast? with
    | none =>
      rw [List.getLast?_eq_none_iff] at hentries
      rw [hentries, List.perm_nil] at hsame
      rw [hsame] at hothers
      cases hothers
    | some f =>
      obtain ⟨he, hekey⟩ := List.mem_filter.1 (hsame.mem_iff.1 (List.mem_of_getLast? hothers))
      obtain ⟨hf, hfkey⟩ := List.mem_filter.1 (List.mem_of_getLast? hentries)
      rw [beq_iff_eq] at hekey hfkey
      exact congrArg some (hagree e he f hf (hekey.trans hfkey.symm))

/-- All orders of the entries give tables that answer alike exactly when entries whose keys differ in
case only say the same. -/
theorem answersAlike_of_perm_iff (entries : List (String × VersionInfo)) :
    (∀ one other, one.Perm entries → other.Perm entries →
      (ofEntries one).AnswersAlike (ofEntries other)) ↔
    ∀ e ∈ entries, ∀ f ∈ entries, lowered e.1 = lowered f.1 → e.2 = f.2 := by
  constructor
  · -- Each of the two entries is found when it is set last.
    intro h e he f hf hkey
    obtain ⟨before, after, hentries⟩ := List.append_of_mem he
    obtain ⟨before', after', hentries'⟩ := List.append_of_mem hf
    have hperm : (before ++ after ++ [e]).Perm entries :=
      hentries ▸ (List.perm_append_singleton e _).trans List.perm_middle.symm
    have hperm' : (before' ++ after' ++ [f]).Perm entries :=
      hentries' ▸ (List.perm_append_singleton f _).trans List.perm_middle.symm
    have hfound := answersAlike_iff.1 (h _ _ hperm hperm') e.1
    have hlast : (ofEntries (before' ++ after' ++ [f])).find? e.1 = some f.2 := by
      have hown : (ofEntries (before' ++ after' ++ [f])).find? f.1 = some f.2 :=
        find?_ofEntries_concat f
      rw [← hown]
      unfold find?
      rw [hkey]
    rw [find?_ofEntries_concat, hlast] at hfound
    exact Option.some.inj hfound
  · intro hagree one other hone hother
    rw [answersAlike_iff]
    intro key
    rw [find?_ofEntries_of_perm hagree hone, find?_ofEntries_of_perm hagree hother]

/-- Two spellings of one key: a beta is known under the one, and a nightly version under the other. -/
def sampleSpellings : List (String × VersionInfo) :=
  [("Alpha:3.0b2", VersionRule.sampleBeta), ("alpha:3.0b2", ⟨"nightly", "4.0", []⟩)]

/-- The keys of the two spellings are distinct, and each order of them makes a table of its own. -/
theorem not_answersAlike_spellings :
    (sampleSpellings.map Prod.fst).Nodup ∧ sampleSpellings.reverse.Perm sampleSpellings ∧
    (ofEntries sampleSpellings).find? "alpha:3.0b2" = some ⟨"nightly", "4.0", []⟩ ∧
    (ofEntries sampleSpellings.reverse).find? "alpha:3.0b2" = some VersionRule.sampleBeta ∧
    ¬(ofEntries sampleSpellings).AnswersAlike (ofEntries sampleSpellings.reverse) := by
  have hforward : (ofEntries sampleSpellings).find? "alpha:3.0b2" =
      some ⟨"nightly", "4.0", []⟩ := by
    decide +kernel
  have hbackward : (ofEntries sampleSpellings.reverse).find? "alpha:3.0b2" =
      some VersionRule.sampleBeta := by
    decide +kernel
  refine ⟨by decide, List.reverse_perm _, hforward, hbackward, fun halike => ?_⟩
  have hsame := answersAlike_iff.1 halike "alpha:3.0b2"
  rw [hforward, hbackward] at hsame
  exact absurd hsame (by decide)

end CrashQuery.VersionTable
