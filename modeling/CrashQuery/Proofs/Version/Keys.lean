import CrashQuery.Proofs.Entries
import CrashQuery.Proofs.Text.LowerCase
import CrashQuery.Version.Resolution
import Mathlib.Data.List.Basic

/-!
# Looking up version keys

Keys are looked up in a table and resolved one by one by what the table has for them (`ofKeys_eq`).
A product and a version are taken from a key without the blanks around them, but the key is looked up
as it is spelled. So a beta that the table knows under its product and version is resolved by its
major version, its channel and its builds exactly when the table knows it under the spelling of the
key too: `ofKeys_beta_iff`, where the builds of a table that is read from a text are sorted
(`hasSortedBuilds_of_ofText`). `ofKeys_blank` is a key with blanks that falls back to its literal
version. A key has a colon, which its product does not have in lower case either, so that the two are
never the same text (`lowered_product_ne_key`).
-/

namespace CrashQuery

open Json (Written)
open Text

/-- The values of a map that is read come from values that are read. -/
theorem Json.Written.exists_of_mapOf? {α : Type} {read : Written → Option α} {w : Written}
    {entries : List (String × α)} (h : Written.mapOf? read w = some entries) :
    ∀ e ∈ entries, ∃ v, read v = some e.2 := by
  have hfields : ∀ (fields : List (Option String × Written)) (entries : List (String × α)),
      Written.mapOf?.entriesOf? read fields = some entries →
        ∀ e ∈ entries, ∃ v, read v = some e.2 := by
    intro fields
    induction fields with
    | nil =>
      intro entries h
      rw [Written.mapOf?.entriesOf?, Option.some.injEq] at h
      simp [← h]
    | cons field rest ih =>
      obtain ⟨key, v⟩ := field
      intro entries h
      cases key with
      | none => simp [Written.mapOf?.entriesOf?] at h
      | some key =>
        rw [Written.mapOf?.entriesOf?] at h
        split at h
        · next a as hread hrest =>
          rw [Option.some.injEq] at h
          subst h
          intro e he
          rcases List.mem_cons.1 he with rfl | he
          · exact ⟨v, hread⟩
          · exact ih as hrest e he
        · cases h
  cases w with
  | record fields => exact hfields fields entries h
  | _ => simp [Written.mapOf?] at h

/-- The builds of an entry that is read are sorted, each once. -/
theorem VersionInfo.pairwise_of_ofWritten? {w : Written} {info : VersionInfo}
    (h : ofWritten? w = some info) : info.buildIds.Pairwise (· < ·) := by
  unfold ofWritten? at h
  obtain ⟨slots, -, h⟩ := Option.bind_eq_some_iff.1 h
  split at h
  · obtain ⟨channel, -, h⟩ := Option.bind_eq_some_iff.1 h
    obtain ⟨majorVersion, -, h⟩ := Option.bind_eq_some_iff.1 h
    obtain ⟨builds, -, h⟩ := Option.bind_eq_some_iff.1 h
    rw [← Option.some.inj h]
    exact Entries.pairwise_keys Entries.sorted_ofList
  · cases h

namespace VersionTable

/-- Whether the builds of all entries are sorted, each once. -/
def HasSortedBuilds (t : VersionTable) : Prop :=
  ∀ e ∈ t.entries, e.2.buildIds.Pairwise (· < ·)

variable {t : VersionTable}

/-- An entry that is found has sorted builds if all entries have. -/
theorem HasSortedBuilds.of_find? (h : t.HasSortedBuilds) {key : String} {info : VersionInfo}
    (hfind : t.find? key = some info) : info.buildIds.Pairwise (· < ·) :=
  h _ (Entries.mem_of_find? hfind)

/-- A table is made of entries with sorted builds. -/
theorem hasSortedBuilds_ofEntries {entries : List (String × VersionInfo)}
    (h : ∀ e ∈ entries, e.2.buildIds.Pairwise (· < ·)) : (ofEntries entries).HasSortedBuilds := by
  have hfold : ∀ (rest : List (String × VersionInfo)) (t : VersionTable),
      (∀ e ∈ rest, e.2.buildIds.Pairwise (· < ·)) → t.HasSortedBuilds →
        (rest.foldl (fun t e => t.insert e.1 e.2) t).HasSortedBuilds := by
    intro rest
    induction rest with
    | nil => exact fun t _ ht => ht
    | cons e rest ih =>
      intro t hrest ht
      refine ih _ (fun e he => hrest e (List.mem_cons_of_mem _ he)) ?_
      intro d hd
      rcases Entries.mem_of_mem_insert hd with rfl | hd
      · exact hrest e List.mem_cons_self
      · exact ht d hd
  exact hfold entries empty h (by simp [HasSortedBuilds, empty])

/-- A table that is read from a text has sorted builds. -/
theorem hasSortedBuilds_of_ofText {text : String} (h : ofText text = .ok t) :
    t.HasSortedBuilds := by
  unfold ofText at h
  split at h
  · next entries hentries =>
    obtain ⟨w, -, hmap⟩ := Option.bind_eq_some_iff.1 hentries
    rw [← Except.ok.inj h]
    refine hasSortedBuilds_ofEntries fun e he => ?_
    obtain ⟨v, hv⟩ := Written.exists_of_mapOf? hmap e (Entries.mem_of_mem_ofList he)
    exact VersionInfo.pairwise_of_ofWritten? hv
  · cases h

/-- What is found for one of the keys is what the table has for it. -/
theorem find?_findAll (t : VersionTable) (keys : List String) (key : String) :
    Entries.find? key (t.findAll keys) = if key ∈ keys then t.find? key else none := by
  unfold findAll
  induction keys with
  | nil => rfl
  | cons first rest ih =>
    rw [List.filterMap_cons]
    cases hfirst : t.find? first with
    | none =>
      rw [Option.map_none, ih]
      by_cases hkey : key = first
      · rw [hkey, hfirst]
        simp
      · simp [hkey]
    | some info =>
      rw [Option.map_some, Entries.find?_ofList_cons, ih]
      by_cases hkey : key = first
      · rw [hkey, hfirst]
        by_cases hrest : first ∈ rest <;> simp [hrest]
      · simp [hkey]

end VersionTable

namespace VersionRule

variable {restricted : List String}

/-- A key has a colon, and its lower-case product has none. -/
theorem lowered_product_ne_key {key product version : String}
    (h : splitKey? key = some (product, version)) : lowered product ≠ key := by
  unfold splitKey? at h
  split at h
  · cases h
  · next before after hsplit =>
    simp only at h
    split at h
    · cases h
    · cases h
      intro hkey
      have hcolon : ':' ∈ key.toList := by
        rw [eq_append_of_splitFirst? hsplit]
        simp
      rw [← hkey, lowered, String.toList_ofList, String.toList_ofList] at hcolon
      exact not_mem_of_splitFirst? hsplit (mem_of_mem_trim (mem_of_mem_lower hcolon (by decide)))

/-- A version is resolved as one of its product. -/
@[simp]
theorem product_resolve (restricted : List String) (product version : String)
    (info : Option VersionInfo) : (resolve restricted product version info).product =
      lowered product := by
  unfold resolve
  cases info with
  | none => rfl
  | some info =>
    simp only
    split
    · rfl
    · split <;> rfl

/-- The rule for a key by what is known. -/
def ofKey? (restricted : List String) (known : String → Option VersionInfo) (key : String) :
    Option VersionRule :=
  (splitKey? key).map fun p => resolve restricted p.1 p.2 (known key)

/-- The rules for keys that are looked up in a table. -/
def ofKeys (restricted : List String) (t : VersionTable) (keys : List String) : List VersionRule :=
  resolveAll restricted (t.findAll keys) keys

/-- Each key is resolved on its own, by what the table has for it. -/
theorem ofKeys_eq (t : VersionTable) (keys : List String) :
    ofKeys restricted t keys = keys.filterMap (ofKey? restricted t.find?) := by
  refine List.filterMap_congr fun key hkey => ?_
  unfold ofKey?
  rw [t.find?_findAll, if_pos hkey]

/-- The rule for a beta: the version that it leads up to, its channel and its builds. -/
def ofBeta (product : String) (info : VersionInfo) : VersionRule :=
  ⟨lowered product, info.majorVersion, some (.only betaChannel), some info.buildIds⟩

/-- A version is resolved as a given beta exactly when the entry that is found for it is one of a
beta with the same major version and the same builds. -/
theorem resolve_eq_ofBeta_iff (hrestricted : betaChannel ∈ restricted) {product version : String}
    {found : Option VersionInfo} {info : VersionInfo} :
    resolve restricted product version found = ofBeta product info ↔
      ∃ other, found = some other ∧ lowered other.channel = betaChannel ∧
        other.majorVersion = info.majorVersion ∧ other.buildIds = info.buildIds := by
  have hbeta : restricted.any (fun c => sameIgnoringAsciiCase c betaChannel) = true :=
    List.any_eq_true.2 ⟨betaChannel, hrestricted, beq_self_eq_true _⟩
  cases found with
  | none => simp [resolve, ofBeta]
  | some other =>
    simp only [Option.some.injEq, exists_eq_left']
    unfold resolve ofBeta
    by_cases hchannel : lowered other.channel = betaChannel
    · simp [hchannel, hbeta]
    · refine iff_of_false ?_ fun h => hchannel h.1
      simp only
      split
      · simp [hchannel]
      · split <;> simp

section Beta

variable {t : VersionTable} (ht : t.HasSortedBuilds) (hrestricted : betaChannel ∈ restricted)
  {key product version : String} {info : VersionInfo}
  (hsplit : splitKey? key = some (product, version))

include hrestricted hsplit

variable (t info) in
/-- Among other keys a key is resolved as a given beta exactly when the entry under its spelling is
one of a beta with the same major version and the same builds. -/
theorem ofKeys_eq_ofBeta_iff (before after : List String) :
    ofKeys restricted t (before ++ key :: after) =
        ofKeys restricted t before ++ ofBeta product info :: ofKeys restricted t after ↔
      ∃ other, t.find? key = some other ∧ lowered other.channel = betaChannel ∧
        other.majorVersion = info.majorVersion ∧ other.buildIds = info.buildIds := by
  have hkey : ofKey? restricted t.find? key =
      some (resolve restricted product version (t.find? key)) := by
    unfold ofKey?
    rw [hsplit, Option.map_some]
  rw [ofKeys_eq, ofKeys_eq, ofKeys_eq, List.filterMap_append, List.filterMap_cons, hkey,
    List.append_cancel_left_eq, List.cons.injEq, and_iff_left rfl,
    resolve_eq_ofBeta_iff hrestricted]

include ht

/-- A beta that the table has under its product and version is resolved by its major version, its
channel and its builds, which are sorted, exactly when the table has such an entry under the spelling
of the key; and it has when the key is written without blanks, in whatever case. -/
theorem ofKeys_beta_iff (hentry : t.find? (product ++ ":" ++ version) = some info)
    (hbeta : lowered info.channel = betaChannel) (before after : List String) :
    info.buildIds.Pairwise (· < ·) ∧
    (ofKeys restricted t (before ++ key :: after) =
        ofKeys restricted t before ++
          ⟨lowered product, info.majorVersion, some (.only betaChannel), some info.buildIds⟩ ::
            ofKeys restricted t after ↔
      ∃ other, t.find? key = some other ∧ lowered other.channel = betaChannel ∧
        other.majorVersion = info.majorVersion ∧ other.buildIds = info.buildIds) ∧
    (lowered key = lowered (product ++ ":" ++ version) →
      ofKeys restricted t (before ++ key :: after) =
        ofKeys restricted t before ++
          ⟨lowered product, info.majorVersion, some (.only betaChannel), some info.buildIds⟩ ::
            ofKeys restricted t after) := by
  have hiff := ofKeys_eq_ofBeta_iff t hrestricted info hsplit before after
  refine ⟨ht.of_find? hentry, hiff, fun hsame => hiff.2 ⟨info, ?_, hbeta, rfl, rfl⟩⟩
  unfold VersionTable.find? at hentry ⊢
  rw [hsame]
  exact hentry

end Beta

/-- What is known about a beta. -/
def sampleBeta : VersionInfo := ⟨"Beta", "3.0", ["1001", "1002"]⟩

/-- A table that knows a beta. -/
def sampleTable : VersionTable := VersionTable.ofEntries [("Alpha:3.0b2", sampleBeta)]

/-- In other capitals than those of the table the beta is resolved by its major version, its channel
and its builds. -/
theorem ofKeys_beta_capitals :
    sampleTable.HasSortedBuilds ∧ betaChannel ∈ ["aurora", "beta"] ∧
    splitKey? "ALPHA:3.0B2" = some ("ALPHA", "3.0B2") ∧
    sampleTable.find? ("ALPHA" ++ ":" ++ "3.0B2") = some sampleBeta ∧
    lowered sampleBeta.channel = betaChannel ∧
    ofKeys ["aurora", "beta"] sampleTable ["gamma:1.0", "ALPHA:3.0B2"] =
      [⟨"gamma", "1.0", none, none⟩,
        ⟨"alpha", "3.0", some (.only "beta"), some ["1001", "1002"]⟩] := by
  have ht : sampleTable.HasSortedBuilds :=
    VersionTable.hasSortedBuilds_ofEntries (by decide)
  have hsplit : splitKey? "ALPHA:3.0B2" = some ("ALPHA", "3.0B2") := by decide +kernel
  have hentry : sampleTable.find? ("ALPHA" ++ ":" ++ "3.0B2") = some sampleBeta := by
    decide +kernel
  have hbeta : lowered sampleBeta.channel = betaChannel := by decide +kernel
  have hrestricted : betaChannel ∈ ["aurora", "beta"] := by decide
  have hother : ofKeys ["aurora", "beta"] sampleTable ["gamma:1.0"] =
      [⟨"gamma", "1.0", none, none⟩] := by
    decide +kernel
  have hproduct : lowered "ALPHA" = "alpha" := by decide +kernel
  obtain ⟨-, -, hsame⟩ :=
    ofKeys_beta_iff ht hrestricted hsplit hentry hbeta ["gamma:1.0"] []
  refine ⟨ht, hrestricted, hsplit, hentry, hbeta, (hsame rfl).trans ?_⟩
  rw [hother, hproduct]
  rfl

/-- With blanks around its colon the key is split into the product and the version of a beta that the
table knows, and is resolved by its literal version. -/
theorem ofKeys_blank :
    sampleTable.HasSortedBuilds ∧ betaChannel ∈ ["aurora", "beta"] ∧
    splitKey? "alpha : 3.0b2" = some ("alpha", "3.0b2") ∧
    sampleTable.find? ("alpha" ++ ":" ++ "3.0b2") = some sampleBeta ∧
    lowered sampleBeta.channel = betaChannel ∧
    ofKeys ["aurora", "beta"] sampleTable ["alpha : 3.0b2"] = [⟨"alpha", "3.0b2", none, none⟩] := by
  refine ⟨VersionTable.hasSortedBuilds_ofEntries (by decide), ?_, ?_, ?_, ?_, ?_⟩ <;>
    decide +kernel

end VersionRule

end CrashQuery
