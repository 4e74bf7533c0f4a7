import CrashQuery.Proofs.Request.Grouping

/-!
# Taking version keys out of conditions

A condition picks versions if it compares the version with plain or exact values and is not negated,
and a value of it names the version of a product if text that is not blank stands on both sides of
its first colon (`isKey_iff`). Such values are taken out and collected, each once, and a condition is
dropped when nothing else is left of it (`leftOf?`); all other conditions stay where they are. Each of
the keys has its rule, and what remains has no keys: `extraction_exact`.
-/

namespace CrashQuery

open Text

/-- Each element has a partner in the list of all that a function finds, if it finds one for each. -/
theorem forall₂_filterMap {α β : Type} {f : α → Option β} {l : List α}
    (h : ∀ a ∈ l, (f a).isSome = true) :
    List.Forall₂ (fun a b => f a = some b) l (l.filterMap f) := by
  induction l with
  | nil => exact .nil
  | cons a rest ih =>
    obtain ⟨b, hb⟩ := Option.isSome_iff_exists.1 (h a List.mem_cons_self)
    rw [List.filterMap_cons_some hb]
    exact .cons hb (ih fun c hc => h c (List.mem_cons_of_mem _ hc))

namespace VersionRule

variable {conditions : List Condition} {c : Condition} {v : String}

/-- Whether a value names a version of a product: neither what stands before its first colon nor what
comes after it is blank. -/
def NamesVersion (v : String) : Prop :=
  ∃ product version, v.toList = product ++ ':' :: version ∧ ':' ∉ product ∧
    trim product ≠ [] ∧ trim version ≠ []

/-- Just the values that name a version are keys. -/
theorem isKey_iff : isKey v = true ↔ NamesVersion v := by
  unfold isKey splitKey?
  constructor
  · intro h
    split at h
    · cases h
    · next product version hsplit =>
      simp only at h
      split at h
      · cases h
      · next hblank =>
        obtain ⟨heq, hnot⟩ := splitFirst?_eq_some_iff.1 hsplit
        obtain ⟨hproduct, hversion⟩ := not_or.1 hblank
        exact ⟨product, version, heq, hnot, hproduct, hversion⟩
  · rintro ⟨product, version, heq, hnot, hproduct, hversion⟩
    have hsplit : splitFirst? ':' v.toList = some (product, version) :=
      splitFirst?_eq_some_iff.2 ⟨heq, hnot⟩
    simp [hsplit, hproduct, hversion]

instance : DecidablePred NamesVersion := fun _ => decidable_of_iff _ isKey_iff

/-- Whether a condition picks versions by plain or exact values. -/
def PicksVersions (c : Condition) : Prop :=
  c.name = versionField ∧ c.negated = false ∧ (c.operator = .any ∨ c.operator = .equal)

instance : DecidablePred PicksVersions := fun _ => inferInstanceAs (Decidable (_ ∧ _ ∧ (_ ∨ _)))

/-- What is to be left of a condition: one that picks versions has its other values, and is dropped
when it has none; any other is unchanged. -/
def leftOf? (c : Condition) : Option Condition :=
  if PicksVersions c then
    match c.values.filter fun v => ¬NamesVersion v with
    | [] => none
    | values => some { c with values }
  else some c

/-- The values of conditions that name a version are found by their form. -/
theorem filter_isKey (values : List String) :
    values.filter isKey = values.filter fun v => NamesVersion v := by
  refine List.filter_congr fun v _ => ?_
  rw [Bool.eq_iff_iff, isKey_iff, decide_eq_true_iff]

/-- The keys are the values that name a version in conditions that pick versions, each once and in
the order in which they were first seen. -/
theorem keysOf_eq_eraseDups (conditions : List Condition) : keysOf conditions =
    ((conditions.filter fun c => PicksVersions c).flatMap fun c =>
      c.values.filter fun v => NamesVersion v).eraseDups := by
  have htakes : (conditions.filter fun c => PicksVersions c) = conditions.filter takesKeys := by
    refine List.filter_congr fun c _ => ?_
    rw [Bool.eq_iff_iff, decide_eq_true_iff]
    exact takesKeys_iff.symm
  have hmerge := Condition.mergeValues_eraseDups []
    ((conditions.filter takesKeys).flatMap fun c => c.values.filter isKey)
  rw [List.eraseDups_nil, List.nil_append] at hmerge
  unfold keysOf
  rw [hmerge, htakes]
  simp only [filter_isKey]

/-- Keys are taken out of just the conditions that pick versions. -/
theorem takesKeys_iff_picksVersions : takesKeys c = true ↔ PicksVersions c :=
  takesKeys_iff

/-- Keys are taken out of the values of a condition. -/
theorem withoutKeys_of_takesKeys (h : takesKeys c = true) :
    withoutKeys c = { c with values := c.values.filter fun v => !isKey v } :=
  if_pos h

/-- A condition without its keys differs in its values only, of which some are left in order. -/
theorem exists_sublist_withoutKeys (c : Condition) :
    ∃ values, values.Sublist c.values ∧ withoutKeys c = { c with values } := by
  cases htakes : takesKeys c with
  | false => exact ⟨c.values, List.Sublist.refl _, withoutKeys_of_not_takesKeys htakes⟩
  | true => exact ⟨_, List.filter_sublist, withoutKeys_of_takesKeys htakes⟩

/-- A condition that picks versions is left without its keys, if it has other values. -/
theorem leftOf?_of_takesKeys (h : takesKeys c = true) :
    leftOf? c = if isLeft (withoutKeys c) = true then some (withoutKeys c) else none := by
  have hwithout : withoutKeys c = { c with values := c.values.filter fun v => ¬NamesVersion v } := by
    rw [withoutKeys_of_takesKeys h]
    congr 1
    refine List.filter_congr fun v _ => ?_
    rw [Bool.eq_iff_iff, decide_eq_true_iff, ← isKey_iff, Bool.not_eq_true', Bool.not_eq_true]
  have hleft : isLeft (withoutKeys c) = true ↔ (c.values.filter fun v => ¬NamesVersion v) ≠ [] := by
    rw [isLeft_withoutKeys_iff h, ne_eq, List.filter_eq_nil_iff]
    simp [← isKey_iff]
  unfold leftOf?
  rw [if_pos (takesKeys_iff_picksVersions.1 h)]
  split
  · next hnil => rw [if_neg (by rw [hleft, hnil]; simp)]
  · next hne => rw [if_pos (hleft.2 hne), hwithout]

/-- Any other condition is unchanged, unless it lacks values that it should have. -/
theorem leftOf?_of_not_takesKeys (h : takesKeys c = false)
    (hfilled : c.values = [] → c.operator = .isNull) :
    leftOf? c = if isLeft (withoutKeys c) = true then some (withoutKeys c) else none := by
  have hpicks : ¬PicksVersions c := by
    rw [← takesKeys_iff_picksVersions, h]
    exact Bool.false_ne_true
  have hleft : isLeft c = true := by
    by_cases hvalues : c.values = []
    · simp [isLeft, hfilled hvalues]
    · simp [isLeft, hvalues]
  unfold leftOf?
  rw [if_neg hpicks, withoutKeys_of_not_takesKeys h, if_pos hleft]

/-- What remains is what is to be left of each condition, in order. -/
theorem remaining_eq_filterMap (hfilled : ∀ c ∈ conditions, c.values = [] → c.operator = .isNull) :
    remaining conditions = conditions.filterMap leftOf? := by
  have hcongr : conditions.filterMap leftOf? = conditions.filterMap fun c =>
      if isLeft (withoutKeys c) = true then some (withoutKeys c) else none := by
    refine List.filterMap_congr fun c hc => ?_
    cases htakes : takesKeys c with
    | false => exact leftOf?_of_not_takesKeys htakes (hfilled c hc)
    | true => exact leftOf?_of_takesKeys htakes
  -- To take the keys out of all conditions and then to drop what is empty is to do both for each.
  unfold remaining
  rw [hcongr, ← List.filterMap_eq_filter, List.filterMap_map]
  refine List.filterMap_congr fun c _ => ?_
  rw [Function.comp_apply, Option.guard_apply]

/-- A condition without its keys has none to be taken out. -/
@[simp]
theorem withoutKeys_withoutKeys (c : Condition) : withoutKeys (withoutKeys c) = withoutKeys c := by
  cases htakes : takesKeys c with
  | false => rw [withoutKeys_of_not_takesKeys htakes, withoutKeys_of_not_takesKeys htakes]
  | true =>
    have hstill : takesKeys { c with values := c.values.filter fun v => !isKey v } = true := htakes
    rw [withoutKeys_of_takesKeys htakes, withoutKeys_of_takesKeys hstill]
    simp

/-- A second extraction changes nothing. -/
theorem remaining_remaining (conditions : List Condition) :
    remaining (remaining conditions) = remaining conditions := by
  have hmap : (remaining conditions).map withoutKeys = remaining conditions := by
    refine (List.map_congr_left fun e he => ?_).trans (List.map_id _)
    obtain ⟨c, -, rfl, -⟩ := mem_remaining.1 he
    exact withoutKeys_withoutKeys c
  have hfilter : (remaining conditions).filter isLeft = remaining conditions := by
    refine List.filter_eq_self.2 fun e he => ?_
    obtain ⟨c, -, -, hleft⟩ := mem_remaining.1 he
    exact hleft
  rw [remaining, hmap, hfilter]

/-- A second extraction finds no key. -/
theorem keysOf_remaining (conditions : List Condition) : keysOf (remaining conditions) = [] := by
  refine List.eq_nil_iff_forall_not_mem.2 fun k hk => ?_
  obtain ⟨e, he, htakes, hvalue, hkey⟩ := mem_keysOf.1 hk
  obtain ⟨c, -, rfl, -⟩ := mem_remaining.1 he
  -- The condition has lost its keys already, so its values are not among them.
  rw [← withoutKeys_withoutKeys, withoutKeys_of_takesKeys htakes] at hvalue
  have hnot := (List.mem_filter.1 hvalue).2
  rw [hkey] at hnot
  cases hnot

/-- Each of the keys has its rule, in the same order. -/
theorem forall₂_resolveAll_keysOf (restricted : List String) (known : Entries VersionInfo)
    (conditions : List Condition) :
    List.Forall₂ (fun key rule =>
        ofKey? restricted (fun k => Entries.find? k known) key = some rule)
      (keysOf conditions) (resolveAll restricted known (keysOf conditions)) := by
  refine forall₂_filterMap fun key hk => ?_
  obtain ⟨-, -, -, -, hkey⟩ := mem_keysOf.1 hk
  rw [ofKey?, Option.isSome_map]
  exact hkey

/-- If just conditions that ask for absence lack values, nothing is lost and nothing is found twice
when the keys are taken out of conditions: those that pick versions are left with their other values
and dropped if they have none, all others are unchanged and in their order; the keys are the values
taken out, each once and in the order in which they were first seen, and each has its rule. What
remains has no keys and is left as it is. -/
theorem extraction_exact (hfilled : ∀ c ∈ conditions, c.values = [] → c.operator = .isNull) :
    remaining conditions = conditions.filterMap leftOf? ∧
      keysOf conditions = ((conditions.filter fun c => PicksVersions c).flatMap fun c =>
        c.values.filter fun v => NamesVersion v).eraseDups ∧
      (keysOf conditions).Nodup ∧
      (∀ restricted known, List.Forall₂ (fun key rule =>
          ofKey? restricted (fun k => Entries.find? k known) key = some rule)
        (keysOf conditions) (resolveAll restricted known (keysOf conditions))) ∧
      keysOf (remaining conditions) = [] ∧ remaining (remaining conditions) = remaining conditions := by
  have hkeys := keysOf_eq_eraseDups conditions
  have hnodup : (keysOf conditions).Nodup := by
    rw [hkeys]
    exact nodup_eraseDups _
  exact ⟨remaining_eq_filterMap hfilled, hkeys, hnodup,
    fun restricted known => forall₂_resolveAll_keysOf restricted known conditions,
    keysOf_remaining conditions, remaining_remaining conditions⟩

/-- A version and keys, among them one that is given twice, beside a negated condition and one that
asks for absence. -/
def sampleVersions : List Condition :=
  [⟨Query.sampleVersion, .any, false, ["alpha:3.0", "4.0", ":5.0"]⟩,
    ⟨Query.sampleProduct, .any, false, ["alpha:3.0"]⟩,
    ⟨Query.sampleVersion, .equal, false, ["beta : 1", "alpha:3.0"]⟩,
    ⟨Query.sampleVersion, .any, true, ["beta:2"]⟩, ⟨Query.sampleVersion, .isNull, false, []⟩]

/-- The versions that are no keys are left, and the condition that had none is dropped. The rules
are for a version of each product, and ask for the version itself if it is not known. -/
theorem extraction_exact_sample :
    (∀ c ∈ sampleVersions, c.values = [] → c.operator = .isNull) ∧
    remaining sampleVersions =
      [⟨Query.sampleVersion, .any, false, ["4.0", ":5.0"]⟩,
        ⟨Query.sampleProduct, .any, false, ["alpha:3.0"]⟩,
        ⟨Query.sampleVersion, .any, true, ["beta:2"]⟩,
        ⟨Query.sampleVersion, .isNull, false, []⟩] ∧
    keysOf sampleVersions = ["alpha:3.0", "beta : 1"] ∧
    (∀ restricted known, resolveAll restricted known (keysOf sampleVersions) =
      [resolve restricted "alpha" "3.0" (Entries.find? "alpha:3.0" known),
        resolve restricted "beta" "1" (Entries.find? "beta : 1" known)]) ∧
    (∀ restricted, resolveAll restricted [] (keysOf sampleVersions) =
      [⟨"alpha", "3.0", none, none⟩, ⟨"beta", "1", none, none⟩]) ∧
    keysOf (remaining sampleVersions) = [] ∧
    remaining (remaining sampleVersions) = remaining sampleVersions := by
  have hfilled : ∀ c ∈ sampleVersions, c.values = [] → c.operator = .isNull := by decide
  have hkeys : keysOf sampleVersions = ["alpha:3.0", "beta : 1"] := by decide +kernel
  obtain ⟨hremaining, -, -, hrules, hnone, hagain⟩ := extraction_exact hfilled
  have hresolved : ∀ restricted known, resolveAll restricted known (keysOf sampleVersions) =
      [resolve restricted "alpha" "3.0" (Entries.find? "alpha:3.0" known),
        resolve restricted "beta" "1" (Entries.find? "beta : 1" known)] := by
    intro restricted known
    have halpha : splitKey? "alpha:3.0" = some ("alpha", "3.0") := by decide +kernel
    have hbeta : splitKey? "beta : 1" = some ("beta", "1") := by decide +kernel
    have hall := hrules restricted known
    rw [hkeys] at hall ⊢
    obtain ⟨first, rest, hfirst, hrest, heq⟩ := List.forall₂_cons_left_iff.1 hall
    obtain ⟨second, none, hsecond, hnil, rfl⟩ := List.forall₂_cons_left_iff.1 hrest
    rw [ofKey?, halpha] at hfirst
    rw [ofKey?, hbeta] at hsecond
    rw [heq, List.forall₂_nil_left_iff.1 hnil, ← Option.some.inj hfirst, ← Option.some.inj hsecond]
  refine ⟨hfilled, ?_, hkeys, hresolved, fun restricted => ?_, hnone, hagain⟩
  · rw [hremaining]
    decide +kernel
  · rw [hresolved]
    rfl

end VersionRule

end CrashQuery
