import CrashQuery.Proofs.Text.Ends
import CrashQuery.Text.Lower

/-!
# Lower-case texts

Small letters are no capitals: that is read off the table of the capitals, run against run, by a
Boolean test that the kernel evaluates (`caseRuns_apart`). So lower-casing a text a second time
leaves it as it is (`lower_lower`). Nor are small letters blank, so that a text without blanks at
its ends has none in lower case either (`IsTrimmed.lower`), and no digit or sign of ASCII is the
small letter of another character (`mem_of_mem_lower`). A text does not get shorter
(`length_le_length_lower`).
-/

namespace CrashQuery.Text

variable {s before rest : List Char} {c d : Char}

section Table

/-- The code points of a run are those between its ends that are whole steps from the first one. -/
theorem CaseRun.has_iff {run : CaseRun} {n : Nat} : run.has n = true ↔
    run.first ≤ n ∧ n ≤ run.last ∧ (n - run.first) % run.step = 0 :=
  decide_eq_true_iff

/-- The small letters of the capitals of a run, which are spaced as these are. -/
def CaseRun.small (run : CaseRun) : CaseRun :=
  ⟨(run.first + run.shift).toNat, (run.last + run.shift).toNat, run.step, 0⟩

/-- Whether the code points of a run can be taken for every second one. -/
def CaseRun.isSparse (run : CaseRun) : Bool := run.step == 2 || run.first == run.last

/-- Whether two runs are seen to have no code point in common: one of them lies behind the other, or
they alternate. -/
def CaseRun.isApart (a b : CaseRun) : Bool :=
  Nat.blt a.last b.first || Nat.blt b.last a.first ||
    (a.isSparse && b.isSparse && (a.first + b.first) % 2 == 1)

/-- The code points of a sparse run are as even as the first one. -/
theorem CaseRun.parity_of_has {run : CaseRun} {n : Nat} (hsparse : run.isSparse = true)
    (h : run.has n = true) : n % 2 = run.first % 2 := by
  rw [has_iff] at h
  simp only [isSparse, Bool.or_eq_true, beq_iff_eq] at hsparse
  rcases hsparse with hstep | hsingle
  · rw [hstep] at h
    omega
  · omega

/-- Runs that are seen to be apart have no code point in common. -/
theorem CaseRun.not_has_of_isApart {a b : CaseRun} {n : Nat} (hapart : a.isApart b = true)
    (ha : a.has n = true) : ¬b.has n = true := by
  intro hb
  obtain ⟨hafirst, halast, -⟩ := has_iff.1 ha
  obtain ⟨hbfirst, hblast, -⟩ := has_iff.1 hb
  simp only [isApart, Bool.or_eq_true, Bool.and_eq_true, Nat.blt_eq, beq_iff_eq] at hapart
  rcases hapart with (hbehind | hbehind) | ⟨⟨hasparse, hbsparse⟩, hodd⟩
  · omega
  · omega
  · have haeven := parity_of_has hasparse ha
    have hbeven := parity_of_has hbsparse hb
    omega

/-- What no small letter is: the dotted capital I, the surrogates and the blanks. -/
def reserved : List CaseRun :=
  ⟨0x130, 0x130, 1, 0⟩ :: ⟨0xD800, 0xDFFF, 1, 0⟩ :: blanks.map fun r => ⟨r.1, r.2, 1, 0⟩

/-- The small letters are code points, and they are neither capitals nor reserved. -/
theorem caseRuns_apart : (caseRuns.all fun run => Nat.blt run.small.last 0x110000 &&
    (caseRuns ++ reserved).all run.small.isApart) = true := by
  decide +kernel

/-- The small letters of all runs begin with those of ASCII. -/
theorem le_small_of_mem_caseRuns : ∀ run ∈ caseRuns, (97 : Int) ≤ run.first + run.shift := by
  decide +kernel

/-- The small letter of a capital of a run is one of the small letters of the run. -/
theorem CaseRun.has_small {run : CaseRun} {n : Nat} (hrun : run ∈ caseRuns)
    (h : run.has n = true) : run.small.has (n + run.shift).toNat = true := by
  have hpast := le_small_of_mem_caseRuns run hrun
  obtain ⟨hfirst, hlast, hstep⟩ := has_iff.1 h
  have hdistance : (n + run.shift).toNat - run.small.first = n - run.first := by
    show (n + run.shift).toNat - (run.first + run.shift).toNat = n - run.first
    omega
  refine has_iff.2 ⟨Int.toNat_le_toNat (by omega), Int.toNat_le_toNat (by omega), ?_⟩
  rw [hdistance]
  exact hstep

/-- A small letter is no capital and is not reserved. -/
theorem CaseRun.not_has_of_has_small {run other : CaseRun} {n : Nat} (hrun : run ∈ caseRuns)
    (h : run.small.has n = true) (hother : other ∈ caseRuns ++ reserved) : ¬other.has n = true := by
  have happly := List.all_eq_true.1 caseRuns_apart run hrun
  rw [Bool.and_eq_true] at happly
  exact not_has_of_isApart (List.all_eq_true.1 happly.2 other hother) h

/-- The small letters are characters. -/
theorem CaseRun.isValidChar_of_has_small {run : CaseRun} {n : Nat} (hrun : run ∈ caseRuns)
    (h : run.small.has n = true) : n.isValidChar := by
  have happly := List.all_eq_true.1 caseRuns_apart run hrun
  rw [Bool.and_eq_true, Nat.blt_eq] at happly
  have hsurrogate : ¬(0xD800 ≤ n ∧ n ≤ 0xDFFF ∧ (n - 0xD800) % 1 = 0) := fun hbetween =>
    not_has_of_has_small hrun h
      (List.mem_append_right _ (List.mem_cons_of_mem _ List.mem_cons_self)) (has_iff.2 hbetween)
  obtain ⟨-, hlast, -⟩ := has_iff.1 h
  unfold Nat.isValidChar
  omega

/-- A character is its own small letter, or its small letter is one of those of a run. -/
theorem lowerChar_eq_self_or (c : Char) :
    lowerChar c = c ∨ ∃ run ∈ caseRuns, run.small.has (lowerChar c).toNat = true := by
  cases hfind : caseRuns.find? (·.has c.toNat) with
  | none =>
    left
    unfold lowerChar
    rw [hfind]
  | some run =>
    right
    have hrun : run ∈ caseRuns := List.mem_of_find?_eq_some hfind
    have hhas := List.find?_some hfind
    have hsmall := CaseRun.has_small hrun hhas
    have hcode : (lowerChar c).toNat = (c.toNat + run.shift).toNat := by
      unfold lowerChar
      rw [hfind]
      simp only
      rw [Char.ofNat, dif_pos (CaseRun.isValidChar_of_has_small hrun hsmall)]
      rfl
    rw [← hcode] at hsmall
    exact ⟨run, hrun, hsmall⟩

/-- A character is its own small letter, or its small letter is no capital and is not reserved. -/
theorem lowerChar_eq_self_or_not_has (c : Char) : lowerChar c = c ∨
    ∀ other ∈ caseRuns ++ reserved, ¬other.has (lowerChar c).toNat = true :=
  (lowerChar_eq_self_or c).imp_right fun ⟨_, hrun, hsmall⟩ _ hother =>
    CaseRun.not_has_of_has_small hrun hsmall hother

/-- A character that is no capital is its own small letter. -/
theorem lowerChar_eq_self (h : ∀ run ∈ caseRuns, ¬run.has c.toNat = true) : lowerChar c = c := by
  unfold lowerChar
  rw [List.find?_eq_none.2 h]

/-- Small letters of characters that are not blank are not blank. -/
theorem isBlank_lowerChar (h : isBlank c = false) : isBlank (lowerChar c) = false := by
  rcases lowerChar_eq_self_or_not_has c with hself | hapart
  · rw [hself]
    exact h
  · rw [Bool.eq_false_iff]
    intro hblank
    obtain ⟨r, hr, hle⟩ := Ranges.has_iff.1 hblank
    have hreserved : (⟨r.1, r.2, 1, 0⟩ : CaseRun) ∈ caseRuns ++ reserved :=
      List.mem_append_right _
        (List.mem_cons_of_mem _ (List.mem_cons_of_mem _ (List.mem_map_of_mem hr)))
    exact hapart _ hreserved (CaseRun.has_iff.2 ⟨hle.1, hle.2, Nat.mod_one _⟩)

/-- Whether a character stays as it is in lower case, wherever it stands. -/
structure IsSmall (c : Char) : Prop where
  /-- It is its own small letter. -/
  lower : lowerChar c = c
  /-- It is not the sigma whose small letter depends on its neighbours. -/
  ne_sigma : c ≠ 'Σ'
  /-- It is not the capital that becomes two characters. -/
  ne_dotted : c ≠ 'İ'

/-- Small letters stay as they are. -/
theorem isSmall_lowerChar (hsigma : c ≠ 'Σ') (hdotted : c ≠ 'İ') : IsSmall (lowerChar c) := by
  rcases lowerChar_eq_self_or_not_has c with hself | hapart
  · rw [hself]
    exact ⟨hself, hsigma, hdotted⟩
  · -- The capital sigma is in a run of capitals, and the dotted capital I is reserved.
    refine ⟨lowerChar_eq_self fun run hrun => hapart run (List.mem_append_left _ hrun), ?_, ?_⟩
    · intro heq
      rw [heq] at hapart
      exact hapart ⟨0x3A3, 0x3AB, 1, 32⟩ (by decide +kernel) (by decide)
    · intro heq
      rw [heq] at hapart
      exact hapart ⟨0x130, 0x130, 1, 0⟩ (List.mem_append_right _ List.mem_cons_self) (by decide)

end Table

section Whole

/-- What a character becomes between the reversed text before it and the text after it. -/
def lowerAt (before : List Char) (c : Char) (rest : List Char) : List Char :=
  if c = 'Σ' then [lowerSigma before rest]
  else if c = 'İ' then ['i', Char.ofNat 0x307]
  else [lowerChar c]

/-- A text is lower-cased character by character. -/
theorem lowerFrom_cons (before : List Char) (c : Char) (rest : List Char) :
    lowerFrom before (c :: rest) = lowerAt before c rest ++ lowerFrom (c :: before) rest := rfl

/-- A sigma becomes one of the two small ones. -/
theorem lowerSigma_eq_or (before rest : List Char) :
    lowerSigma before rest = 'ς' ∨ lowerSigma before rest = 'σ' := by
  unfold lowerSigma
  split
  · exact Or.inl rfl
  · exact Or.inr rfl

/-- The small characters of the two capitals that are not lower-cased by the table. -/
def unusual : List Char := ['ς', 'σ', 'i', Char.ofNat 0x307]

/-- A character becomes unusual small characters or its small letter. -/
theorem mem_lowerAt (h : d ∈ lowerAt before c rest) :
    d ∈ unusual ∨ d = lowerChar c ∧ c ≠ 'Σ' ∧ c ≠ 'İ' := by
  unfold lowerAt at h
  split at h
  · left
    rw [List.mem_singleton.1 h]
    rcases lowerSigma_eq_or before rest with hs | hs <;> simp [hs, unusual]
  · next hsigma =>
    split at h
    · left
      exact List.mem_cons_of_mem _ (List.mem_cons_of_mem _ h)
    · next hdotted => exact Or.inr ⟨List.mem_singleton.1 h, hsigma, hdotted⟩

/-- The characters of a lower-cased text are small letters of its characters, but for the unusual
ones. -/
theorem mem_lowerFrom (h : d ∈ lowerFrom before s) :
    d ∈ unusual ∨ ∃ c ∈ s, d = lowerChar c ∧ c ≠ 'Σ' ∧ c ≠ 'İ' := by
  induction s generalizing before with
  | nil => simp [lowerFrom] at h
  | cons c rest ih =>
    rw [lowerFrom_cons, List.mem_append] at h
    rcases h with h | h
    · exact (mem_lowerAt h).imp_right fun hc => ⟨c, List.mem_cons_self, hc⟩
    · exact (ih h).imp_right fun ⟨c', hc', heq⟩ => ⟨c', List.mem_cons_of_mem _ hc', heq⟩

/-- A character before the small letters of ASCII is the small letter of itself only. -/
theorem eq_of_lowerChar_eq (h : lowerChar c = d) (hd : d.toNat < 97) : c = d := by
  rcases lowerChar_eq_self_or c with hself | ⟨run, hrun, hsmall⟩
  · rw [← hself, h]
  · have hpast := le_small_of_mem_caseRuns run hrun
    have hfirst : (run.first + run.shift).toNat ≤ (lowerChar c).toNat :=
      (CaseRun.has_iff.1 hsmall).1
    rw [h] at hfirst
    omega

/-- Lower-casing makes no characters before the small letters of ASCII. -/
theorem mem_of_mem_lower (h : d ∈ lower s) (hd : d.toNat < 97) : d ∈ s := by
  rcases mem_lowerFrom h with hunusual | ⟨c, hc, heq, -⟩
  · have hbehind : 97 ≤ d.toNat := by
      simp only [unusual, List.mem_cons, List.not_mem_nil, or_false] at hunusual
      rcases hunusual with rfl | rfl | rfl | rfl <;> decide
    omega
  · rwa [← eq_of_lowerChar_eq heq.symm hd]

/-- The unusual small characters stay as they are. -/
theorem isSmall_of_mem_unusual (h : d ∈ unusual) : IsSmall d := by
  simp only [unusual, List.mem_cons, List.not_mem_nil, or_false] at h
  rcases h with rfl | rfl | rfl | rfl <;> exact ⟨by decide +kernel, by decide, by decide⟩

/-- A text of characters that stay as they are is left by `lowerFrom`. -/
theorem lowerFrom_eq_self (h : ∀ c ∈ s, IsSmall c) (before : List Char) :
    lowerFrom before s = s := by
  induction s generalizing before with
  | nil => rfl
  | cons c rest ih =>
    obtain ⟨hlower, hsigma, hdotted⟩ := h c List.mem_cons_self
    rw [lowerFrom_cons, ih (fun d hd => h d (List.mem_cons_of_mem _ hd)), lowerAt, if_neg hsigma,
      if_neg hdotted, hlower]
    rfl

/-- Lower-casing twice is lower-casing once. -/
theorem lower_lower (s : List Char) : lower (lower s) = lower s := by
  refine lowerFrom_eq_self (fun d hd => ?_) []
  rcases mem_lowerFrom hd with hunusual | ⟨c, -, rfl, hsigma, hdotted⟩
  · exact isSmall_of_mem_unusual hunusual
  · exact isSmall_lowerChar hsigma hdotted

/-- A character that is not blank becomes no blanks. -/
theorem isBlank_of_mem_lowerAt (h : isBlank c = false) (hd : d ∈ lowerAt before c rest) :
    isBlank d = false := by
  rcases mem_lowerAt hd with hunusual | ⟨rfl, -⟩
  · simp only [unusual, List.mem_cons, List.not_mem_nil, or_false] at hunusual
    rcases hunusual with rfl | rfl | rfl | rfl <;> decide
  · exact isBlank_lowerChar h

/-- A character becomes one or more characters. -/
theorem lowerAt_ne_nil (before : List Char) (c : Char) (rest : List Char) :
    lowerAt before c rest ≠ [] := by
  unfold lowerAt
  split
  · exact List.cons_ne_nil _ _
  · split <;> exact List.cons_ne_nil _ _

/-- Only the empty text is empty in lower case. -/
theorem lower_eq_nil_iff : lower s = [] ↔ s = [] := by
  cases s with
  | nil => exact Iff.rfl
  | cons c rest => simp [lower, lowerFrom_cons, lowerAt_ne_nil]

/-- A text is not shorter in lower case. -/
theorem length_le_length_lower (s : List Char) : s.length ≤ (lower s).length := by
  have hfrom : ∀ (s before : List Char), s.length ≤ (lowerFrom before s).length := by
    intro s
    induction s with
    | nil => exact fun _ => Nat.zero_le _
    | cons c rest ih =>
      intro before
      have hfirst := List.length_pos_of_ne_nil (lowerAt_ne_nil before c rest)
      have hrest := ih (c :: before)
      rw [lowerFrom_cons, List.length_append, List.length_cons]
      omega
  exact hfrom s []

/-- A text that does not end with a blank does not in lower case. -/
theorem isBlank_getLast?_lowerFrom (h : ∀ c ∈ s.getLast?, isBlank c = false) :
    ∀ d ∈ (lowerFrom before s).getLast?, isBlank d = false := by
  induction s generalizing before with
  | nil => simp [lowerFrom]
  | cons c rest ih =>
    intro d hd
    rw [lowerFrom_cons, List.getLast?_append] at hd
    cases rest with
    | nil => exact isBlank_of_mem_lowerAt (h c rfl) (List.mem_of_mem_getLast? hd)
    | cons c' rest =>
      -- There are characters behind this one, so that the last one is among what they become.
      have hne : lowerFrom (c :: before) (c' :: rest) ≠ [] := by
        rw [lowerFrom_cons]
        exact List.append_ne_nil_of_left_ne_nil (lowerAt_ne_nil _ _ _) _
      rw [List.getLast?_eq_some_getLast hne, Option.some_or] at hd
      refine ih (fun e he => h e ?_) d (by rw [List.getLast?_eq_some_getLast hne]; exact hd)
      rwa [List.getLast?_cons_cons]

/-- A text without blanks at its ends has none in lower case. -/
theorem IsTrimmed.lower (h : IsTrimmed s) : IsTrimmed (lower s) where
  head d hd := by
    cases s with
    | nil => simp [Text.lower, lowerFrom] at hd
    | cons c rest =>
      rw [Text.lower, lowerFrom_cons, List.head?_append_of_ne_nil _ (lowerAt_ne_nil _ _ _)] at hd
      exact isBlank_of_mem_lowerAt (h.head c rfl) (List.mem_of_mem_head? hd)
  last := isBlank_getLast?_lowerFrom h.last

end Whole

end CrashQuery.Text
