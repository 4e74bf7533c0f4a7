import CrashQuery.Catalog.Builtin
import CrashQuery.Query
import Mathlib.Data.List.Forall2
import Mathlib.Data.List.Infix

/-!
# What wildcard patterns match

A pattern is matched with a whole text. A star in it stands for any run of characters, a question
mark for any one character, and a backslash makes the character behind it stand for itself; a
backslash at the end of a pattern stands for itself. `Wildcard.tokens` reads a pattern, and
`Wildcard.Matches` is the language of it.

The patterns of a condition are made of its operands as they are. So an operand is looked for
literally if it has none of the three characters, and a last backslash is literal where the pattern
ends with the operand: `Operator.TakesLiterally`. No other operand is. With the stars left out and
the backslashes undone it is a text that its pattern matches (`accepts_sample`), and this text is no
longer than the operand and differs from it (`sample_tokens`). `Condition.literal_clauses` says so of
all clauses of a condition.
-/

namespace CrashQuery

namespace Wildcard

/-- What a part of a pattern asks of a text. -/
inductive Token where
  /-- Any run of characters, also an empty one. -/
  | run
  /-- Any one character. -/
  | single
  /-- This character. -/
  | char (c : Char)
  deriving DecidableEq

/-- Reads a pattern. -/
def tokens : List Char → List Token
  | [] => []
  | ['\\'] => [.char '\\']
  | '\\' :: c :: rest => .char c :: tokens rest
  | '*' :: rest => .run :: tokens rest
  | '?' :: rest => .single :: tokens rest
  | c :: rest => .char c :: tokens rest

/-- Whether the whole text is one that the tokens ask for. -/
def accepts : List Token → List Char → Bool
  | [], text => text.isEmpty
  | .run :: rest, text => text.tails.any (accepts rest)
  | .single :: _, [] => false
  | .single :: rest, _ :: text => accepts rest text
  | .char _ :: _, [] => false
  | .char c :: rest, d :: text => c == d && accepts rest text

/-- Whether a text matches the pattern of a clause. -/
def Matches (w : Wildcard) (text : String) : Prop :=
  accepts (tokens w.pattern.toList) text.toList = true

instance (w : Wildcard) (text : String) : Decidable (w.Matches text) :=
  inferInstanceAs (Decidable (_ = true))

/-- Whether a character stands for itself in a pattern. -/
def isPlain (c : Char) : Bool := c != '*' && c != '?' && c != '\\'

end Wildcard

namespace Operator

/-- Whether an operator finds an operand in a text: anywhere, at its beginning or at its end. -/
def Finds (operator : Operator) (operand text : List Char) : Prop :=
  match operator with
  | .contains => operand <:+: text
  | .startsWith => operand <+: text
  | _ => operand <:+ text

/-- Whether all characters of an operand stand for themselves in the pattern of an operator. -/
def TakesLiterally (operator : Operator) (operand : List Char) : Prop :=
  (∀ c ∈ operand, Wildcard.isPlain c = true) ∨
    operator = .endsWith ∧ ∃ before, operand = before ++ ['\\'] ∧
      ∀ c ∈ before, Wildcard.isPlain c = true

variable {operator : Operator} {operand text : List Char}

/-- An operand is found in itself. -/
theorem finds_self (operator : Operator) (operand : List Char) :
    operator.Finds operand operand := by
  cases operator <;> first | exact List.infix_rfl | exact List.prefix_rfl | exact List.suffix_rfl

/-- A text in which an operand is found is the operand, if it is no longer. -/
theorem Finds.eq_of_length_le (h : operator.Finds operand text)
    (hle : text.length ≤ operand.length) : text = operand := by
  cases operator with
  | contains => exact (List.IsInfix.eq_of_length_le h hle).symm
  | startsWith => exact (List.IsPrefix.eq_of_length_le h hle).symm
  | _ => exact (List.IsSuffix.eq_of_length_le h hle).symm

end Operator

namespace Wildcard

open Operator (Finds TakesLiterally)

variable {rest : List Token} {operand text : List Char} {operator : Operator} {c : Char}

section Accepts

/-- A run of any characters leaves some end of the text. -/
theorem accepts_run : accepts (.run :: rest) text = true ↔
    ∃ left, left <:+ text ∧ accepts rest left = true := by
  simp only [accepts, List.any_eq_true, List.mem_tails]

/-- A run of any characters alone matches every text. -/
theorem accepts_run_nil (text : List Char) : accepts [.run] text = true :=
  accepts_run.2 ⟨[], List.nil_suffix, rfl⟩

/-- Characters that stand for themselves ask for a text that begins with them. -/
theorem accepts_chars : accepts (operand.map .char ++ rest) text = true ↔
    ∃ left, text = operand ++ left ∧ accepts rest left = true := by
  induction operand generalizing text with
  | nil => simp
  | cons c operand ih =>
    cases text with
    | nil => simp [accepts]
    | cons d text =>
      simp only [List.map_cons, List.cons_append, accepts, Bool.and_eq_true, beq_iff_eq, ih,
        List.cons.injEq]
      constructor
      · rintro ⟨rfl, left, rfl, hleft⟩
        exact ⟨left, ⟨rfl, rfl⟩, hleft⟩
      · rintro ⟨left, ⟨rfl, rfl⟩, hleft⟩
        exact ⟨rfl, left, rfl, hleft⟩

end Accepts

section Literal

/-- What the pattern of an operator has before the operand. -/
def leading : Operator → List Char
  | .startsWith => []
  | _ => ['*']

/-- What the pattern of an operator has behind the operand. -/
def trailing : Operator → List Char
  | .contains | .startsWith => ['*']
  | _ => []

/-- The operand stands in the pattern as it is. -/
theorem toList_patternOf (operator : Operator) (operand : String) :
    (patternOf operator operand).toList =
      leading operator ++ (operand.toList ++ trailing operator) := by
  cases operator <;> simp [patternOf, leading, trailing]

/-- A character that stands for itself is read as it is. -/
theorem tokens_cons (h : isPlain c = true) (text : List Char) :
    tokens (c :: text) = .char c :: tokens text := by
  unfold isPlain at h
  simp only [Bool.and_eq_true, bne_iff_ne] at h
  obtain ⟨⟨hstar, hmark⟩, hback⟩ := h
  rw [tokens]
  · rintro rfl
    exact absurd rfl hback
  · rintro d left rfl
    exact absurd rfl hback
  · exact hstar
  · exact hmark

/-- Characters that stand for themselves are read as they are. -/
theorem tokens_append (h : ∀ c ∈ operand, isPlain c = true) (ending : List Char) :
    tokens (operand ++ ending) = operand.map .char ++ tokens ending := by
  induction operand with
  | nil => rfl
  | cons c operand ih =>
    have hrest := ih fun d hd => h d (List.mem_cons_of_mem _ hd)
    rw [List.cons_append, tokens_cons (h c List.mem_cons_self), hrest]
    rfl

/-- An operand that is taken literally is read as its characters. -/
theorem tokens_append_trailing (h : TakesLiterally operator operand) :
    tokens (operand ++ trailing operator) = operand.map .char ++ tokens (trailing operator) := by
  rcases h with hplain | ⟨rfl, before, rfl, hplain⟩
  · exact tokens_append hplain _
  · -- Nothing comes behind the last backslash.
    have hbefore := tokens_append hplain ['\\']
    simpa [trailing, tokens] using hbefore

/-- A pattern that begins with a star matches what has an end that the rest of it matches. -/
theorem accepts_star {pattern : List Char} : accepts (tokens ('*' :: pattern)) text = true ↔
    ∃ left, left <:+ text ∧ accepts (tokens pattern) left = true := by
  have hread : tokens ('*' :: pattern) = .run :: tokens pattern := by simp [tokens]
  rw [hread, accepts_run]

/-- An operand that is taken literally is found in the texts that match its pattern. -/
theorem accepts_patternOf_iff (hwild : operator.isWildcard = true)
    (h : TakesLiterally operator operand) :
    accepts (tokens (leading operator ++ (operand ++ trailing operator))) text = true ↔
      Finds operator operand text := by
  have hbegins : ∀ {left : List Char},
      accepts (tokens (operand ++ trailing operator)) left = true ↔ ∃ behind,
        left = operand ++ behind ∧ accepts (tokens (trailing operator)) behind = true := by
    intro left
    rw [tokens_append_trailing h, accepts_chars]
  cases operator with
  | contains =>
    -- The first run takes what is before the operand, and the second one what is behind it.
    refine (accepts_star.trans ?_).trans List.infix_iff_prefix_suffix.symm
    constructor
    · rintro ⟨left, hleft, hmatch⟩
      obtain ⟨behind, rfl, -⟩ := hbegins.1 hmatch
      exact ⟨_, List.prefix_append _ _, hleft⟩
    · rintro ⟨left, ⟨behind, rfl⟩, hleft⟩
      exact ⟨_, hleft, hbegins.2 ⟨behind, rfl, accepts_run_nil behind⟩⟩
  | startsWith =>
    refine hbegins.trans ?_
    constructor
    · rintro ⟨behind, rfl, -⟩
      exact List.prefix_append _ _
    · rintro ⟨behind, rfl⟩
      exact ⟨behind, rfl, accepts_run_nil behind⟩
  | endsWith =>
    refine accepts_star.trans ?_
    constructor
    · rintro ⟨left, hleft, hmatch⟩
      obtain ⟨behind, rfl, hbehind⟩ := hbegins.1 hmatch
      rw [List.isEmpty_iff.1 hbehind, List.append_nil] at hleft
      exact hleft
    · intro hends
      exact ⟨operand, hends, hbegins.2 ⟨[], (List.append_nil _).symm, rfl⟩⟩
  | _ => cases hwild

end Literal

section Sample

/-- A text that tokens ask for: runs are left out, and any one character is an `a`. -/
def sample : List Token → List Char
  | [] => []
  | .run :: rest => sample rest
  | .single :: rest => 'a' :: sample rest
  | .char c :: rest => c :: sample rest

/-- The sample of tokens is a text that they ask for. -/
theorem accepts_sample (ts : List Token) : accepts ts (sample ts) = true := by
  induction ts with
  | nil => rfl
  | cons t rest ih =>
    cases t with
    | run => exact accepts_run.2 ⟨sample rest, List.suffix_rfl, ih⟩
    | single => exact ih
    | char c => simp [sample, accepts, ih]

/-- The sample of an operand in its pattern is no longer than the operand, and the same only if the
operand is taken literally. -/
theorem sample_tokens (hwild : operator.isWildcard = true) (operand : List Char) :
    (sample (tokens (operand ++ trailing operator))).length ≤ operand.length ∧
    (sample (tokens (operand ++ trailing operator)) = operand →
      TakesLiterally operator operand) := by
  have hbehind : trailing operator = ['*'] ∨ operator = .endsWith := by
    cases operator <;> first | exact Or.inl rfl | exact Or.inr rfl | cases hwild
  -- A sample that is shorter than the operand differs from it.
  have hshort : ∀ {s t : List Char}, s.length < t.length → s.length ≤ t.length ∧
      (s = t → TakesLiterally operator t) := fun hlt =>
    ⟨hlt.le, fun heq => absurd (congrArg List.length heq) hlt.ne⟩
  -- By the cases of the reader: a sample is as long as the operand only if no part of the operand is
  -- left out.
  fun_induction tokens operand with
  | case1 =>
    have hnil : sample (tokens (trailing operator)) = [] := by
      rcases hbehind with hstar | rfl
      · rw [hstar]
        rfl
      · rfl
    rw [List.nil_append, hnil]
    exact ⟨Nat.le_refl _, fun _ => Or.inl nofun⟩
  | case2 =>
    rcases hbehind with hstar | rfl
    · -- The backslash takes the star for itself.
      rw [hstar]
      exact ⟨Nat.le_refl _, fun heq => by cases heq⟩
    · exact ⟨Nat.le_refl _, fun _ => Or.inr ⟨rfl, [], rfl, nofun⟩⟩
  | case3 c rest ih =>
    -- The backslash is undone.
    obtain ⟨hle, -⟩ := ih
    refine hshort ?_
    simp only [List.cons_append, tokens, sample, List.length_cons]
    omega
  | case4 rest ih =>
    -- The star is left out.
    obtain ⟨hle, -⟩ := ih
    refine hshort ?_
    simp only [List.cons_append, tokens, sample, List.length_cons]
    omega
  | case5 rest ih =>
    -- The question mark becomes another character.
    obtain ⟨hle, -⟩ := ih
    simp only [List.cons_append, tokens, sample, List.length_cons]
    refine ⟨by omega, fun heq => ?_⟩
    cases heq
  | case6 c rest hlast hback hstar hmark ih =>
    obtain ⟨hle, hsame⟩ := ih
    have hplain : isPlain c = true := by
      unfold isPlain
      simp only [Bool.and_eq_true, bne_iff_ne]
      refine ⟨⟨hstar, hmark⟩, fun heq => ?_⟩
      cases rest with
      | nil => exact hlast heq rfl
      | cons d left => exact hback d left heq rfl
    rw [List.cons_append, tokens_cons hplain, sample, List.length_cons, List.length_cons,
      List.cons.injEq]
    refine ⟨Nat.succ_le_succ hle, fun ⟨_, heq⟩ => ?_⟩
    rcases hsame heq with hrest | ⟨hends, before, rfl, hrest⟩
    · exact Or.inl (List.forall_mem_cons.2 ⟨hplain, hrest⟩)
    · exact Or.inr ⟨hends, c :: before, rfl, List.forall_mem_cons.2 ⟨hplain, hrest⟩⟩

/-- Only an operand that is taken literally is found in each text that its pattern matches. -/
theorem takesLiterally_of_forall (hwild : operator.isWildcard = true)
    (h : ∀ text, accepts (tokens (leading operator ++ (operand ++ trailing operator))) text = true →
      Finds operator operand text) : TakesLiterally operator operand := by
  obtain ⟨hle, hsame⟩ := sample_tokens hwild operand
  obtain ⟨s, hs⟩ : ∃ s, s = sample (tokens (operand ++ trailing operator)) := ⟨_, rfl⟩
  have hmatch : accepts (tokens (operand ++ trailing operator)) s = true := by
    rw [hs]
    exact accepts_sample _
  rw [← hs] at hle hsame
  have hwhole : accepts (tokens (leading operator ++ (operand ++ trailing operator))) s = true := by
    cases operator with
    | startsWith => exact hmatch
    | _ => exact accepts_star.2 ⟨s, List.suffix_rfl, hmatch⟩
  exact hsame ((h s hwhole).eq_of_length_le hle)

end Sample

/-- The texts that match the pattern of an operand are those that it is found in exactly when the
operand is taken literally. -/
theorem matches_iff_finds_iff (hwild : operator.isWildcard = true) (path operand : String) :
    (∀ text : String, Matches ⟨path, patternOf operator operand⟩ text ↔
        Finds operator operand.toList text.toList) ↔
      TakesLiterally operator operand.toList := by
  unfold Matches
  rw [toList_patternOf]
  constructor
  · intro h
    refine takesLiterally_of_forall hwild fun text hmatch => ?_
    have htext := (h (String.ofList text)).1
    rw [String.toList_ofList] at htext
    exact htext hmatch
  · exact fun h text => accepts_patternOf_iff hwild h

end Wildcard

namespace Condition

open Operator (Finds TakesLiterally)

/-- A condition of texts with a wildcard operator has a clause for each operand. -/
theorem compile_wildcard {c : Condition} (htext : c.field.kind.isTextual = true)
    (hwild : c.operator.isWildcard = true) (hvalues : c.values ≠ []) :
    c.compile = .ok
      (if c.negated then
        .excluded (c.values.map fun v => ⟨c.field.exactPath, Wildcard.patternOf c.operator v⟩)
      else
        .wildcards
          (c.values.map fun v => ⟨c.field.exactPath, Wildcard.patternOf c.operator v⟩)) := by
  have hclauses : c.wildcardClauses =
      .ok (c.values.map fun v => ⟨c.field.exactPath, Wildcard.patternOf c.operator v⟩) := by
    unfold wildcardClauses
    simp [htext, hvalues]
  unfold compile
  rw [if_pos hwild, hclauses]
  rfl

/-- A condition of texts with a wildcard operator has a clause for each operand at the path of exact
comparisons. The clause finds just the texts in which the operand is found exactly when all
characters of the operand stand for themselves in the pattern. -/
theorem literal_clauses (c : Condition) (htext : c.field.kind.isTextual = true)
    (hwild : c.operator.isWildcard = true) (hvalues : c.values ≠ []) :
    ∃ clauses, c.compile = .ok (if c.negated then .excluded clauses else .wildcards clauses) ∧
      List.Forall₂ (fun v w => w.path = c.field.exactPath ∧
        ((∀ text : String, w.Matches text ↔ Finds c.operator v.toList text.toList) ↔
          TakesLiterally c.operator v.toList)) c.values clauses := by
  refine ⟨_, compile_wildcard htext hwild hvalues, ?_⟩
  rw [List.forall₂_map_right_iff, List.forall₂_same]
  exact fun v _ => ⟨rfl, Wildcard.matches_iff_finds_iff hwild _ v⟩

/-- The clauses for signatures that hold `operator?` or a vertical bar between blanks: the second
operand is found in just the texts that match its clause, and the first one is not. -/
theorem literal_clauses_signatures : ∃ f first second,
    Catalog.builtin.lookup "signature" = some f ∧
    (⟨f, .contains, false, ["operator?", " | "]⟩ : Condition).compile =
      .ok (.wildcards [first, second]) ∧
    (∀ text : String, second.Matches text ↔ " | ".toList <:+: text.toList) ∧
    ¬∀ text : String, first.Matches text ↔ "operator?".toList <:+: text.toList := by
  obtain ⟨f, hf, htext⟩ : ∃ f, Catalog.builtin.lookup "signature" = some f ∧
      f.kind.isTextual = true := ⟨_, rfl, rfl⟩
  obtain ⟨clauses, hcompile, hclauses⟩ :=
    literal_clauses ⟨f, .contains, false, ["operator?", " | "]⟩ htext rfl (List.cons_ne_nil _ _)
  cases hclauses with
  | @cons _ first _ _ hfirst hrest =>
    cases hrest with
    | @cons _ second _ _ hsecond hnone =>
      cases hnone
      have hbar : ∀ c ∈ " | ".toList, Wildcard.isPlain c = true := List.all_eq_true.1 (by decide)
      refine ⟨f, first, second, hf, hcompile, hsecond.2.2 (Or.inl hbar), ?_⟩
      intro hall
      rcases hfirst.2.1 hall with hplain | ⟨hends, -⟩
      · exact absurd (hplain '?' (by decide)) (by decide)
      · cases hends

/-- A star in an operand stands for any characters, and a backslash at the end of an operand takes
the star behind it for itself. -/
theorem not_literal_star_backslash : ∃ f star folder,
    Catalog.builtin.lookup "signature" = some f ∧
    (∀ now, (ofRaw? f "~char*" now).map compile = some (.ok (.wildcards [star]))) ∧
    star.Matches "charm" ∧ ¬Finds .contains "char*".toList "charm".toList ∧
    (∀ now, (ofRaw? f "~dir\\" now).map compile = some (.ok (.wildcards [folder]))) ∧
    ¬folder.Matches "dir\\file" ∧ Finds .contains "dir\\".toList "dir\\file".toList := by
  refine ⟨_, ⟨"processed_crash.signature.full", "*char**"⟩,
    ⟨"processed_crash.signature.full", "*dir\\*"⟩, rfl, fun now => rfl, by decide, ?_,
    fun now => rfl, by decide, ?_⟩
  · unfold Finds
    decide
  · unfold Finds
    decide

end Condition

end CrashQuery
