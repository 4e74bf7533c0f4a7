import CrashQuery.Text.Split

/-!
# Operators

A raw request value is an optional exclamation mark, the glyph of an operator and an operand.
`Comparison.ofChars` takes the first glyph of `Operator.glyphs` that the value begins with, and
`Comparison.chars` writes a comparison with the glyph that its operator is shown by.
`Operator.eq_glyph_of_mem` says that these are the same, `Comparison.chars_ofChars` that reading
loses nothing, and `Comparison.ofText_glyph` which operators are read back from their glyphs.
-/

namespace CrashQuery

open Text (dropStart?)

/-- How the values of a field are compared with operands. -/
inductive Operator where
  /-- Equal to one of the operands. -/
  | any
  /-- Equal to one of the operands, untokenized. -/
  | equal
  /-- Greater than the operand. -/
  | greater
  /-- Greater than the operand or equal to it. -/
  | atLeast
  /-- Less than the operand. -/
  | less
  /-- Less than the operand or equal to it. -/
  | atMost
  /-- Holding the operand. -/
  | contains
  /-- Beginning with the operand. -/
  | startsWith
  /-- Ending with the operand. -/
  | endsWith
  /-- Absent. -/
  | isNull
  deriving DecidableEq

namespace Operator

/-- The characters that the operator is shown by. -/
def glyph : Operator → String
  | .any => ""
  | .equal => "="
  | .greater => ">"
  | .atLeast => ">="
  | .less => "<"
  | .atMost => "<="
  | .contains => "~"
  | .startsWith => "$"
  | .endsWith => "^"
  | .isNull => "__null__"

/-- The characters that introduce an operand, in the order in which they are looked for; a glyph
stands before those that it begins with. -/
def glyphs : List (String × Operator) :=
  [("__null__", .isNull), (">=", .atLeast), ("<=", .atMost), (">", .greater), ("<", .less),
    ("=", .equal), ("~", .contains), ("$", .startsWith), ("^", .endsWith)]

/-- Every operator. -/
def all : List Operator := .any :: glyphs.map Prod.snd

/-- Whether the operand is a bound. -/
def isRange : Operator → Bool
  | .greater | .atLeast | .less | .atMost => true
  | _ => false

/-- Whether the operand is part of a value. -/
def isWildcard : Operator → Bool
  | .contains | .startsWith | .endsWith => true
  | _ => false

/-- Whether the operand keeps its letter case. -/
def isExact : Operator → Bool
  | .equal => true
  | _ => false

/-- The operator of the first glyph that begins the text, and what follows the glyph. -/
def matchFirst (s : List Char) : List (String × Operator) → Operator × List Char
  | [] => (.any, s)
  | (start, op) :: rest =>
    match dropStart? start.toList s with
    | some operand => (op, operand)
    | none => matchFirst s rest

end Operator

/-- A raw request value taken apart. -/
structure Comparison where
  /-- Whether the comparison is to fail. -/
  negated : Bool
  /-- The operator. -/
  operator : Operator
  /-- What is compared with. -/
  operand : List Char
  deriving DecidableEq

namespace Comparison

/-- The character before a comparison that is to fail. -/
def mark : Char := '!'

/-- Takes a raw value apart. -/
def ofChars (s : List Char) : Comparison :=
  match dropStart? [mark] s with
  | some rest =>
    let (operator, operand) := Operator.matchFirst rest Operator.glyphs
    ⟨true, operator, operand⟩
  | none =>
    let (operator, operand) := Operator.matchFirst s Operator.glyphs
    ⟨false, operator, operand⟩

/-- The raw value of a comparison. -/
def chars (c : Comparison) : List Char :=
  (if c.negated then [mark] else []) ++ c.operator.glyph.toList ++ c.operand

/-- Takes a raw value apart. -/
def ofText (raw : String) : Comparison := ofChars raw.toList

end Comparison

/-- An operator is looked for by the glyph that it is shown by. -/
theorem Operator.eq_glyph_of_mem : ∀ e ∈ glyphs, e.1 = e.2.glyph := by
  decide

/-- The glyph of the operator found and what follows it are the text. -/
theorem Operator.append_matchFirst (s : List Char) {table : List (String × Operator)}
    (h : ∀ e ∈ table, e.1 = e.2.glyph) :
    (matchFirst s table).1.glyph.toList ++ (matchFirst s table).2 = s := by
  induction table with
  | nil => simp [matchFirst, glyph]
  | cons e rest ih =>
    obtain ⟨start, op⟩ := e
    obtain ⟨(rfl : start = op.glyph), hrest⟩ := List.forall_mem_cons.1 h
    rw [matchFirst]
    split
    · next operand hdrop => exact (Text.eq_append_of_dropStart? hdrop).symm
    · exact ih hrest

/-- The parts of a raw value make up the value. -/
theorem Comparison.chars_ofChars (s : List Char) : (ofChars s).chars = s := by
  have hwhole := fun s => Operator.append_matchFirst s Operator.eq_glyph_of_mem
  unfold ofChars chars
  split
  · next rest h => simp [hwhole, Text.eq_append_of_dropStart? h]
  · simp [hwhole]

/-- A raw value that begins with a glyph is taken apart behind it, unless the glyph is empty or a
longer one may begin with it. -/
theorem Comparison.ofText_glyph {operator : Operator} (h : operator ∉ [.any, .greater, .less])
    (operand : String) :
    ofText (operator.glyph ++ operand) = ⟨false, operator, operand.toList⟩ := by
  unfold ofText
  rw [String.toList_append]
  cases operator <;> first | rfl | exact absurd (by decide) h

end CrashQuery
