import CrashQuery.Request.Operand

/-!
# Conditions

A condition compares a field with values by one operator. Raw values of one field that share
operator and negation are merged into one condition, whose values are in the order in which they
were first seen and without repetition.
-/

namespace CrashQuery

open Calendar (Instant)

/-- A field compared with values. -/
structure Condition where
  /-- The field. -/
  field : Field
  /-- The operator. -/
  operator : Operator
  /-- Whether the comparison is to fail. -/
  negated : Bool := false
  /-- The values that the field is compared with. -/
  values : List String
  deriving DecidableEq

namespace Condition

/-- The public name of the field. -/
def name (c : Condition) : String := c.field.publicName

/-- The values that are whole numbers. -/
def intValues (c : Condition) : List Int := c.values.filterMap fun v => Text.readInt64? v.toList

/-- Whether two conditions compare the same field in the same way. -/
def isAlike (c d : Condition) : Bool :=
  c.name == d.name && c.operator == d.operator && c.negated == d.negated

/-- Appends the values that are not there yet. -/
def mergeValues (values : List String) : List String → List String
  | [] => values
  | v :: rest => mergeValues (if v ∈ values then values else values ++ [v]) rest

/-- Merges a condition into the first one that is alike, or appends it. -/
def merge (new : Condition) : List Condition → List Condition
  | [] => [new]
  | c :: rest =>
    if c.isAlike new then { c with values := mergeValues c.values new.values } :: rest
    else c :: merge new rest

/-- The condition that a raw value of a field stands for, if its operand fits the field. -/
def ofRaw? (field : Field) (raw : String) (now : Instant) : Option Condition :=
  let comparison := Comparison.ofText raw
  if comparison.operator = .isNull then some ⟨field, .isNull, comparison.negated, []⟩
  else
    (Request.coerce field.kind comparison.operator comparison.operand now).map fun v =>
      ⟨field, comparison.operator, comparison.negated, [v]⟩

/-- A glyph with an operand stands for the comparison with the operand as a value of the field. -/
theorem ofRaw?_glyph {operator : Operator} (h : operator ∉ [.any, .greater, .less, .isNull])
    (field : Field) (operand : String) (now : Instant) :
    ofRaw? field (operator.glyph ++ operand) now =
      (Request.coerce field.kind operator operand.toList now).map fun v =>
        ⟨field, operator, false, [v]⟩ := by
  obtain ⟨hglyph, hnull⟩ : operator ∉ [.any, .greater, .less] ∧ operator ≠ .isNull := by
    simpa [and_assoc] using h
  simp only [ofRaw?, Comparison.ofText_glyph hglyph operand, hnull, if_false]

/-- Merges what a raw value stands for into the conditions. -/
def addRaw (now : Instant) (conditions : List Condition) (field : Field) (raw : String) :
    List Condition :=
  match ofRaw? field raw now with
  | some c => merge c conditions
  | none => conditions

end Condition

end CrashQuery
