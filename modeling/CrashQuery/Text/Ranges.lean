/-!
# Sets of characters

A property of characters is written as the list of the code point ranges that have it, both ends
included. `Ranges.has` tests membership.
-/

namespace CrashQuery.Text

/-- Code point ranges, both ends included. -/
abbrev Ranges := List (Nat × Nat)

/-- Whether some range holds the character. -/
def Ranges.has (ranges : Ranges) (c : Char) : Bool :=
  ranges.any fun r => decide (r.1 ≤ c.toNat ∧ c.toNat ≤ r.2)

/-- A character is in the set exactly when one of the ranges spans its code point. -/
theorem Ranges.has_iff {ranges : Ranges} {c : Char} :
    ranges.has c = true ↔ ∃ r ∈ ranges, r.1 ≤ c.toNat ∧ c.toNat ≤ r.2 := by
  simp [Ranges.has]

end CrashQuery.Text
