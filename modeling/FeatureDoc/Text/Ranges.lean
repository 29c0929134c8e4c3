/-
# Sets of characters given by ranges of code points

A Unicode property is written down as the list of the ranges of code points that have it.
-/

namespace FeatureDoc.Text

/-- A set of code points as a list of closed ranges. -/
abbrev Ranges := List (Nat × Nat)

/-- Whether a code point lies in one of the ranges. -/
def Ranges.contains (ranges : Ranges) (code : Nat) : Bool :=
  ranges.any fun range => range.1 ≤ code && code ≤ range.2

/-- A code point is in a set exactly when it lies between the ends of one of its ranges. -/
theorem Ranges.contains_iff {ranges : Ranges} {code : Nat} :
    ranges.contains code = true ↔ ∃ range ∈ ranges, range.1 ≤ code ∧ code ≤ range.2 := by
  simp [Ranges.contains]

end FeatureDoc.Text
