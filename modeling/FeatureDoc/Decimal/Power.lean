/-
# Powers

The powers of two and of ten by which numbers are scaled.
-/

namespace FeatureDoc

/-- The power of two with the given exponent. -/
def twoPow (k : Nat) : Nat := Nat.pow 2 k

/-- The power of ten with the given exponent. -/
def tenPow (k : Nat) : Nat := Nat.pow 10 k

/-- The next power of two is twice as large. -/
theorem twoPow_succ (k : Nat) : twoPow (k + 1) = twoPow k * 2 := rfl

/-- The next power of ten is ten times as large. -/
theorem tenPow_succ (k : Nat) : tenPow (k + 1) = tenPow k * 10 := rfl

/-- Powers of two are positive. -/
theorem twoPow_pos (k : Nat) : 0 < twoPow k := Nat.pow_pos (by decide)

/-- Powers of ten are positive. -/
theorem tenPow_pos (k : Nat) : 0 < tenPow k := Nat.pow_pos (by decide)

end FeatureDoc
