/-
# The shortest decimal of a double-precision number

Every real between two midpoints rounds to the same double-precision number. Of the decimals in
that interval the ones with the fewest digits are wanted, and of those the one nearest to the
number. They are found on the grids of one, two, … digits: a grid that meets the interval at all
meets it in one of the two neighbours of the number.
-/
import FeatureDoc.Decimal.Double

namespace FeatureDoc.Decimal

/-- A positive decimal: its digits, the first of which is not zero, and the exponent of the
first digit, so that `⟨[1, 5], 3⟩` is 1500. -/
structure Digits where
  /-- The digits from the most significant one. -/
  digits : List Char
  /-- The power of ten by which the first digit counts. -/
  exponent : Int
deriving DecidableEq, Repr

/-- The least `d` such that a positive ratio is below `10 ^ d`. -/
def magnitude (num den : Nat) : Int :=
  if den ≤ num then (Nat.toDigits 10 (num / den)).length
  else
    let places := (Nat.toDigits 10 (den / num)).length
    if num * tenPow (places - 1) = den then 2 - (places : Int) else 1 - (places : Int)

/-- Four times the number and the ends of its interval, on the grid of its exponent. The lower
half of the interval is shorter at a power of two, where the grid below is finer. -/
structure Interval where
  low : Nat
  value : Nat
  high : Nat
  /-- Whether the ends belong to the interval. -/
  closed : Bool

/-- The reals that round to `mantissa * 2 ^ exponent`, in quarters of `2 ^ exponent`. -/
def roundingInterval (mantissa : Nat) (exponent : Int) : Interval where
  low := 4 * mantissa - if mantissa = twoPow 52 ∧ -1074 < exponent then 1 else 2
  value := 4 * mantissa
  high := 4 * mantissa + 2
  closed := mantissa % 2 = 0

/-- Whether the ratio `num / den` lies in the interval. -/
def Interval.contains (i : Interval) (num den : Nat) : Bool :=
  if i.closed then i.low * den ≤ num && num ≤ i.high * den
  else i.low * den < num && num < i.high * den

/-- The neighbour of the number on one decimal grid that rounds to it, the nearer one if both
do. The grid is that of the multiples of `step / unit` quarters. -/
def neighbour? (i : Interval) (step unit : Nat) : Option Nat :=
  let below := i.value * unit / step
  let above := below + 1
  let low := i.contains (below * step) unit && 0 < below
  let high := i.contains (above * step) unit
  if low ∧ high then
    some (if i.value * unit - below * step ≤ above * step - i.value * unit then below else above)
  else if low then some below
  else if high then some above
  else none

/-- The shortest digits of a positive number `mantissa * 2 ^ exponent`; seventeen always
suffice. -/
def shortest (mantissa : Nat) (exponent : Int) : Digits :=
  let i := roundingInterval mantissa exponent
  let (num, den) := Double.ratio mantissa exponent
  let d := magnitude num den
  let found := (List.range 17).findSome? fun (k : Nat) =>
    -- the grid of `k + 1` digits has the step `10 ^ e`
    let e : Int := d - (k + 1)
    -- a quarter is `2 ^ (exponent - 2)`
    let q : Int := exponent - 2
    let step := tenPow e.toNat * twoPow (-q).toNat
    let unit := tenPow (-e).toNat * twoPow q.toNat
    (neighbour? i step unit).map fun n => (n, e)
  match found with
  | none => ⟨['0'], 0⟩
  | some (n, e) =>
    let digits := Nat.toDigits 10 n
    let kept := (digits.reverse.dropWhile (· = '0')).reverse
    ⟨kept, e + digits.length - 1⟩

end FeatureDoc.Decimal
