/-
# Double-precision numbers

A double-precision number is the 64 bits of its IEEE 754 form. Everything about it is said in
exact arithmetic: `decode` gives the value of the bits as an integer times a power of two, and
`ofRatio` gives the bits of the number that is nearest to a ratio.
-/
import FeatureDoc.Decimal.Power

namespace FeatureDoc

/-- A double-precision number, given by its bits. -/
structure Double where
  /-- The sign, the eleven bits of the exponent and the 52 bits of the fraction. -/
  bits : UInt64
deriving DecidableEq, Repr

namespace Double

/-! ## Reading the bits -/

/-- The value that the bits stand for. -/
inductive Reading where
  | notANumber (negative : Bool)
  | infinite (negative : Bool)
  /-- The number `mantissa * 2 ^ exponent`, or its negative. -/
  | finite (negative : Bool) (mantissa : Nat) (exponent : Int)
deriving DecidableEq, Repr

/-- The value of a number, taken from its bits. -/
def decode (x : Double) : Reading :=
  let n : Nat := x.bits.toNat
  let negative : Bool := n / twoPow 63 = 1
  let field : Nat := n / twoPow 52 % twoPow 11
  let fraction : Nat := n % twoPow 52
  if field = 2047 then
    if fraction = 0 then .infinite negative else .notANumber negative
  else if field = 0 then .finite negative fraction (-1074)
  else .finite negative (twoPow 52 + fraction) ((field : Int) - 1075)

/-- Whether the number is zero, of either sign. -/
def isZero (x : Double) : Bool :=
  match x.decode with
  | .finite _ mantissa _ => mantissa = 0
  | _ => false

/-- Whether the number is finite. -/
def isFinite (x : Double) : Bool :=
  match x.decode with
  | .finite .. => true
  | _ => false

/-- Whether the two are equal as numbers: zeros of both signs are, and nothing equals what is
not a number. -/
def sameNumber (x y : Double) : Bool :=
  match x.decode, y.decode with
  | .notANumber _, _ | _, .notANumber _ => false
  | _, _ => (x.isZero && y.isZero) || x.bits == y.bits

/-! ## Writing the bits -/

/-- The number with the given sign whose other bits, as a natural number, are given. -/
def ofMagnitude (negative : Bool) (magnitude : Nat) : Double :=
  ⟨UInt64.ofNat (magnitude + if negative then twoPow 63 else 0)⟩

/-- The bits of infinity without the sign. -/
def infinityMagnitude : Nat := 2047 * twoPow 52

/-- Infinity of the given sign. -/
def infinity (negative : Bool) : Double := ofMagnitude negative infinityMagnitude

/-- What is not a number, with the given sign bit. -/
def notANumber (negative : Bool) : Double := ofMagnitude negative (infinityMagnitude + twoPow 51)

/-- A quotient rounded to the nearest integer, and to the even one when two are equally near. -/
def roundDiv (num den : Nat) : Nat :=
  let q := num / den
  let twice := 2 * (num % den)
  if twice < den ∨ (twice = den ∧ q % 2 = 0) then q else q + 1

/-- The exponent of the grid on which a positive ratio is rounded: on this grid the ratio has 53
bits before the point, unless it is so small that the grid cannot be finer. -/
def gridExponent (num den : Nat) : Int :=
  let q : Int := (Nat.log2 num : Int) - Nat.log2 den - 53
  let floor := num * twoPow (-q).toNat / (den * twoPow q.toNat)
  max (-1074) (if floor < twoPow 53 then q else q + 1)

/-- The number nearest to a ratio of natural numbers, the even one of two that are equally near.
A ratio beyond the largest finite number gives infinity. -/
def ofRatio (negative : Bool) (num den : Nat) : Double :=
  if num = 0 then ofMagnitude negative 0
  else
    let q := gridExponent num den
    let mantissa := roundDiv (num * twoPow (-q).toNat) (den * twoPow q.toNat)
    -- a mantissa of `2 ^ 53` carries into the exponent, and one below `2 ^ 52` has exponent zero
    ofMagnitude negative (min infinityMagnitude ((q + 1074).toNat * twoPow 52 + mantissa))

/-- The number nearest to an integer. -/
def ofInt (n : Int) : Double := ofRatio (n < 0) n.natAbs 1

/-- The number nearest to `digits * 10 ^ exponent`. Exponents at which the answer is zero or
infinity for certain are not worked out. -/
def ofDecimal (negative : Bool) (digits : Nat) (exponent : Int) : Double :=
  let places : Int := (Nat.toDigits 10 digits).length
  if digits = 0 ∨ places + exponent < -330 then ofMagnitude negative 0
  else if places + exponent > 310 then infinity negative
  else ofRatio negative (digits * tenPow exponent.toNat) (tenPow (-exponent).toNat)

/-- The ratio that a finite number is, without its sign. -/
def ratio (mantissa : Nat) (exponent : Int) : Nat × Nat :=
  (mantissa * twoPow exponent.toNat, twoPow (-exponent).toNat)

end Double

end FeatureDoc
