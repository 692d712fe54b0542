/-!
# Binary64 numbers

A finite double is a sign, a significand and a power of two.  `ofRatio` rounds an exact
fraction to the nearest double, a tie going to the even significand, and gives nothing where
the nearest double would be infinite.  Every operation rounds one exact result this way, so no
arithmetic of the machine is involved.
-/

namespace TypedRouter

/-- A finite double: `significand * 2 ^ exponent`, with a sign.  Those built by `ofRatio` have a
significand below `2 ^ 53`, which is at least `2 ^ 52` unless the exponent is `-1074`. -/
structure Binary64 where
  negative : Bool
  significand : Nat
  exponent : Int
  deriving DecidableEq, Repr, Inhabited

namespace Binary64

/-- The exponent of the smallest doubles. -/
def minExponent : Int := -1074

/-- The exponent of the largest doubles. -/
def maxExponent : Int := 971

/-- Zero, with a sign. -/
def zero (negative : Bool) : Binary64 := ⟨negative, 0, minExponent⟩

/-- Whether a double is one of the two zeros. -/
def isZero (x : Binary64) : Bool := x.significand == 0

/-- The quotient rounded to the nearest integer, a tie going to the even one. -/
def roundDiv (num den : Nat) : Nat :=
  let q := num / den
  let r := num % den
  if 2 * r < den then q
  else if den < 2 * r then q + 1
  else if q % 2 = 0 then q else q + 1

/-- A fraction multiplied by a power of two, as numerator and denominator. -/
def shift (num den : Nat) (e : Int) : Nat × Nat :=
  (num * Nat.pow 2 e.toNat, den * Nat.pow 2 (-e).toNat)

/-- The greatest `k` with `2 ^ k ≤ num / den`, for a positive fraction. -/
def floorLog2 (num den : Nat) : Int :=
  let k : Int := (num.log2 : Int) - (den.log2 : Int)
  let (n, d) := shift num den (-k)
  if n < d then k - 1 else k

/-- The double nearest to a fraction, or nothing if that is infinite. -/
def ofRatio (negative : Bool) (num den : Nat) : Option Binary64 :=
  if num = 0 then some (zero negative)
  else
    let e := max minExponent (floorLog2 num den - 52)
    let (n, d) := shift num den (-e)
    let m := roundDiv n d
    let (m, e) := if m = Nat.pow 2 53 then (Nat.pow 2 52, e + 1) else (m, e)
    if e > maxExponent then none else some ⟨negative, m, e⟩

/-- The double nearest to a natural number. -/
def ofNat? (n : Nat) : Option Binary64 := ofRatio false n 1

/-- The magnitude as an exact fraction. -/
def ratio (x : Binary64) : Nat × Nat := shift x.significand 1 x.exponent

/-- The rounded product. -/
def mul? (x y : Binary64) : Option Binary64 :=
  let (a, b) := x.ratio
  let (c, d) := y.ratio
  ofRatio (x.negative != y.negative) (a * c) (b * d)

/-- The rounded quotient, for a divisor other than zero. -/
def div? (x y : Binary64) : Option Binary64 :=
  let (a, b) := x.ratio
  let (c, d) := y.ratio
  ofRatio (x.negative != y.negative) (a * d) (b * c)

/-- The number with the sign given. -/
def withSign (x : Binary64) (negative : Bool) : Binary64 := { x with negative }

/-- Equality of numbers: the two zeros are equal, all else is compared part by part. -/
def sameNumber (x y : Binary64) : Bool :=
  (x.isZero && y.isZero) || x == y

end Binary64

end TypedRouter
