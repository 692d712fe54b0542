import TypedRouter.Decimal.Binary64

/-!
# Shortest decimals

The decimal that stands for a double is the one with the fewest digits among those that read
back as it, and of several with that many digits the nearest.  A decimal reads back when it
lies between the midpoints to the two neighbouring doubles; the midpoints themselves belong to
a double with an even significand.

The search looks at one digit, then two, and so on.  On the grid of decimals with `n` digits
the only candidates are the two neighbours of the number itself, since any grid point in the
interval is at least as far away as one of them.
-/

namespace TypedRouter

/-- A decimal in scientific form: its digits as one natural number, and the power of ten of the
last of them. -/
structure Decimal where
  digits : Nat
  exponent : Int
  deriving DecidableEq, Repr, Inhabited

namespace Decimal

/-- A fraction multiplied by a power of ten, as numerator and denominator. -/
def scale (num den : Nat) (e : Int) : Nat × Nat :=
  (num * Nat.pow 10 e.toNat, den * Nat.pow 10 (-e).toNat)

/-- The greatest `k` with `10 ^ k ≤ num / den`, for a positive fraction. -/
def floorLog10 (num den : Nat) : Int :=
  let guess := (Binary64.floorLog2 num den * 30103).fdiv 100000
  let (n, d) := scale num den (-guess)
  if n < d then guess - 1
  else if 10 * d ≤ n then guess + 1
  else guess

/-- The decimal without zeros at its end. -/
def stripZeros : Nat → Decimal → Decimal
  | 0, x => x
  | fuel + 1, x =>
    if x.digits ≠ 0 ∧ x.digits % 10 = 0 then
      stripZeros fuel ⟨x.digits / 10, x.exponent + 1⟩
    else x

/-- The interval of reals that round to a double, in quarters of its last binary place:
the lower end, the number and the upper end. -/
def interval (x : Binary64) : Nat × Nat × Nat :=
  let m := x.significand
  let below := if m = Nat.pow 2 52 ∧ x.exponent > Binary64.minExponent then 1 else 2
  (4 * m - below, 4 * m, 4 * m + 2)

/-- Whether a decimal lies in the interval of a double. -/
def readsBack (x : Binary64) (d : Decimal) : Bool :=
  let (low, _, high) := interval x
  let (n, den) := scale d.digits 1 d.exponent
  let (n, den) := Binary64.shift n den (2 - x.exponent)
  if x.significand % 2 = 0 then
    decide (low * den ≤ n ∧ n ≤ high * den)
  else
    decide (low * den < n ∧ n < high * den)

/-- The decimal with `n` digits that is best for a double whose leading digit has the power
`top` of ten, if one with so many digits reads back. -/
def withDigits (x : Binary64) (top : Int) (n : Nat) : Option Decimal :=
  let e := top - (n : Int) + 1
  let (a, b) := x.ratio
  let (num, den) := scale a b (-e)
  let low : Decimal := ⟨num / den, e⟩
  let high : Decimal := ⟨num / den + 1, e⟩
  let near := if Binary64.roundDiv num den = low.digits then low else high
  let far := if Binary64.roundDiv num den = low.digits then high else low
  if readsBack x near then some near
  else if readsBack x far then some far
  else none

/-- The shortest decimal of the magnitude of a double. -/
def shortest (x : Binary64) : Decimal :=
  if x.significand = 0 then ⟨0, 0⟩
  else
    let (a, b) := x.ratio
    let top := floorLog10 a b
    match (List.range' 1 17).findSome? (withDigits x top) with
    | some d => stripZeros 20 d
    | none => ⟨x.significand, 0⟩

end Decimal

end TypedRouter
