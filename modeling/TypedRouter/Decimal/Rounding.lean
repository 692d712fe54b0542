import TypedRouter.Decimal.Shortest

/-!
# From decimals to doubles

Two rules lead from a written decimal to a double.  `Decimal.nearest` rounds the exact value
once; it reads the numbers of YAML.  `Decimal.scaled` starts from the rounded digits and then
multiplies or divides by a power of ten, itself rounded, with one rounding for each step; it
reads the numbers of JSON.  The two agree as long as digits and power are exact doubles.
-/

namespace TypedRouter.Decimal

/-- The double nearest to a decimal, or nothing if that is infinite.  Powers far outside the
range of doubles are decided without computing them. -/
def nearest (negative : Bool) (x : Decimal) : Option Binary64 :=
  if x.digits = 0 then some (Binary64.zero negative)
  else
    let top := x.exponent + ((toString x.digits).length : Int)
    if top > 400 then none
    else if top < -400 then some (Binary64.zero negative)
    else
      let (num, den) := scale x.digits 1 x.exponent
      Binary64.ofRatio negative num den

/-- The greatest power of ten that scaling uses in one step. -/
def maxStep : Nat := 308

/-- The double nearest to a power of ten. -/
def powerOfTen? (n : Nat) : Option Binary64 :=
  Binary64.ofNat? (Nat.pow 10 n)

/-- A double divided by the greatest step a number of times. -/
def divideSteps : Nat → Binary64 → Option Binary64
  | 0, x => some x
  | n + 1, x => do divideSteps n (← x.div? (← powerOfTen? maxStep))

/-- A double times a power of ten, one rounding for each step; nothing on overflow.  Four steps
down leave nothing of any double, so further ones are not taken. -/
def scaleBy (x : Binary64) : Int → Option Binary64
  | .ofNat e =>
    if e ≤ maxStep then do x.mul? (← powerOfTen? e)
    else if x.isZero then some x
    else none
  | .negSucc n => do
    let steps := n / maxStep
    let y ← divideSteps (min steps 4) x
    y.div? (← powerOfTen? (n + 1 - steps * maxStep))

/-- The double of a decimal, from its rounded digits scaled by its power of ten. -/
def scaled (negative : Bool) (x : Decimal) : Option Binary64 := do
  let y ← Binary64.ofNat? x.digits
  let z ← scaleBy y x.exponent
  return z.withSign negative

end TypedRouter.Decimal
