import TypedRouter.Decimal.Rounding

/-!
# JSON numbers

A number written without a point and an exponent is an integer if it fits 64 bits, without a
sign for those that are not negative.  Every other number is a double.  So `1` and `1.0` are
different numbers, and `-0` is a double.
-/

namespace TypedRouter.Json

/-- A JSON number. -/
inductive Number where
  | int (value : Int)
  | float (value : Binary64)
  deriving DecidableEq, Repr, Inhabited

namespace Number

/-- The greatest integer a number holds as such. -/
def maxInt : Nat := UInt64.size - 1

/-- The magnitude of the least integer a number holds as such. -/
def maxNegative : Nat := UInt64.size / 2

/-- The number of an integer that has a sign or not. -/
def ofDigits? (negative : Bool) (n : Nat) : Option Number :=
  if negative then
    if n = 0 then some (.float (Binary64.zero true))
    else if n ≤ maxNegative then some (.int (-(n : Int)))
    else (Binary64.ofRatio true n 1).map .float
  else some (.int n)

/-- Equality of numbers: integers and doubles are never equal, the two zeros among the doubles
are. -/
def same : Number → Number → Bool
  | .int a, .int b => a == b
  | .float a, .float b => a.sameNumber b
  | _, _ => false

/-! ## Text -/

/-- The decimal digits of a natural number. -/
def digitChars (n : Nat) : List Char := Nat.toDigits 10 n

/-- A double as text: plain, with at least one decimal, for leading digits from `10 ^ -5` to
`10 ^ 15`, and otherwise with a signed exponent. -/
def floatChars (x : Binary64) : List Char :=
  let sign := if x.negative then ['-'] else []
  let d := Decimal.shortest x
  let ds := digitChars d.digits
  let n : Int := ds.length
  let top := d.exponent + n - 1
  if x.significand = 0 then sign ++ ['0', '.', '0']
  else if -5 ≤ top ∧ top < 0 then
    sign ++ '0' :: '.' :: (List.replicate (-top - 1).toNat '0' ++ ds)
  else if 0 ≤ top ∧ top < 16 then
    if n ≤ top + 1 then sign ++ ds ++ List.replicate (top + 1 - n).toNat '0' ++ ['.', '0']
    else sign ++ ds.take (top + 1).toNat ++ '.' :: ds.drop (top + 1).toNat
  else
    let mantissa := match ds with
      | [] => []
      | [c] => [c]
      | c :: rest => c :: '.' :: rest
    let power := if top < 0 then '-' :: digitChars (-top).toNat else '+' :: digitChars top.toNat
    sign ++ mantissa ++ 'e' :: power

/-- A number as JSON text. -/
def chars : Number → List Char
  | .int i => if i < 0 then '-' :: digitChars i.natAbs else digitChars i.natAbs
  | .float x => floatChars x

/-- A number as JSON text. -/
def text (n : Number) : String := String.ofList n.chars

end Number

end TypedRouter.Json
