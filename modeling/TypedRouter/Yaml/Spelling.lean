import TypedRouter.Outline.Basic
import TypedRouter.Yaml.Node

/-!
# What plain scalars stand for

A plain scalar stands for null, a truth value or a number if it is spelled like one, and for
itself otherwise.  Integers may be written in decimal, hexadecimal, octal or binary; digits
after a leading zero are no number.  Integers that need more than 64 bits but not more than 128
cannot be read.
-/

namespace TypedRouter.Yaml

open Text

/-- Whether a text is spelled like null. -/
def isNull (s : List Char) : Bool :=
  s == ['~'] || s == "null".toList || s == "Null".toList || s == "NULL".toList

/-- The truth value that a text spells. -/
def bool? (s : List Char) : Option Bool :=
  if s == "true".toList || s == "True".toList || s == "TRUE".toList then some true
  else if s == "false".toList || s == "False".toList || s == "FALSE".toList then some false
  else none

/-- A text without the sign at its front. -/
def dropSign : List Char → List Char
  | '+' :: cs => cs
  | '-' :: cs => cs
  | cs => cs

/-- Whether a text has more than one digit, the first of them zero, and nothing else but a
sign. -/
def hasLeadingZero (s : List Char) : Bool :=
  match dropSign s with
  | '0' :: c :: cs => (c :: cs).all Char.isDigit
  | _ => false

/-- The base that a mark at the front of a text gives, and the digits after it. -/
def baseOf? : List Char → Option (Nat × List Char)
  | '0' :: 'x' :: cs => some (16, cs)
  | '0' :: 'o' :: cs => some (8, cs)
  | '0' :: 'b' :: cs => some (2, cs)
  | _ => none

/-- The integer that a text spells without a sign. -/
def unsigned? (s cs : List Char) : Option Nat :=
  match baseOf? cs with
  | some (base, digits) => digits? base digits
  | none => if hasLeadingZero s then none else digits? 10 cs

/-- The integer that a text spells. -/
def int? (s : List Char) : Option Int :=
  match s with
  | '-' :: cs => (unsigned? s cs).map fun n => -(n : Int)
  | '+' :: cs => (unsigned? s cs).map fun n => (n : Int)
  | cs => (unsigned? s cs).map fun n => (n : Int)

/-- The parts of a number with a point or a power of ten: the digits before the point, those
after it, and the power. -/
def decimalParts? (cs : List Char) : Option (List Char × List Char × Int) := do
  let whole := cs.takeWhile Char.isDigit
  let rest := cs.dropWhile Char.isDigit
  let (fraction, rest) := match rest with
    | '.' :: rest => (rest.takeWhile Char.isDigit, rest.dropWhile Char.isDigit)
    | rest => ([], rest)
  if whole.isEmpty && fraction.isEmpty then none
  else
    match rest with
    | [] => return (whole, fraction, 0)
    | e :: rest =>
      if e == 'e' || e == 'E' then
        let n ← digits? 10 (dropSign rest)
        return (whole, fraction, if rest.head? == some '-' then -(n : Int) else n)
      else none

/-- The double that a text spells, if it is finite. -/
def finite? (s : List Char) : Option Binary64 := do
  let (negative, cs) := match s with
    | '-' :: cs => (true, cs)
    | '+' :: cs => (false, cs)
    | cs => (false, cs)
  let (whole, fraction, power) ← decimalParts? cs
  let n ← digits? 10 (whole ++ fraction)
  Decimal.nearest negative ⟨n, power - fraction.length⟩

/-- Whether a text spells an infinity or no number. -/
def isNonFinite (s : List Char) : Bool :=
  let positive := match s with
    | '+' :: cs => cs
    | cs => cs
  positive == ".inf".toList || positive == ".Inf".toList || positive == ".INF".toList ||
    s == "-.inf".toList || s == "-.Inf".toList || s == "-.INF".toList ||
    s == ".nan".toList || s == ".NaN".toList || s == ".NAN".toList

/-- The outline of an integer, which cannot be read if it needs more than 64 bits. -/
def intOutline? (s : List Char) : Option Outline := do
  let i ← int? s
  if -(Json.Number.maxNegative : Int) ≤ i ∧ i ≤ (Json.Number.maxInt : Int) then
    return .number (.int i)
  else if -(Nat.pow 2 127 : Int) ≤ i ∧ i < (Nat.pow 2 128 : Int) then
    return .unreadable .malformed .null
  else none

/-- The outline of a number with a point or a power of ten. -/
def floatOutline? (s : List Char) : Option Outline :=
  if isNonFinite s then some .nonFinite else (finite? s).map fun x => .number (.float x)

/-- What a plain scalar without a tag stands for. -/
def plainOutline (s : List Char) : Outline :=
  if s.isEmpty || isNull s then .null
  else
    match bool? s with
    | some b => .bool b
    | none =>
      match intOutline? s with
      | some o => o
      | none =>
        match if hasLeadingZero s then none else floatOutline? s with
        | some o => o
        | none => .text (String.ofList s)

/-- What a scalar with a tag stands for.  The tags of the core schema ask for a spelling of their
kind; a tag of the document's own makes a value that cannot be read. -/
def taggedOutline (tag : String) (s : List Char) : Outline :=
  let refused : Outline := .unreadable .malformed .null
  if tag == "tag:yaml.org,2002:bool" then ((bool? s).map Outline.bool).getD refused
  else if tag == "tag:yaml.org,2002:int" then (intOutline? s).getD refused
  else if tag == "tag:yaml.org,2002:float" then (floatOutline? s).getD refused
  else if tag == "tag:yaml.org,2002:null" then if isNull s then .null else refused
  else if tag.startsWith "!" then refused
  else .text (String.ofList s)

/-- The outline of a scalar. -/
def scalarOutline (lead : Lead) (style : Style) (text : String) : Outline :=
  match lead.tag with
  | some tag => .scalar text (taggedOutline tag text.toList)
  | none =>
    match style with
    | .plain => .scalar text (plainOutline text.toList)
    | .marked => .text text

end TypedRouter.Yaml
