/-!
# Code points

A set of code points is given by its ranges in ascending order, and searched by halving.
-/

namespace TypedRouter.Text

/-- The character with a code point, which must not be half of a surrogate pair. -/
def charOfCode? (n : Nat) : Option Char :=
  if h : n.isValidChar then some (Char.ofNatAux n h) else none

/-- Searches the ranges with indices from `low` up to `high`, which are in ascending order, in
at most as many steps as the first argument says. -/
def searchRanges (table : Array (Nat × Nat)) (n : Nat) : Nat → Nat → Nat → Bool
  | 0, _, _ => false
  | steps + 1, low, high =>
    if low < high then
      let middle := (low + high) / 2
      match table[middle]? with
      | none => false
      | some (first, last) =>
        if n < first then searchRanges table n steps low middle
        else if last < n then searchRanges table n steps (middle + 1) high
        else true
    else false

/-- Whether a character is in the set with these ranges. -/
def inRanges (table : Array (Nat × Nat)) (c : Char) : Bool :=
  searchRanges table c.toNat (table.size.log2 + 2) 0 table.size

end TypedRouter.Text
