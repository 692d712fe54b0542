import TypedRouter.Text.CapitalTable

/-!
# Small letters

The small form of a letter; any other character stands for itself.
-/

namespace TypedRouter.Text

/-- Whether a row of the table of capitals stands for a code point. -/
def rowHolds (n : Nat) (row : Nat × Nat × Nat × Int) : Bool :=
  decide (row.1 ≤ n ∧ n ≤ row.2.1 ∧ (n - row.1) % row.2.2.1 = 0)

/-- The small form of a letter. -/
def lowerChar (c : Char) : Char :=
  if c.toNat < 0x80 then c.toLower
  else
    match capitals.find? (rowHolds c.toNat) with
    | some row => Char.ofNat (c.toNat + row.2.2.2).toNat
    | none => c

end TypedRouter.Text
