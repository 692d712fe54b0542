import TypedRouter.Text.CodePoints

/-!
# Punycode

A label of a domain with characters beyond ASCII is spelled with letters and digits.  Its ASCII
characters come first, followed by a hyphen if there are any.  Each other character, from the
least code point to the greatest, is then given by how far it is from the one before, counted
through all code points and all places where it could be put.  Such a distance is a numeral in
base 36 whose digits, least first, tell by their size which is the last; what size that takes
adapts to the distances before.
-/

namespace TypedRouter.Url.Punycode

open Text (charOfCode?)

/-- A digit: a letter for values below 26, and a figure for the others. -/
def digitChar (d : Nat) : Char :=
  if d < 26 then Char.ofNat ('a'.toNat + d) else Char.ofNat ('0'.toNat + (d - 26))

/-- The value of a digit. -/
def digitValue? (c : Char) : Option Nat :=
  if c.isLower then some (c.toNat - 'a'.toNat)
  else if c.isUpper then some (c.toNat - 'A'.toNat)
  else if c.isDigit then some (c.toNat - '0'.toNat + 26)
  else none

/-- The least value of a digit that is not the last, at a place of a numeral. -/
def threshold (bias place : Nat) : Nat :=
  min 26 (max 1 (36 * (place + 1) - bias))

/-- How often a number is divided by 35 until it is at most 455, and what is left. -/
def reduce (n : Nat) : Nat × Nat :=
  if 455 < n then
    let (times, left) := reduce (n / 35)
    (times + 1, left)
  else (0, n)
termination_by n

/-- The bias after a distance, given how many characters there are by then. -/
def adapt (distance count : Nat) (isFirst : Bool) : Nat :=
  let d := if isFirst then distance / 700 else distance / 2
  let (times, left) := reduce (d + d / count)
  36 * times + 36 * left / (left + 38)

/-- The numeral of a distance, from a place on. -/
def numeral (bias place q : Nat) : List Char :=
  let t := threshold bias place
  if q < t then [digitChar q]
  else digitChar (t + (q - t) % (36 - t)) :: numeral bias (place + 1) ((q - t) / (36 - t))
termination_by q
decreasing_by
  have one : 1 ≤ threshold bias place := by unfold threshold; omega
  have := Nat.div_le_self (q - threshold bias place) (36 - threshold bias place)
  omega

/-- What has been spelled so far. -/
structure Writing where
  /-- The numerals. -/
  written : List Char
  /-- The distance from the character that was spelled last. -/
  distance : Nat := 0
  bias : Nat := 72
  /-- How many characters have been spelled. -/
  count : Nat

/-- Passes by a character of the label, and spells it if it has the code point whose turn it
is. -/
def Writing.pass (basic code : Nat) (w : Writing) (c : Char) : Writing :=
  if c.toNat < code then { w with distance := w.distance + 1 }
  else if c.toNat = code then
    { written := w.written ++ numeral w.bias 0 w.distance
      distance := 0
      bias := adapt w.distance (w.count + 1) (w.count == basic)
      count := w.count + 1 }
  else w

/-- Spells the characters with the code points of a list, which is in ascending order. -/
def spell (label : List Char) (basic : Nat) : List Nat → Nat → Writing → Writing
  | [], _, w => w
  | code :: rest, least, w =>
    let w := { w with distance := w.distance + (code - least) * (w.count + 1) }
    let w := label.foldl (Writing.pass basic code) w
    spell label basic rest (code + 1) { w with distance := w.distance + 1 }

/-- The code points beyond ASCII of a label, each once, in ascending order. -/
def codes (label : List Char) : List Nat :=
  (((label.map Char.toNat).filter (0x80 ≤ ·)).mergeSort fun a b => decide (a ≤ b)).eraseDups

/-- A label spelled with letters and digits. -/
def encode (label : List Char) : List Char :=
  let basic := label.filter fun c => c.toNat < 0x80
  let start := if basic.isEmpty then [] else basic ++ ['-']
  start ++ (spell label basic.length (codes label) 0x80 ⟨[], 0, 72, basic.length⟩).written

/-- What has been read so far. -/
structure Reading where
  label : List Char
  code : Nat := 0x80
  /-- Where the next character goes, plus what the numeral says so far. -/
  index : Nat := 0
  /-- Where the next character went before the numeral. -/
  start : Nat := 0
  weight : Nat := 1
  place : Nat := 0
  bias : Nat := 72

/-- Reads a digit, and puts a character in its place if the digit is the last of its numeral. -/
def Reading.step (r : Reading) (c : Char) : Option Reading := do
  let d ← digitValue? c
  let index := r.index + d * r.weight
  let t := threshold r.bias r.place
  if t ≤ d then
    return { r with index, weight := r.weight * (36 - t), place := r.place + 1 }
  else
    let count := r.label.length + 1
    let code := r.code + index / count
    return {
      label := r.label.insertIdx (index % count) (← charOfCode? code)
      code
      index := index % count + 1
      start := index % count + 1
      bias := adapt (index - r.start) count (r.start == 0) }

/-- The label that some letters and digits spell. -/
def decode? (cs : List Char) : Option (List Char) := do
  let digits := (cs.reverse.takeWhile (· != '-')).reverse
  let basic := cs.take (cs.length - digits.length - 1)
  let r ← digits.foldlM Reading.step ⟨basic, 0x80, 0, 0, 1, 0, 72⟩
  if r.place = 0 then some r.label else none

end TypedRouter.Url.Punycode
