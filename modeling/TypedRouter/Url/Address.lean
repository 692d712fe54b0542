import TypedRouter.Text.Digits
import TypedRouter.Text.Split

/-!
# Addresses

A host that ends in a number is an address of four bytes.  It may be written with fewer parts,
the last of which then fills the bytes that are left, and each part may be in octal or
hexadecimal.

A host in brackets is an address of eight words.  One run of words that are zero may be left out
between two colons, and the last two words may be written as four bytes.  It is printed with the
first of the longest runs of at least two zeros left out.
-/

namespace TypedRouter.Url.Address

open Text

/-- Parts of an address: numbers with their base, if they are spelled as numbers at all. -/
def number? (part : List Char) : Option Nat :=
  match part with
  | [] => none
  | '0' :: 'x' :: [] => some 0
  | '0' :: 'X' :: [] => some 0
  | '0' :: 'x' :: rest => digits? 16 rest
  | '0' :: 'X' :: rest => digits? 16 rest
  | '0' :: c :: rest => digits? 8 (c :: rest)
  | _ => digits? 10 part

/-- The parts of a host between its points; one at the end does not count. -/
def parts (host : List Char) : List (List Char) :=
  let all := split '.' host
  if all.length > 1 ∧ all.getLast? = some [] then all.dropLast else all

/-- Whether a host is meant as an address: whether its last part is a number. -/
def endsInNumber (host : List Char) : Bool :=
  match (parts host).getLast? with
  | none => false
  | some [] => false
  | some last => last.all Char.isDigit || (number? last).isSome

/-- The number that some bytes and a last part make up. -/
def joinBytes? : List Nat → Option Nat
  | [] => none
  | numbers =>
    let leading := numbers.dropLast
    let last := numbers.getLast?.getD 0
    if leading.all (· ≤ 255) ∧ last < Nat.pow 256 (4 - leading.length) then
      some (leading.foldl (fun n b => n * 256 + b) 0 * Nat.pow 256 (4 - leading.length) + last)
    else none

/-- The four bytes that a host denotes, as one number. -/
def v4? (host : List Char) : Option Nat := do
  let ps := parts host
  if ps.length > 4 then none else joinBytes? (← ps.mapM number?)

/-- An address of four bytes. -/
def v4Chars (address : Nat) : List Char :=
  List.intercalate ['.'] <| [3, 2, 1, 0].map fun i => numeral (address / Nat.pow 256 i % 256)

/-- A word of up to four digits. -/
def word? (group : List Char) : Option Nat :=
  if group.length ≤ 4 then digits? 16 group else none

/-- A byte in decimal, without needless zeros. -/
def byte? (part : List Char) : Option Nat := do
  let n ← digits? 10 part
  if n ≤ 255 ∧ numeral n = part then some n else none

/-- Two words written as four bytes. -/
def dotted? (group : List Char) : Option (List Nat) := do
  match ← (split '.' group).mapM byte? with
  | [a, b, c, d] => some [a * 256 + b, c * 256 + d]
  | _ => none

/-- The words of some groups, of which only the last may be written as bytes. -/
def words? : List (List Char) → Option (List Nat)
  | [] => some []
  | [group] => if group.contains '.' then dotted? group else (word? group).map ([·])
  | group :: rest => do return (← word? group) :: (← words? rest)

/-- The groups of a text between its colons. -/
def groups (cs : List Char) : List (List Char) :=
  if cs.isEmpty then [] else split ':' cs

/-- The text before the first pair of colons and the text after it. -/
def splitGap? : List Char → Option (List Char × List Char)
  | ':' :: ':' :: rest => some ([], rest)
  | c :: rest => (splitGap? rest).map fun (before, after) => (c :: before, after)
  | [] => none

/-- The eight words that a text denotes. -/
def v6? (cs : List Char) : Option (List Nat) := do
  match splitGap? cs with
  | none =>
    let words ← words? (groups cs)
    if words.length = 8 then some words else none
  | some (before, after) =>
    let first ← (groups before).mapM word?
    let last ← words? (groups after)
    if first.length + last.length ≤ 7 then
      some (first ++ List.replicate (8 - first.length - last.length) 0 ++ last)
    else none

/-- How many of the words at the front are zero. -/
def zeros (words : List Nat) : Nat :=
  (words.takeWhile (· = 0)).length

/-- The place and the length of the first of the longest runs of zeros. -/
def longestRun : List Nat → Nat → Nat × Nat
  | [], i => (i, 0)
  | w :: rest, i =>
    let here := zeros (w :: rest)
    let later := longestRun rest (i + 1)
    if later.2 ≤ here then (i, here) else later

/-- A word in hexadecimal. -/
def wordChars (w : Nat) : List Char := Nat.toDigits 16 w

/-- Some words with colons between them. -/
def wordsChars (words : List Nat) : List Char :=
  List.intercalate [':'] (words.map wordChars)

/-- An address of eight words, in brackets. -/
def v6Chars (words : List Nat) : List Char :=
  let (place, length) := longestRun words 0
  let inner :=
    if length < 2 then wordsChars words
    else wordsChars (words.take place) ++ [':', ':'] ++ wordsChars (words.drop (place + length))
  '[' :: (inner ++ [']'])

end TypedRouter.Url.Address
