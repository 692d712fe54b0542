import TypedRouter.Text.Lowercase
import TypedRouter.Text.PrintableTable
import TypedRouter.Text.Split
import TypedRouter.Url.Percent
import TypedRouter.Url.Punycode

/-!
# Domains

A domain is a list of labels with points between them.  Letters are made small, wide forms of
ASCII characters are made plain, and characters that only steer how text is shown are left out.
A label with other characters is spelled in Punycode after a mark, and a label with that mark
has to spell such a label.  Some characters may not occur at all.

The labels are expected in composed form: accents that stand apart from their letters are not
joined to them.
-/

namespace TypedRouter.Url.Domain

open Text

/-- The characters that a domain may not have. -/
def isForbidden (c : Char) : Bool :=
  if c.toNat < 0x80 then
    decide (c.toNat ≤ 0x20 ∨ c.toNat = 0x7F) ||
      ['%', '#', '/', ':', '<', '>', '?', '@', '[', '\\', ']', '^', '|'].contains c
  else c == '\uFFFD' || inRanges unprintable c

/-- The characters that are left out. -/
def isIgnored (c : Char) : Bool :=
  let n := c.toNat
  n == 0xAD || n == 0x34F || n == 0x200B || n == 0x2060 || n == 0xFEFF ||
    decide (0xFE00 ≤ n ∧ n ≤ 0xFE0F)

/-- The character that a character of a domain stands for. -/
def mapChar (c : Char) : Char :=
  let n := c.toNat
  if n = 0x3002 ∨ n = 0xFF0E ∨ n = 0xFF61 then '.'
  else if 0xFF01 ≤ n ∧ n ≤ 0xFF5E then (Char.ofNat (n - 0xFEE0)).toLower
  else lowerChar c

/-- Whether all characters are ASCII. -/
def isAscii (cs : List Char) : Bool :=
  cs.all fun c => c.toNat < 0x80

/-- What a label in Punycode starts with. -/
def mark : List Char := "xn--".toList

/-- Whether a label in Punycode, without its mark, spells a label that needs it. -/
def isSpelling (cs : List Char) : Bool :=
  match Punycode.decode? cs with
  | none => false
  | some label =>
    !isAscii label && label.all (fun c => !isForbidden c && !isIgnored c && mapChar c == c) &&
      Punycode.encode label == cs

/-- A label with letters and digits only, unless it is not a label. -/
def label? (cs : List Char) : Option (List Char) :=
  if cs.any isForbidden then none
  else if mark.isPrefixOf cs then if isSpelling (cs.drop 4) then some cs else none
  else if isAscii cs then some cs
  else some (mark ++ Punycode.encode cs)

/-- The domain that a text denotes, where some characters may be percent-encoded. -/
def ofText? (cs : List Char) : Option (List Char) := do
  let decoded ← Utf8.decode? (Percent.decode cs)
  let labels := split '.' ((decoded.filter fun c => !isIgnored c).map mapChar)
  return join '.' (← labels.mapM label?)

end TypedRouter.Url.Domain
