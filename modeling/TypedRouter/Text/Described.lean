import TypedRouter.Text.CodePoints
import TypedRouter.Text.PrintableTable

/-!
# Text in error messages

A text that an error message names stands between double quotes.  Quotes and backslashes are
escaped, tab, line feed, carriage return and the null character have short escapes, and any
other character that would not show as itself, or that would join the one before it, is spelled
by its code point.
-/

namespace TypedRouter.Text

/-- A code point in hexadecimal, between braces. -/
def codePointEscape (c : Char) : List Char :=
  '\\' :: 'u' :: '\x7b' :: (Nat.toDigits 16 c.toNat ++ ['\x7d'])

/-- A character of a text between double quotes. -/
def describeChar (c : Char) : List Char :=
  if c = '\x00' then ['\\', '0']
  else if c = '\t' then ['\\', 't']
  else if c = '\r' then ['\\', 'r']
  else if c = '\n' then ['\\', 'n']
  else if c = '\\' then ['\\', '\\']
  else if c = '\x22' then ['\\', '\x22']
  else if 0x20 ≤ c.toNat ∧ c.toNat ≤ 0x7E then [c]
  else if inRanges graphemeExtend c || inRanges unprintable c then codePointEscape c
  else [c]

/-- A text between double quotes, with what would not show escaped. -/
def describe (s : String) : String :=
  String.ofList ('\x22' :: (s.toList.flatMap describeChar ++ ['\x22']))

end TypedRouter.Text
