import TypedRouter.Text.Digits
import TypedRouter.Text.Utf8

/-!
# Percent-encoding

A character that may not stand in a part of a URL is spelled there by the bytes of its UTF-8
form, each as a percent sign and two hexadecimal digits in capitals.  Which characters those are
depends on the part; control characters and characters beyond ASCII are always among them.
-/

namespace TypedRouter.Url.Percent

open Text

/-- The characters that are encoded everywhere. -/
def isControl (c : Char) : Bool :=
  decide (c.toNat < 0x20 ∨ 0x7E < c.toNat)

/-- The characters that are encoded in a query. -/
def query (c : Char) : Bool :=
  isControl c || [' ', '\x22', '#', '<', '>'].contains c

/-- The characters that are encoded in the query of a special URL. -/
def specialQuery (c : Char) : Bool :=
  query c || c == '\x27'

/-- The characters that are encoded in a fragment. -/
def fragment (c : Char) : Bool :=
  isControl c || [' ', '\x22', '<', '>', '\x60'].contains c

/-- The characters that are encoded in a path. -/
def path (c : Char) : Bool :=
  fragment c || ['#', '?', '\x7b', '\x7d'].contains c

/-- The characters that are encoded in the name and the password of a user. -/
def userinfo (c : Char) : Bool :=
  path c || ['/', ':', ';', '=', '@', '[', '\\', ']', '^', '|'].contains c

/-- The characters that are encoded in a segment that is added to a path, where a percent sign
or a slash has no meaning of its own. -/
def segment (c : Char) : Bool :=
  path c || c == '/' || c == '%'

/-- The characters that are encoded in a segment that is added to the path of a special URL. -/
def specialSegment (c : Char) : Bool :=
  segment c || c == '\\'

/-- A hexadecimal digit in capitals. -/
def hexDigit (n : Nat) : Char :=
  (Nat.digitChar n).toUpper

/-- A byte as a percent sign and two digits. -/
def escapeByte (b : UInt8) : List Char :=
  ['%', hexDigit (b.toNat / 16), hexDigit (b.toNat % 16)]

/-- A character as its bytes. -/
def escapeChar (c : Char) : List Char :=
  (String.utf8EncodeChar c).flatMap escapeByte

/-- A text with the characters of a set encoded. -/
def encode (escaped : Char → Bool) (cs : List Char) : List Char :=
  cs.flatMap fun c => if escaped c then escapeChar c else [c]

/-- The bytes that a text spells; a percent sign without two digits stands for itself. -/
def decode : List Char → List UInt8
  | [] => []
  | '%' :: a :: b :: rest =>
    match hexValue? a, hexValue? b with
    | some high, some low => UInt8.ofNat (high * 16 + low) :: decode rest
    | _, _ => String.utf8EncodeChar '%' ++ decode (a :: b :: rest)
  | c :: rest => String.utf8EncodeChar c ++ decode rest

end TypedRouter.Url.Percent
