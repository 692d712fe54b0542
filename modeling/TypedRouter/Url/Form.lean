import TypedRouter.Url.Percent

/-!
# Forms

A query is a list of names with values, as a form sends it.  Letters, digits and four marks
stand for themselves, a plus sign for a space, and anything else is percent-encoded.
-/

namespace TypedRouter.Url.Form

/-- The characters that stand for themselves. -/
def isPlain (c : Char) : Bool :=
  c.isAlphanum || ['*', '-', '.', '_'].contains c

/-- A character of a name or a value. -/
def encodeChar (c : Char) : List Char :=
  if isPlain c then [c] else if c = ' ' then ['+'] else Percent.escapeChar c

/-- A name or a value. -/
def encode (s : String) : List Char :=
  s.toList.flatMap encodeChar

/-- A name with its value. -/
def pair (p : String × String) : List Char :=
  encode p.1 ++ '=' :: encode p.2

/-- The query with some pairs. -/
def pairs (ps : List (String × String)) : List Char :=
  List.intercalate ['&'] (ps.map pair)

end TypedRouter.Url.Form
