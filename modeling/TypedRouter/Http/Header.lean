import TypedRouter.OrderedMap

/-!
# Headers

The name of a header is a token, written in small letters, and its value is a text without
control characters other than tabs.  Setting a header replaces the one of the same name.
-/

namespace TypedRouter.Http

/-- Headers: names with values. -/
abbrev Headers := List (String × String)

/-- Whether a name may hold a character. -/
def isTokenChar (c : Char) : Bool :=
  c.isAlphanum || ['!', '#', '$', '%', '&', '\x27', '*', '+', '-', '.', '^', '_', '\x60', '|',
    '~'].contains c

/-- The longest name that is accepted. -/
def maxNameLength : Nat := UInt16.size - 1

/-- The name of a header in small letters, unless it is not a name. -/
def headerName? (name : String) : Option String :=
  let cs := name.toList
  if cs.isEmpty || !cs.all isTokenChar || cs.length > maxNameLength then none
  else some (String.ofList (cs.map Char.toLower))

/-- Whether a value may hold a character. -/
def isValueChar (c : Char) : Bool :=
  c == '\t' || decide (0x20 ≤ c.toNat ∧ c.toNat ≠ 0x7F)

/-- Whether a text is the value of a header. -/
def isHeaderValue (value : String) : Bool :=
  value.toList.all isValueChar

end TypedRouter.Http
