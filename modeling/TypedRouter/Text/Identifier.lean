import TypedRouter.Text.CodePoints
import TypedRouter.Text.IdentifierTable

/-!
# Identifiers

An identifier starts with a letter, `$` or `_`, and goes on with letters, digits, marks and
`$`.  `sanitize` makes an identifier of any text: a character that no identifier may hold
becomes `_`, and a `_` is put in front where the first character may not lead one.
-/

namespace TypedRouter.Text.Identifier

/-- Whether a character has the Unicode property `XID_Start`. -/
def isLetter (c : Char) : Bool :=
  inRanges identifierStart c

/-- Whether a character has the Unicode property `XID_Continue`. -/
def isPart (c : Char) : Bool :=
  isLetter c || inRanges identifierRest c

/-- Whether a character may lead an identifier. -/
def canStart (c : Char) : Bool :=
  c == '$' || c == '_' || isLetter c

/-- Whether a character may stand anywhere after the first. -/
def canContinue (c : Char) : Bool :=
  c == '$' || isPart c

/-- Whether a text is an identifier. -/
def isIdentifierChars : List Char → Bool
  | [] => false
  | c :: rest => canStart c && rest.all canContinue

/-- Whether a text is an identifier. -/
def isIdentifier (name : String) : Bool :=
  isIdentifierChars name.toList

/-- The character itself if an identifier may hold it, and otherwise `_`. -/
def keepOrUnderscore (c : Char) : Char :=
  if canContinue c then c else '_'

/-- A text made an identifier; one that is an identifier stays as it is. -/
def sanitizeChars (cs : List Char) : List Char :=
  if isIdentifierChars cs then cs
  else
    match cs.map keepOrUnderscore with
    | [] => ['_']
    | c :: rest => if canStart c then c :: rest else '_' :: c :: rest

/-- A text made an identifier; one that is an identifier stays as it is. -/
def sanitize (name : String) : String :=
  String.ofList (sanitizeChars name.toList)

end TypedRouter.Text.Identifier
