/-!
# Places in a YAML text

A cursor is the text that is left and the place it starts at.  Lines end at five kinds of
breaks, and a carriage return with a line feed is one break.
-/

namespace TypedRouter.Yaml

/-- Whether a character ends a line. -/
def isBreak (c : Char) : Bool :=
  c == '\n' || c == '\r' || c == '\x85' || c == '\u2028' || c == '\u2029'

/-- Whether a character is a space or a tab. -/
def isSpace (c : Char) : Bool :=
  c == ' ' || c == '\t'

/-- Whether a character may be part of the name of an anchor or of a directive. -/
def isWordChar (c : Char) : Bool :=
  c.isAlphanum || c == '_' || c == '-'

/-- The text that is left, and the place it starts at. -/
structure Cursor where
  rest : List Char
  index : Nat := 0
  line : Nat := 0
  column : Nat := 0
  deriving Repr, Inhabited

namespace Cursor

/-- The character some places ahead. -/
def ahead (c : Cursor) (k : Nat) : Option Char := c.rest[k]?

/-- Whether the next character is the one given. -/
def sees (c : Cursor) (x : Char) : Bool := c.rest.head? == some x

/-- Whether the text is at its end. -/
def atEnd (c : Cursor) : Bool := c.rest.isEmpty

/-- Whether a space or a tab is next. -/
def atSpace (c : Cursor) : Bool := c.rest.head?.any isSpace

/-- Whether a break is next. -/
def atBreak (c : Cursor) : Bool := c.rest.head?.any isBreak

/-- Whether the character some places ahead is a space, a tab or a break, or the text ends
before it. -/
def blankAhead (c : Cursor) (k : Nat) : Bool :=
  (c.ahead k).all fun x => isSpace x || isBreak x

/-- Whether the line ends here. -/
def atLineEnd (c : Cursor) : Bool := c.rest.head?.all isBreak

/-- The cursor after the next character. -/
def skip (c : Cursor) : Cursor :=
  match c.rest with
  | [] => c
  | _ :: rest => ⟨rest, c.index + 1, c.line, c.column + 1⟩

/-- The cursor after some more characters. -/
def skipMany (c : Cursor) (n : Nat) : Cursor :=
  ⟨c.rest.drop n, c.index + n, c.line, c.column + n⟩

/-- The cursor after the break that is next, and the text that the break stands for. -/
def takeBreak (c : Cursor) : Cursor × List Char :=
  match c.rest with
  | '\r' :: '\n' :: rest => (⟨rest, c.index + 2, c.line + 1, 0⟩, ['\n'])
  | x :: rest =>
    if x == '\u2028' || x == '\u2029' then (⟨rest, c.index + 1, c.line + 1, 0⟩, [x])
    else if isBreak x then (⟨rest, c.index + 1, c.line + 1, 0⟩, ['\n'])
    else (c, [])
  | [] => (c, [])

/-- The cursor after the characters of a class at the front. -/
def skipWhile (c : Cursor) (p : Char → Bool) : Cursor :=
  c.skipMany (c.rest.takeWhile p).length

/-- The characters of a class at the front, and the cursor after them. -/
def takeWhile (c : Cursor) (p : Char → Bool) : List Char × Cursor :=
  (c.rest.takeWhile p, c.skipWhile p)

/-- The cursor at the end of the line. -/
def skipLine (c : Cursor) : Cursor :=
  c.skipWhile fun x => !isBreak x

/-- Whether a line starts here with three characters of one kind and a blank after them. -/
def atMarker (c : Cursor) (x : Char) : Bool :=
  c.column == 0 && c.rest.take 3 == [x, x, x] && c.blankAhead 3

/-- Whether a line starts here that starts or ends a document. -/
def atDocumentMarker (c : Cursor) : Bool :=
  c.atMarker '-' || c.atMarker '.'

end Cursor

end TypedRouter.Yaml
