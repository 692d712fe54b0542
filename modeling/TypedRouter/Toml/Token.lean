/-!
# Tokens of a TOML text

A TOML text is cut into marks, blanks, comments, line breaks and texts.  A text is bare or
stands between quotes; between single quotes everything stands for itself, and three quotes may
span lines.  Every token keeps where it starts, counted in characters.
-/

namespace TypedRouter.Toml

/-- How a text is written. -/
inductive Style where
  | bare
  | literal
  | basic
  | longLiteral
  | longBasic
  deriving DecidableEq, Repr, Inhabited

/-- What a token is. -/
inductive Kind where
  | dot
  | equals
  | comma
  | openSquare
  | closeSquare
  | openCurly
  | closeCurly
  | blank
  | comment
  | newline
  | text (style : Style)
  deriving DecidableEq, Repr, Inhabited

/-- A token with the place where it starts. -/
structure Token where
  kind : Kind
  start : Nat
  chars : List Char
  deriving DecidableEq, Repr, Inhabited

namespace Token

/-- The marks. -/
def mark? : Char → Option Kind
  | '.' => some .dot
  | '=' => some .equals
  | ',' => some .comma
  | '[' => some .openSquare
  | ']' => some .closeSquare
  | '\x7b' => some .openCurly
  | '\x7d' => some .closeCurly
  | _ => none

/-- Whether a character is a blank within a line. -/
def isBlank (c : Char) : Bool := c == ' ' || c == '\t'

/-- Whether a character is a control character.  The tab counts as a blank and not as one. -/
def isControl (c : Char) : Bool :=
  c != '\t' && (c.toNat < 0x20 || c.toNat == 0x7F)

/-- Whether a character ends a bare text. -/
def endsBare (c : Char) : Bool :=
  (mark? c).isSome || isBlank c || ['#', '\n', '\x0d', '\x22', '\x27'].contains c

/-- How many characters are left on a line. -/
def lineLength : List Char → Nat
  | [] => 0
  | '\n' :: _ => 0
  | '\x0d' :: '\n' :: _ => 0
  | _ :: rest => lineLength rest + 1

/-- How many characters a text takes after its opening quote, which goes no further than its
line. -/
def shortLength (quote : Char) (escapes : Bool) : List Char → Nat
  | [] => 0
  | '\n' :: _ => 0
  | '\x0d' :: '\n' :: _ => 0
  | [_] => 1
  | c :: d :: rest =>
    if c = quote then 1
    else if escapes ∧ c = '\\' ∧ d ≠ '\n' ∧ d ≠ '\x0d' then shortLength quote escapes rest + 2
    else shortLength quote escapes (d :: rest) + 1

/-- How many characters a text takes after its three opening quotes.  Up to two more quotes may
stand before the three that close it. -/
def longLength (quote : Char) (escapes : Bool) : List Char → Nat
  | [] => 0
  | [_] => 1
  | c :: d :: rest =>
    if escapes ∧ c = '\\' then longLength quote escapes rest + 2
    else if c = quote ∧ d = quote ∧ rest.head? = some quote then
      2 + min 3 (rest.takeWhile (· = quote)).length
    else longLength quote escapes (d :: rest) + 1

/-- Whether a text starts with three quotes. -/
def opensLong (quote : Char) (cs : List Char) : Bool :=
  [quote, quote, quote].isPrefixOf cs

/-- The kind of a quoted text at the front of a text, and how many characters it takes. -/
def quoted (quote : Char) (escapes : Bool) (short long : Style) (cs : List Char) : Kind × Nat :=
  if opensLong quote cs then (.text long, 3 + longLength quote escapes (cs.drop 3))
  else (.text short, 1 + shortLength quote escapes (cs.drop 1))

/-- The kind of the token at the front of a text, and how many characters it takes. -/
def first (c : Char) (rest : List Char) : Kind × Nat :=
  match mark? c with
  | some kind => (kind, 1)
  | none =>
    if isBlank c then (.blank, 1 + (rest.takeWhile isBlank).length)
    else if c = '#' then (.comment, 1 + lineLength rest)
    else if c = '\n' then (.newline, 1)
    else if c = '\x0d' then (.newline, if rest.head? = some '\n' then 2 else 1)
    else if c = '\x22' then quoted c true .basic .longBasic (c :: rest)
    else if c = '\x27' then quoted c false .literal .longLiteral (c :: rest)
    else (.text .bare, 1 + (rest.takeWhile fun d => !endsBare d).length)

/-- The tokens of a text that starts at some place.  Each takes a character at least, so there
are no more than the first argument if that is the length of the text. -/
def scan : Nat → Nat → List Char → List Token
  | 0, _, _ => []
  | _ + 1, _, [] => []
  | steps + 1, start, c :: rest =>
    let (kind, length) := first c rest
    ⟨kind, start, (c :: rest).take length⟩ :: scan steps (start + length) ((c :: rest).drop length)

/-- The tokens of a text; a byte order mark at its front is none. -/
def ofChars : List Char → List Token
  | '\uFEFF' :: rest => scan rest.length 1 rest
  | cs => scan cs.length 0 cs

/-- The place inside a token where it goes wrong.  The line feed that belongs to a carriage return
can be missing, and a comment can hold a control character. -/
def fault? (t : Token) : Option Nat :=
  match t.kind with
  | .newline => if t.chars = ['\x0d'] then some (t.start + 1) else none
  | .comment => (t.chars.findIdx? isControl).map (t.start + ·)
  | _ => none

end Token

end TypedRouter.Toml
