import TypedRouter.Yaml.Token.Scalar

/-!
# Tokens of a YAML text

The structure of a block text lies in its indentation: a part that is indented more than the
collections around it opens a collection, one that is indented less closes them.  And a part
turns out to be a key only when a colon follows it on the same line.  So the place of a part
that could be a key is kept, and the tokens that make it one are put there later.

A result of `none` means that the text is not well formed.
-/

namespace TypedRouter.Yaml

open Text

/-- A place where a key may have started. -/
structure KeyPlace where
  /-- Whether nothing but a key can stand there. -/
  needed : Bool
  /-- How many tokens come before it. -/
  position : Nat
  index : Nat
  line : Nat
  column : Nat
  deriving Repr, Inhabited

/-- What is known in the middle of a text. -/
structure Lexer where
  cursor : Cursor
  /-- The tokens so far, last one first. -/
  tokens : List Token := []
  /-- How many tokens there are. -/
  count : Nat := 0
  /-- The indentation of the innermost block collection, and of those around it. -/
  indent : Int := -1
  indents : List Int := []
  /-- Whether a key may start here. -/
  keyAllowed : Bool := true
  /-- How many flow collections are open. -/
  flowLevel : Nat := 0
  /-- The place where a key may have started, for each open flow collection and for the block
  around them. -/
  keys : List (Option KeyPlace) := [none]
  deriving Inhabited

namespace Lexer

/-- Adds a token at the end. -/
def push (s : Lexer) (t : Token) : Lexer :=
  { s with tokens := t :: s.tokens, count := s.count + 1 }

/-- Puts a token at a place among those that are there. -/
def insert (s : Lexer) (position : Nat) (t : Token) : Lexer :=
  let (after, before) := s.tokens.splitAt (s.count - position)
  { s with tokens := after ++ t :: before, count := s.count + 1 }

/-- The state after a mark of some characters. -/
def advance (s : Lexer) (n : Nat) : Lexer :=
  { s with cursor := s.cursor.skipMany n }

/-- Whether the text is inside a flow collection. -/
def inFlow (s : Lexer) : Bool := s.flowLevel != 0

/-! ## Keys -/

/-- The place where a key may have started in the innermost flow collection. -/
def keyPlace? (s : Lexer) : Option KeyPlace := s.keys.head?.join

/-- Sets the place where a key may have started in the innermost flow collection. -/
def setKey (s : Lexer) (k : Option KeyPlace) : Lexer :=
  { s with keys := k :: s.keys.tail }

/-- Gives up the place where a key may have started, unless a key is needed there. -/
def dropKey (s : Lexer) : Option Lexer :=
  if s.keyPlace?.any KeyPlace.needed then none else some (s.setKey none)

/-- Keeps the current place, if a key may start there. -/
def keepKey (s : Lexer) : Option Lexer :=
  if s.keyAllowed then do
    let s ← s.dropKey
    let c := s.cursor
    return s.setKey <| some
      ⟨!s.inFlow && decide (s.indent = (c.column : Int)), s.count, c.index, c.line, c.column⟩
  else some s

/-- Gives up the places that are too far back: a key stands on one line and has at most 1024
characters. -/
def dropStale (s : Lexer) : Option Lexer := do
  let keys ← s.keys.mapM fun
    | some k =>
      if k.line < s.cursor.line || k.index + 1024 < s.cursor.index then
        if k.needed then none else some none
      else some (some k)
    | none => some none
  return { s with keys }

/-! ## Indentation -/

/-- Opens a block collection if the column is further right than the innermost one. -/
def openBlock (s : Lexer) (column : Nat) (position : Nat) (t : Token) : Lexer :=
  if s.inFlow then s
  else if s.indent < (column : Int) then
    let s := { s with indents := s.indent :: s.indents, indent := column }
    s.insert position t
  else s

/-- Closes the block collections that are further right than the column. -/
def closeBlocks (column : Int) : List Int → Lexer → Lexer
  | [], s => s
  | outer :: rest, s =>
    if column < s.indent then
      closeBlocks column rest (push { s with indent := outer, indents := rest } .blockEnd)
    else s

/-- Closes the block collections that are further right than the column; there are none inside
flow collections. -/
def unindent (s : Lexer) (column : Int) : Lexer :=
  if s.inFlow then s else closeBlocks column s.indents s

/-! ## Blanks and comments -/

/-- Passes over blanks, comments and breaks.  A tab counts as a blank where no key may start,
and a break lets a key start outside flow collections. -/
def passBlanks : Nat → Lexer → Lexer
  | 0, s => s
  | fuel + 1, s =>
    let c := if s.cursor.index == 0 && s.cursor.sees '\ufeff' then s.cursor.skip else s.cursor
    let c := c.skipWhile fun x => x == ' ' || (x == '\t' && (s.inFlow || !s.keyAllowed))
    let c := if c.sees '#' then c.skipLine else c
    if c.atBreak then
      passBlanks fuel
        { s with cursor := c.takeBreak.1, keyAllowed := s.keyAllowed || !s.inFlow }
    else { s with cursor := c }

/-! ## Directives, names and tags -/

/-- Ends everything that is open before a directive or a mark of a document. -/
def endParts (s : Lexer) : Option Lexer := do
  let s ← (s.unindent (-1)).dropKey
  return { s with keyAllowed := false }

/-- Reads a number of a version, of at most nine digits. -/
def versionNumber (c : Cursor) : Option (Nat × Cursor) :=
  let (digits, rest) := c.takeWhile Char.isDigit
  if digits.isEmpty || digits.length > 9 then none
  else some (digits.foldl (fun n d => n * 10 + (d.toNat - '0'.toNat)) 0, rest)

/-- Whether a character may stand in a tag. -/
def isTagChar (verbatim : Bool) (c : Char) : Bool :=
  isWordChar c || ";/?:@&=+$.!~*\x27()%".toList.contains c ||
    (verbatim && [',', '[', ']'].contains c)

/-- The bytes that escapes at the front of a text denote. -/
def escapedBytes : Nat → List Char → Option (List Nat × List Char)
  | 0, cs => some ([], cs)
  | n + 1, cs =>
    match cs with
    | '%' :: a :: b :: rest => do
      let byte := (← hexValue? a) * 16 + (← hexValue? b)
      let (bytes, rest) ← escapedBytes n rest
      return (byte :: bytes, rest)
    | _ => none

/-- The character that the escapes at the front of a text denote in UTF-8. -/
def escapedChar (cs : List Char) : Option (Char × List Char) := do
  let ([first], _) ← escapedBytes 1 cs | none
  let width := if first < 0x80 then 1 else if first / 32 == 6 then 2
    else if first / 16 == 14 then 3 else if first / 8 == 30 then 4 else 0
  if width == 0 then none
  else
    let (bytes, rest) ← escapedBytes width cs
    if bytes.tail.any fun b => b / 64 != 2 then none
    else
      let lead := match width with
        | 1 => first
        | 2 => first % 32
        | 3 => first % 16
        | _ => first % 8
      let c ← charOfCode? (bytes.tail.foldl (fun n b => n * 64 + b % 64) lead)
      return (c, rest)

/-- Takes the characters of a tag, last one first. -/
def tagChars (verbatim : Bool) : Nat → Cursor → List Char → Option (Cursor × List Char)
  | 0, c, taken => some (c, taken)
  | fuel + 1, c, taken =>
    match c.rest with
    | [] => some (c, taken)
    | x :: _ =>
      if x == '%' then do
        let (e, rest) ← escapedChar c.rest
        tagChars verbatim fuel (c.skipMany (c.rest.length - rest.length)) (e :: taken)
      else if isTagChar verbatim x then tagChars verbatim fuel c.skip (x :: taken)
      else some (c, taken)

/-- Reads the characters of a tag. -/
def tagText (verbatim : Bool) (c : Cursor) : Option (Cursor × List Char) := do
  let (c, taken) ← tagChars verbatim c.rest.length c []
  return (c, taken.reverse)

/-- Reads a handle: an exclamation mark, maybe a word, and maybe another exclamation mark. -/
def tagHandle (c : Cursor) : Option (Cursor × List Char) :=
  if c.sees '!' then
    let (word, rest) := c.skip.takeWhile isWordChar
    if rest.sees '!' then some (rest.skip, '!' :: (word ++ ['!'])) else some (rest, '!' :: word)
  else none

/-- Reads a directive after its name. -/
def directiveValue (name : List Char) (c : Cursor) : Option (Token × Cursor) :=
  let c := c.skipWhile isSpace
  if name == "YAML".toList then do
    let (major, c) ← versionNumber c
    if !c.sees '.' then none
    else
      let (minor, c) ← versionNumber c.skip
      return (.version major minor, c)
  else if name == "TAG".toList then do
    let (c, handle) ← tagHandle c
    if handle != ['!'] && handle.getLast? != some '!' then none
    else if !c.atSpace then none
    else
      let (c, suffix) ← tagText true (c.skipWhile isSpace)
      if suffix.isEmpty || !c.blankAhead 0 then none
      else return (.tagDirective (String.ofList handle) (String.ofList suffix), c)
  else none

/-- Reads a directive. -/
def directive (s : Lexer) : Option Lexer := do
  let s ← s.endParts
  let (name, c) := s.cursor.skip.takeWhile isWordChar
  if name.isEmpty || !c.blankAhead 0 then none
  else
    let (t, c) ← directiveValue name c
    let c := c.skipWhile isSpace
    let c := if c.sees '#' then c.skipLine else c
    if !c.atLineEnd then none
    else return { s with cursor := c.takeBreak.1 }.push t

/-- Whether the name of an anchor may end before a character. -/
def endsName (c : Cursor) : Bool :=
  c.blankAhead 0 || c.rest.head?.any fun x => "?:,]\x7d%@\x60".toList.contains x

/-- Reads the name of an anchor or an alias. -/
def name (s : Lexer) (make : String → Token) : Option Lexer := do
  let s ← s.keepKey
  let (word, c) := s.cursor.skip.takeWhile isWordChar
  if word.isEmpty || !endsName c then none
  else return { s with cursor := c, keyAllowed := false }.push (make (String.ofList word))

/-- Reads a tag. -/
def tag (s : Lexer) : Option Lexer := do
  let s ← s.keepKey
  let (c, handle, suffix) ←
    if s.cursor.ahead 1 == some '<' then do
      let (c, suffix) ← tagText true (s.cursor.skipMany 2)
      if suffix.isEmpty || !c.sees '>' then none
      else some (c.skip, [], suffix)
    else do
      let (c, handle) ← tagHandle s.cursor
      if 1 < handle.length && handle.getLast? == some '!' then
        let (c, suffix) ← tagText false c
        if suffix.isEmpty then none else some (c, handle, suffix)
      else
        let (c, suffix) ← tagText false c
        let suffix := handle.drop 1 ++ suffix
        if suffix.isEmpty then some (c, [], ['!']) else some (c, ['!'], suffix)
  if !(c.blankAhead 0 || (s.inFlow && c.sees ',')) then none
  else
    return { s with cursor := c, keyAllowed := false }.push
      (.tag (String.ofList handle) (String.ofList suffix))

/-! ## Marks of collections -/

/-- Reads the mark that opens a flow collection. -/
def openFlow (s : Lexer) (t : Token) : Option Lexer := do
  let s ← s.keepKey
  return ({ s with keys := none :: s.keys, flowLevel := s.flowLevel + 1, keyAllowed := true
    }.advance 1).push t

/-- Reads the mark that closes a flow collection. -/
def closeFlow (s : Lexer) (t : Token) : Option Lexer := do
  let s ← s.dropKey
  let s := if s.inFlow then
      { s with keys := s.keys.tail, flowLevel := s.flowLevel - 1 }
    else s
  return ({ s with keyAllowed := false }.advance 1).push t

/-- Reads the mark between the parts of a flow collection. -/
def flowEntry (s : Lexer) : Option Lexer := do
  let s ← s.dropKey
  return ({ s with keyAllowed := true }.advance 1).push .flowEntry

/-- Reads the mark before an item of a block list. -/
def blockEntry (s : Lexer) : Option Lexer := do
  if !s.inFlow && !s.keyAllowed then none
  else
    let s := s.openBlock s.cursor.column s.count .blockSequenceStart
    let s ← s.dropKey
    return ({ s with keyAllowed := true }.advance 1).push .blockEntry

/-- Reads the mark before a key. -/
def keyMark (s : Lexer) : Option Lexer := do
  if !s.inFlow && !s.keyAllowed then none
  else
    let s := s.openBlock s.cursor.column s.count .blockMappingStart
    let s ← s.dropKey
    return ({ s with keyAllowed := !s.inFlow }.advance 1).push .key

/-- Reads the mark before a value, which makes a key of the part before it. -/
def valueMark (s : Lexer) : Option Lexer :=
  match s.keyPlace? with
  | some k =>
    let s := s.insert k.position .key
    let s := s.openBlock k.column k.position .blockMappingStart
    some ({ s.setKey none with keyAllowed := false }.advance 1 |>.push .value)
  | none =>
    if !s.inFlow && !s.keyAllowed then none
    else
      let s := s.openBlock s.cursor.column s.count .blockMappingStart
      some ({ s with keyAllowed := !s.inFlow }.advance 1 |>.push .value)

/-! ## Scalars -/

/-- Reads a block scalar. -/
def block (s : Lexer) (literal : Bool) : Option Lexer := do
  let s ← s.dropKey
  let (c, text) ← blockScalar literal s.indent s.cursor.skip
  return { s with cursor := c, keyAllowed := true }.push (.scalar .marked (String.ofList text))

/-- Reads a quoted scalar. -/
def quoted (s : Lexer) (single : Bool) : Option Lexer := do
  let s ← s.keepKey
  let c := s.cursor.skip
  let (c, text) ← quotedScalar single (c.rest.length + 1) c []
  return { s with cursor := c, keyAllowed := false }.push (.scalar .marked (String.ofList text))

/-- Reads a plain scalar. -/
def plain (s : Lexer) : Option Lexer := do
  let s ← s.keepKey
  let c := s.cursor
  let (c, text, newLine) ← plainScalar s.inFlow (s.indent + 1) (c.rest.length + 1) c {} []
  return { s with cursor := c, keyAllowed := newLine }.push (.scalar .plain (String.ofList text))

/-- Whether a plain scalar may start here. -/
def startsPlain (s : Lexer) : Bool :=
  match s.cursor.rest with
  | [] => false
  | x :: _ =>
    !(isSpace x || isBreak x || "-?:,[]\x7b\x7d#&*!|>\x27\x22%@\x60".toList.contains x) ||
      (x == '-' && !(s.cursor.ahead 1).any isSpace) ||
      (!s.inFlow && (x == '?' || x == ':') && !s.cursor.blankAhead 1)

/-- Ends the text. -/
def finish (s : Lexer) : Option Lexer := do
  let s ← (s.unindent (-1)).dropKey
  return s.push .streamEnd

/-- Reads the token that starts here. -/
def step (s : Lexer) : Option Lexer :=
  let c := s.cursor
  match c.rest with
  | [] => none
  | x :: _ =>
    if c.column == 0 && x == '%' then s.directive
    else if c.atMarker '-' then do return ((← s.endParts).advance 3).push .documentStart
    else if c.atMarker '.' then do return ((← s.endParts).advance 3).push .documentEnd
    else if x == '[' then s.openFlow .flowSequenceStart
    else if x == '\x7b' then s.openFlow .flowMappingStart
    else if x == ']' then s.closeFlow .flowSequenceEnd
    else if x == '\x7d' then s.closeFlow .flowMappingEnd
    else if x == ',' then s.flowEntry
    else if x == '-' && c.blankAhead 1 then s.blockEntry
    else if x == '?' && (s.inFlow || c.blankAhead 1) then s.keyMark
    else if x == ':' && (s.inFlow || c.blankAhead 1) then s.valueMark
    else if x == '*' then s.name .alias
    else if x == '&' then s.name .anchor
    else if x == '!' then s.tag
    else if x == '|' && !s.inFlow then s.block true
    else if x == '>' && !s.inFlow then s.block false
    else if x == '\x27' then s.quoted true
    else if x == '\x22' then s.quoted false
    else if s.startsPlain then s.plain
    else none

/-- Reads all tokens. -/
def run : Nat → Lexer → Option Lexer
  | 0, _ => none
  | fuel + 1, s => do
    let s ← (passBlanks (s.cursor.rest.length + 1) s).dropStale
    let s := s.unindent s.cursor.column
    if s.cursor.atEnd then s.finish
    else run fuel (← s.step)

end Lexer

/-- Whether a character may stand in a YAML text. -/
def isAllowed (c : Char) : Bool :=
  let n := c.toNat
  n == 0x09 || n == 0x0A || n == 0x0D || (0x20 ≤ n && n ≤ 0x7E) || n == 0x85 ||
    (0xA0 ≤ n && n ≤ 0xFFFD) || 0x10000 ≤ n

/-- The tokens of a text, if it is well formed so far. -/
def Token.ofText? (text : String) : Option (List Token) := do
  let cs := text.toList
  if !cs.all isAllowed then none
  else
    let s ← Lexer.run (cs.length + 2) { cursor := { rest := cs } }
    return s.tokens.reverse

end TypedRouter.Yaml
