import TypedRouter.Text.CodePoints
import TypedRouter.Text.Digits
import TypedRouter.Yaml.Token

/-!
# Scalars in a YAML text

The three ways a scalar is written.  In plain and quoted scalars a line break with the blanks
around it stands for a space, and further breaks stand for themselves.  Block scalars keep their
lines, or fold them in the same way where neither line starts with a blank.

A result of `none` means that the text is not well formed.
-/

namespace TypedRouter.Yaml

open Text

/-- What has been passed since the last character that was taken: blanks on the same line, or a
first break and the breaks after it. -/
structure Gap where
  blanks : List Char := []
  firstBreak : List Char := []
  moreBreaks : List Char := []
  onNewLine : Bool := false
  deriving Repr, Inhabited

namespace Gap

/-- What a gap stands for.  A first line feed becomes a space unless more breaks follow. -/
def text (g : Gap) : List Char :=
  if g.onNewLine then
    match g.firstBreak with
    | '\n' :: _ => if g.moreBreaks.isEmpty then [' '] else g.moreBreaks
    | first => first ++ g.moreBreaks
  else g.blanks

/-- The gap with one more break. -/
def addBreak (g : Gap) (text : List Char) : Gap :=
  if g.onNewLine then { g with moreBreaks := g.moreBreaks ++ text }
  else { g with blanks := [], firstBreak := text, onNewLine := true }

/-- The gap with one more blank; blanks at the start of a line do not count. -/
def addBlank (g : Gap) (c : Char) : Gap :=
  if g.onNewLine then g else { g with blanks := g.blanks ++ [c] }

end Gap

/-! ## Plain scalars -/

/-- Whether a character is one of those that structure flow collections. -/
def isFlowIndicator (c : Char) : Bool :=
  c == ',' || c == '[' || c == ']' || c == '\x7b' || c == '\x7d'

/-- Passes over the blanks and breaks after a word of a plain scalar.  A tab may not stand in
the indentation. -/
def plainGap (indent : Int) : Nat → Cursor → Gap → Option (Cursor × Gap)
  | 0, c, g => some (c, g)
  | fuel + 1, c, g =>
    match c.rest with
    | [] => some (c, g)
    | x :: _ =>
      if isSpace x then
        if g.onNewLine && decide ((c.column : Int) < indent) && x == '\t' then none
        else plainGap indent fuel c.skip (g.addBlank x)
      else if isBreak x then
        let (c, text) := c.takeBreak
        plainGap indent fuel c (g.addBreak text)
      else some (c, g)

/-- Takes the characters of a word of a plain scalar, last one first.  Inside flow collections
the word ends at their indicators, and a colon may not stand before one. -/
def plainWord (flow : Bool) : Nat → Cursor → List Char → Option (Cursor × List Char)
  | 0, c, taken => some (c, taken)
  | fuel + 1, c, taken =>
    match c.rest with
    | [] => some (c, taken)
    | x :: _ =>
      if isSpace x || isBreak x then some (c, taken)
      else if flow && x == ':' && (c.ahead 1).any fun y => isFlowIndicator y || y == '?' then none
      else if x == ':' && c.blankAhead 1 then some (c, taken)
      else if flow && isFlowIndicator x then some (c, taken)
      else plainWord flow fuel c.skip (x :: taken)

/-- Takes the words of a plain scalar.  Returns the cursor after the blanks that follow, the
text, and whether those blanks hold a break. -/
def plainScalar (flow : Bool) (indent : Int) : Nat → Cursor → Gap → List Char →
    Option (Cursor × List Char × Bool)
  | 0, c, g, taken => some (c, taken.reverse, g.onNewLine)
  | fuel + 1, c, g, taken => do
    if c.atDocumentMarker || c.sees '#' then return (c, taken.reverse, g.onNewLine)
    let (after, word) ← plainWord flow c.rest.length c []
    let (taken, g) := if word.isEmpty then (taken, g) else (word ++ g.text.reverse ++ taken, {})
    if !(after.atSpace || after.atBreak) then return (after, taken.reverse, g.onNewLine)
    let (next, g) ← plainGap indent (after.rest.length + 1) after g
    if !flow && decide ((next.column : Int) < indent) then
      return (next, taken.reverse, g.onNewLine)
    plainScalar flow indent fuel next g taken

/-! ## Quoted scalars -/

/-- What an escape of one character stands for. -/
def escapeChar? : Char → Option Char
  | '0' => some '\x00'
  | 'a' => some '\x07'
  | 'b' => some '\x08'
  | 't' => some '\t'
  | '\t' => some '\t'
  | 'n' => some '\n'
  | 'v' => some '\x0b'
  | 'f' => some '\x0c'
  | 'r' => some '\r'
  | 'e' => some '\x1b'
  | ' ' => some ' '
  | '\x22' => some '\x22'
  | '/' => some '/'
  | '\\' => some '\\'
  | 'N' => some '\x85'
  | '_' => some '\xa0'
  | 'L' => some '\u2028'
  | 'P' => some '\u2029'
  | _ => none

/-- How many hexadecimal digits an escape has. -/
def escapeDigits? : Char → Option Nat
  | 'x' => some 2
  | 'u' => some 4
  | 'U' => some 8
  | _ => none

/-- Takes an escape other than an escaped break. -/
def takeEscape (c : Cursor) : Option (Cursor × Char) := do
  let x ← c.ahead 1
  match escapeChar? x with
  | some e => return (c.skipMany 2, e)
  | none =>
    let n ← escapeDigits? x
    let digits := (c.rest.drop 2).take n
    if digits.length < n then none
    else return (c.skipMany (2 + n), ← charOfCode? (← digits? 16 digits))

/-- Takes the characters of a quoted scalar up to a blank, a break or the closing quote, last
one first.  The flag says that they end with an escaped break. -/
def quotedWord (single : Bool) : Nat → Cursor → List Char →
    Option (Cursor × List Char × Bool)
  | 0, c, taken => some (c, taken, false)
  | fuel + 1, c, taken =>
    match c.rest with
    | [] => some (c, taken, false)
    | x :: rest =>
      if isSpace x || isBreak x then some (c, taken, false)
      else if single then
        if x == '\x27' then
          if rest.head? == some '\x27' then quotedWord single fuel (c.skipMany 2) ('\x27' :: taken)
          else some (c, taken, false)
        else quotedWord single fuel c.skip (x :: taken)
      else if x == '\x22' then some (c, taken, false)
      else if x == '\\' then
        if rest.head?.any isBreak then some (c.skip.takeBreak.1, taken, true)
        else do
          let (c, e) ← takeEscape c
          quotedWord single fuel c (e :: taken)
      else quotedWord single fuel c.skip (x :: taken)

/-- Passes over the blanks and breaks inside a quoted scalar. -/
def quotedGap : Nat → Cursor → Gap → Cursor × Gap
  | 0, c, g => (c, g)
  | fuel + 1, c, g =>
    match c.rest with
    | [] => (c, g)
    | x :: _ =>
      if isSpace x then quotedGap fuel c.skip (g.addBlank x)
      else if isBreak x then
        let (c, text) := c.takeBreak
        quotedGap fuel c (g.addBreak text)
      else (c, g)

/-- Takes a quoted scalar after its opening quote, and passes over the closing one. -/
def quotedScalar (single : Bool) : Nat → Cursor → List Char → Option (Cursor × List Char)
  | 0, _, _ => none
  | fuel + 1, c, taken => do
    if c.atDocumentMarker || c.atEnd then none
    else
      let (c, taken, escapedBreak) ← quotedWord single c.rest.length c taken
      if c.sees (if single then '\x27' else '\x22') then return (c.skip, taken.reverse)
      else
        let (c, g) := quotedGap (c.rest.length + 1) c { onNewLine := escapedBreak }
        quotedScalar single fuel c (g.text.reverse ++ taken)

/-! ## Block scalars -/

/-- What happens to the breaks at the end of a block scalar. -/
inductive Chomp where
  | strip
  | clip
  | keep
  deriving DecidableEq, Repr

/-- Takes the indentation and the empty lines before a line of a block scalar.  Without a known
indentation, every space at the front counts.  Returns the breaks and the widest
indentation. -/
def blockBreaks (indent : Option Nat) : Nat → Cursor → List Char → Nat →
    Option (Cursor × List Char × Nat)
  | 0, c, breaks, widest => some (c, breaks, widest)
  | fuel + 1, c, breaks, widest =>
    let inIndent (c : Cursor) : Bool := indent.all fun n => decide (c.column < n)
    let spaces := (c.rest.takeWhile (· == ' ')).length
    let c := c.skipMany <| match indent with
      | none => spaces
      | some n => min spaces (n - c.column)
    let widest := max widest c.column
    if inIndent c && c.sees '\t' then none
    else if c.atBreak then
      let (c, text) := c.takeBreak
      blockBreaks indent fuel c (breaks ++ text) widest
    else some (c, breaks, widest)

/-- Takes the lines of a block scalar, last character first.  `pending` is the break after the
last line and `breaks` are the empty lines after it; `blank` says that the last line started
with a blank. -/
def blockLines (literal : Bool) (indent : Nat) : Nat → Cursor → List Char → List Char →
    List Char → Bool → Option (Cursor × List Char × List Char × List Char)
  | 0, c, taken, pending, breaks, _ => some (c, taken, pending, breaks)
  | fuel + 1, c, taken, pending, breaks, blank =>
    if c.column == indent && !c.atEnd then
      let startsBlank := c.atSpace
      let joined :=
        if !literal && pending == ['\n'] && !blank && !startsBlank then
          if breaks.isEmpty then [' '] else breaks
        else pending ++ breaks
      let (line, c) := c.takeWhile fun x => !isBreak x
      let (c, pending) := c.takeBreak
      let taken := line.reverse ++ joined.reverse ++ taken
      match blockBreaks (some indent) (c.rest.length + 1) c [] 0 with
      | none => none
      | some (c, breaks, _) => blockLines literal indent fuel c taken pending breaks startsBlank
    else some (c, taken, pending, breaks)

/-- Reads a digit that gives the indentation of a block scalar, if one is next; it may not be
zero. -/
def blockIncrement (c : Cursor) : Option (Cursor × Option Nat) :=
  match c.rest with
  | x :: _ =>
    if x == '0' then none
    else if x.isDigit then some (c.skip, some (x.toNat - '0'.toNat))
    else some (c, none)
  | [] => some (c, none)

/-- Reads the sign that says what happens to the breaks at the end, if one is next. -/
def blockChomp (c : Cursor) : Cursor × Option Chomp :=
  if c.sees '+' then (c.skip, some .keep)
  else if c.sees '-' then (c.skip, some .strip)
  else (c, none)

/-- Takes a block scalar after its indicator, inside a collection with this indentation. -/
def blockScalar (literal : Bool) (parent : Int) (c : Cursor) : Option (Cursor × List Char) := do
  let (c, chomp) := blockChomp c
  let (c, increment) ← blockIncrement c
  let (c, chomp) := match chomp, increment with
    | none, some _ => blockChomp c
    | chomp, _ => (c, chomp)
  let chomp := chomp.getD .clip
  let c := c.skipWhile isSpace
  let c := if c.sees '#' then c.skipLine else c
  if !c.atLineEnd then none
  else
    let c := c.takeBreak.1
    let known : Option Nat := increment.map fun n =>
      if 0 ≤ parent then parent.toNat + n else n
    let (c, breaks, widest) ← blockBreaks known (c.rest.length + 1) c [] 0
    let indent : Nat := known.getD (max (max widest (parent + 1).toNat) 1)
    let (c, taken, pending, breaks) ←
      blockLines literal indent (c.rest.length + 1) c [] [] breaks false
    let tail := match chomp with
      | .strip => []
      | .clip => pending
      | .keep => pending ++ breaks
    return (c, taken.reverse ++ tail)

end TypedRouter.Yaml
