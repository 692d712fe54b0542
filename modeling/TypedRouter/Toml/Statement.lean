import TypedRouter.Toml.Token

/-!
# Statements of a TOML text

A TOML text is a list of lines, each with a key and a value, or with the header of a table.  The
texts in them are left as they are written.

Each part of a text is read with the tokens that follow it.  Reading stops at the first token
that cannot stand where it does, and reports its place, or the place inside a line break or a
comment where that goes wrong if it comes before.
-/

namespace TypedRouter.Toml

/-- A value as it is written, with its place. -/
inductive Written where
  | scalar (start : Nat) (style : Style) (chars : List Char)
  | array (start : Nat) (items : List Written)
  | table (start : Nat) (entries : List (List Token × Written))
  deriving Repr, Inhabited

/-- Where a value starts. -/
def Written.start : Written → Nat
  | .scalar start _ _ => start
  | .array start _ => start
  | .table start _ => start

/-- A line that says something. -/
inductive Statement where
  | entry (key : List Token) (value : Written)
  | header (start : Nat) (isArray : Bool) (key : List Token)
  deriving Repr, Inhabited

namespace Statement

/-- The tokens after the blanks. -/
def skipBlanks (ts : List Token) : List Token :=
  ts.dropWhile (·.kind = .blank)

/-- The tokens after blanks, comments and line breaks. -/
def skipLines (ts : List Token) : List Token :=
  ts.dropWhile fun t => t.kind = .blank || t.kind = .comment || t.kind = .newline

/-- The place of the next token, or of the end of the text. -/
def place (finish : Nat) : List Token → Nat
  | [] => finish
  | t :: _ => t.start

/-- Takes a token of one kind. -/
def expect (finish : Nat) (kind : Kind) : List Token → Except Nat (Unit × List Token)
  | t :: rest => if t.kind = kind then .ok ((), rest) else .error t.start
  | [] => .error finish

/-- Takes a text. -/
def expectText (finish : Nat) : List Token → Except Nat (Token × List Token)
  | ⟨.text style, start, chars⟩ :: rest => .ok (⟨.text style, start, chars⟩, rest)
  | ts => .error (place finish ts)

/-- Takes a key: texts with points between them. -/
def key (finish : Nat) : Nat → List Token → Except Nat (List Token × List Token)
  | 0, ts => .error (place finish ts)
  | steps + 1, ts => do
    let (t, rest) ← expectText finish ts
    match skipBlanks rest with
    | ⟨.dot, _, _⟩ :: rest =>
      let (more, rest) ← key finish steps (skipBlanks rest)
      return (t :: more, rest)
    | _ => return ([t], rest)

/-- Whether a token goes on with a bare value: a number may have a point inside. -/
def goesOn (t : Token) : Bool :=
  t.kind = .dot || t.kind = .text .bare

/-- Takes a value that is no list and no table.  A value that is missing is an empty bare text. -/
def scalar (finish : Nat) : List Token → Written × List Token
  | ⟨.text style, start, chars⟩ :: rest =>
    if style = .bare then
      (.scalar start .bare (chars ++ (rest.takeWhile goesOn).flatMap Token.chars),
        rest.dropWhile goesOn)
    else (.scalar start style chars, rest)
  | ⟨.dot, start, chars⟩ :: rest =>
    (.scalar start .bare (chars ++ (rest.takeWhile goesOn).flatMap Token.chars),
      rest.dropWhile goesOn)
  | ts => (.scalar (place finish ts) .bare [], ts)

mutual

/-- Takes a value. -/
def value (finish : Nat) : Nat → List Token → Except Nat (Written × List Token)
  | 0, ts => .error (place finish ts)
  | steps + 1, ts =>
    match ts with
    | ⟨.openSquare, start, _⟩ :: rest => do
      let (items, rest) ← items finish steps (skipLines rest)
      return (.array start items, rest)
    | ⟨.openCurly, start, _⟩ :: rest => do
      let (entries, rest) ← entries finish steps (skipBlanks rest)
      return (.table start entries, rest)
    | ts => .ok (scalar finish ts)

/-- Takes the items of a list and its closing bracket. -/
def items (finish : Nat) : Nat → List Token → Except Nat (List Written × List Token)
  | 0, ts => .error (place finish ts)
  | steps + 1, ts =>
    match ts with
    | ⟨.closeSquare, _, _⟩ :: rest => .ok ([], rest)
    | [] => .error finish
    | ts => do
      let (v, rest) ← value finish steps ts
      match skipLines rest with
      | ⟨.comma, _, _⟩ :: rest =>
        let (vs, rest) ← items finish steps (skipLines rest)
        return (v :: vs, rest)
      | ⟨.closeSquare, _, _⟩ :: rest => return ([v], rest)
      | rest => throw (place finish rest)

/-- Takes the entries of a table on one line and its closing brace. -/
def entries (finish : Nat) :
    Nat → List Token → Except Nat (List (List Token × Written) × List Token)
  | 0, ts => .error (place finish ts)
  | steps + 1, ts =>
    match ts with
    | ⟨.closeCurly, _, _⟩ :: rest => .ok ([], rest)
    | ts => do
      let (k, rest) ← key finish steps ts
      let (_, rest) ← expect finish .equals (skipBlanks rest)
      let (v, rest) ← value finish steps (skipBlanks rest)
      match skipBlanks rest with
      | ⟨.comma, _, _⟩ :: rest =>
        let (es, rest) ← entries finish steps (skipBlanks rest)
        return ((k, v) :: es, rest)
      | ⟨.closeCurly, _, _⟩ :: rest => return ([(k, v)], rest)
      | rest => throw (place finish rest)

end

/-- Takes the rest of a line, which may be a comment. -/
def lineEnd (finish : Nat) (ts : List Token) : Except Nat (Unit × List Token) :=
  match skipBlanks ts with
  | [] => .ok ((), [])
  | ⟨.newline, _, _⟩ :: rest => .ok ((), rest)
  | ⟨.comment, _, _⟩ :: rest =>
    match rest with
    | [] => .ok ((), [])
    | ts => expect finish .newline ts
  | ts => .error (place finish ts)

/-- Takes the header of a table after its first bracket. -/
def readHeader (finish start : Nat) (ts : List Token) : Except Nat (Statement × List Token) := do
  let (isArray, ts) := match ts with
    | ⟨.openSquare, _, _⟩ :: rest => (true, rest)
    | ts => (false, ts)
  let (k, rest) ← key finish ts.length (skipBlanks ts)
  let (_, rest) ← expect finish .closeSquare (skipBlanks rest)
  let (_, rest) ← if isArray then expect finish .closeSquare rest else .ok ((), rest)
  return (.header start isArray k, rest)

/-- Takes a key with its value. -/
def readEntry (finish : Nat) (ts : List Token) : Except Nat (Statement × List Token) := do
  let (k, rest) ← key finish ts.length ts
  let (_, rest) ← expect finish .equals (skipBlanks rest)
  let (v, rest) ← value finish (2 * rest.length + 2) (skipBlanks rest)
  return (.entry k v, rest)

/-- The statements of some tokens. -/
def readAll (finish : Nat) : Nat → List Token → Except Nat (List Statement)
  | 0, _ => .ok []
  | steps + 1, ts =>
    match skipLines ts with
    | [] => .ok []
    | ⟨.openSquare, start, _⟩ :: rest => do
      let (s, rest) ← readHeader finish start rest
      let (_, rest) ← lineEnd finish rest
      return s :: (← readAll finish steps rest)
    | ts => do
      let (s, rest) ← readEntry finish ts
      let (_, rest) ← lineEnd finish rest
      return s :: (← readAll finish steps rest)

/-- The statements of a text, or the first place where it goes wrong. -/
def ofChars (cs : List Char) : Except Nat (List Statement) :=
  let ts := Token.ofChars cs
  match readAll cs.length (ts.length + 1) ts, ts.findSome? Token.fault? with
  | .ok statements, none => .ok statements
  | .ok _, some fault => .error fault
  | .error place, none => .error place
  | .error place, some fault => .error (min place fault)

end Statement

end TypedRouter.Toml
