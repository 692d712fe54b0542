import TypedRouter.Text.CodePoints
import TypedRouter.Text.Digits
import TypedRouter.Toml.Statement

/-!
# Values of a TOML text

What texts and numbers stand for.  Between double quotes a backslash leads an escape, and at the
end of a line in a long text it takes the blanks that follow with it.  A line break that opens a
long text does not belong to it.  A bare text is a truth value, a number or a moment, or else it
is not a value.

A value that is at fault is reported by its place, or by the place inside it where it goes
wrong.
-/

namespace TypedRouter.Toml

open Text

/-- A value. -/
inductive Value where
  | string (text : String)
  | integer (n : Int)
  /-- A number with a fraction or a power of ten, or one that is not finite. -/
  | float (chars : List Char)
  | boolean (value : Bool)
  /-- A date, a time, or both. -/
  | moment (chars : List Char)
  | array (items : List Value)
  | table (entries : List (List String × Value))
  deriving Repr, Inhabited

namespace Value

/-! ## Texts -/

/-- The place of the fault at a character that stands for itself in a text, if it may not.  Long
texts have line breaks, in which a line feed follows the carriage return. -/
def faultAt? (long : Bool) (place : Nat) (c : Char) (rest : List Char) : Option Nat :=
  if long && c == '\x0d' then
    if rest.head? = some '\n' then none else some (place + 1)
  else if long && c == '\n' then none
  else if Token.isControl c then some place
  else none

/-- The place of the first fault of a text without escapes. -/
def firstFault? (long : Bool) (place : Nat) : List Char → Option Nat
  | [] => none
  | c :: rest => (faultAt? long place c rest).or (firstFault? long (place + 1) rest)

/-- The character that an escape of one letter stands for. -/
def escape? : Char → Option Char
  | 'b' => some '\x08'
  | 't' => some '\t'
  | 'n' => some '\n'
  | 'f' => some '\x0c'
  | 'r' => some '\x0d'
  | '\x22' => some '\x22'
  | '\\' => some '\\'
  | _ => none

/-- How many digits an escape by number has. -/
def escapeDigits? : Char → Option Nat
  | 'u' => some 4
  | 'U' => some 8
  | _ => none

/-- Whether a text starts with blanks and a line break. -/
def startsWithBreak (cs : List Char) : Bool :=
  match cs.dropWhile Token.isBlank with
  | '\n' :: _ => true
  | '\x0d' :: '\n' :: _ => true
  | _ => false

/-- Whether a character is a blank or part of a line break. -/
def isGap (c : Char) : Bool :=
  Token.isBlank c || c == '\n' || c == '\x0d'

/-- The characters that a text with escapes stands for.  The steps are at least as many as the
text has characters. -/
def unescape (long : Bool) : Nat → Nat → List Char → Except Nat (List Char)
  | 0, _, _ => .ok []
  | _ + 1, _, [] => .ok []
  | steps + 1, start, '\\' :: rest =>
    match rest with
    | [] => .error (start + 1)
    | c :: after =>
      match escape? c, escapeDigits? c with
      | some x, _ => return x :: (← unescape long steps (start + 2) after)
      | none, some n =>
        match (digits? 16 (after.take n)).bind charOfCode? with
        | some x =>
          if (after.take n).length = n then
            return x :: (← unescape long steps (start + 2 + n) (after.drop n))
          else .error (start + 2)
        | none => .error (start + 2)
      | none, none =>
        if long && startsWithBreak rest then
          unescape long steps (start + 1 + (rest.takeWhile isGap).length) (rest.dropWhile isGap)
        else .error (start + 1)
  | steps + 1, start, c :: rest =>
    match faultAt? long start c rest with
    | some place => .error place
    | none => return c :: (← unescape long steps (start + 1) rest)

/-- A text without the line break that opens it, and how many characters that takes. -/
def dropFirstBreak : List Char → List Char × Nat
  | '\n' :: rest => (rest, 1)
  | '\x0d' :: '\n' :: rest => (rest, 2)
  | cs => (cs, 0)

/-- The text inside quotes, of which there are as many at each end, with its place. -/
def inside? (quote : Char) (count start : Nat) (cs : List Char) :
    Except Nat (List Char × Nat) :=
  let closing := cs.drop (cs.length - count)
  if 2 * count ≤ cs.length ∧ closing.all (· = quote) then
    .ok ((cs.drop count).take (cs.length - 2 * count), start + count)
  else .error (start + cs.length)

/-- A text without escapes, or the place where it goes wrong. -/
def plainText (long : Bool) (start : Nat) (cs : List Char) : Except Nat (List Char) :=
  match firstFault? long start cs with
  | some place => .error place
  | none => .ok cs

/-- The text that a quoted text stands for. -/
def quoted (style : Style) (start : Nat) (cs : List Char) : Except Nat (List Char) :=
  match style with
  | .bare => .ok cs
  | .literal => do
    let (cs, start) ← inside? '\x27' 1 start cs
    plainText false start cs
  | .basic => do
    let (cs, start) ← inside? '\x22' 1 start cs
    unescape false cs.length start cs
  | .longLiteral => do
    let (cs, start) ← inside? '\x27' 3 start cs
    let (cs, skipped) := dropFirstBreak cs
    plainText true (start + skipped) cs
  | .longBasic => do
    let (cs, start) ← inside? '\x22' 3 start cs
    let (cs, skipped) := dropFirstBreak cs
    unescape true cs.length (start + skipped) cs

/-! ## Numbers -/

/-- The digits of a number, if underscores stand between digits only. -/
def ungrouped? : List Char → Option (List Char)
  | [] => some []
  | '_' :: _ => none
  | c :: '_' :: d :: rest => if d = '_' then none else (ungrouped? (d :: rest)).map (c :: ·)
  | c :: rest => (ungrouped? rest).map (c :: ·)

/-- The number that some digits denote; there is no zero before other digits in base ten. -/
def natural? (cs : List Char) : Option Nat := do
  match cs with
  | '0' :: 'x' :: rest => digits? 16 (← ungrouped? rest)
  | '0' :: 'o' :: rest => digits? 8 (← ungrouped? rest)
  | '0' :: 'b' :: rest => digits? 2 (← ungrouped? rest)
  | '0' :: _ :: _ => none
  | cs => digits? 10 (← ungrouped? cs)

/-- The integer that a bare text denotes.  A sign goes with base ten only. -/
def integer? (cs : List Char) : Option Int :=
  let decimal (cs : List Char) : Option Nat :=
    if cs.all fun c => c.isDigit || c == '_' then natural? cs else none
  match cs with
  | '+' :: rest => (decimal rest).map fun n => (n : Int)
  | '-' :: rest => (decimal rest).map fun n => -(n : Int)
  | cs => (natural? cs).map fun n => (n : Int)

/-- Whether some digits, perhaps with underscores, are the decimals or the power of a number. -/
def areDigits (cs : List Char) : Bool :=
  ((ungrouped? cs).bind (digits? 10)).isSome

/-- A text without the sign at its front. -/
def dropSign : List Char → List Char
  | '+' :: rest => rest
  | '-' :: rest => rest
  | cs => cs

/-- Whether a bare text is a number with a fraction or a power of ten, or is not finite. -/
def isFloat (cs : List Char) : Bool :=
  let cs := dropSign cs
  let isMark (c : Char) : Bool := c == 'e' || c == 'E'
  let mantissa := cs.takeWhile fun c => !isMark c
  let power := cs.drop mantissa.length
  let whole := mantissa.takeWhile (· != '.')
  let fraction := mantissa.drop whole.length
  cs == "inf".toList || cs == "nan".toList ||
    ((natural? whole).isSome && whole.all (fun c => c.isDigit || c == '_') &&
      (fraction.isEmpty || areDigits (fraction.drop 1)) &&
      (power.isEmpty || areDigits (dropSign (power.drop 1))) &&
      !(fraction.isEmpty && power.isEmpty))

/-- Whether a bare text starts like a date or a time. -/
def isMoment (cs : List Char) : Bool :=
  let lead := cs.takeWhile Char.isDigit
  let next := (cs.drop lead.length).head?
  (lead.length == 4 && next == some '-') || (lead.length == 2 && next == some ':')

/-- The value of a bare text. -/
def ofBare? (cs : List Char) : Option Value :=
  if cs == "true".toList then some (.boolean true)
  else if cs == "false".toList then some (.boolean false)
  else
    match integer? cs with
    | some n => some (.integer n)
    | none =>
      if isFloat cs then some (.float cs)
      else if isMoment cs then some (.moment cs)
      else none

/-! ## Keys and values -/

/-- Whether a bare key may hold a character. -/
def isKeyChar (c : Char) : Bool :=
  c.isAlphanum || c == '-' || c == '_'

/-- The name that a text in a key stands for. -/
def keyName (t : Token) : Except Nat String :=
  match t.kind with
  | .text .bare =>
    match t.chars.findIdx? fun c => !isKeyChar c with
    | some i => .error (t.start + i)
    | none => .ok (String.ofList t.chars)
  | .text .longLiteral => .error t.start
  | .text .longBasic => .error t.start
  | .text style => (quoted style t.start t.chars).map String.ofList
  | _ => .error t.start

mutual

/-- The value that is written. -/
def ofWritten : Written → Except Nat Value
  | .scalar start .bare cs =>
    match ofBare? cs with
    | some v => .ok v
    | none => .error start
  | .scalar start style cs => (quoted style start cs).map fun cs => .string (String.ofList cs)
  | .array _ items => do return .array (← ofItems items)
  | .table _ entries => do return .table (← ofEntries entries)
termination_by structural w => w

/-- The items of a list. -/
def ofItems : List Written → Except Nat (List Value)
  | [] => .ok []
  | w :: rest => do
    let v ← ofWritten w
    return v :: (← ofItems rest)
termination_by structural ws => ws

/-- The entries of a table on one line. -/
def ofEntries : List (List Token × Written) → Except Nat (List (List String × Value))
  | [] => .ok []
  | (key, w) :: rest => do
    let names ← key.mapM keyName
    let v ← ofWritten w
    return (names, v) :: (← ofEntries rest)
termination_by structural es => es

end

end Value

end TypedRouter.Toml
