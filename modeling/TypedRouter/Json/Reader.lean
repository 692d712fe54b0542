import TypedRouter.Outline.Problem
import TypedRouter.Text.Digits

/-!
# Reading JSON text

`Outline.read` reads one JSON value at the front of a text into an outline, and returns what
follows it unless the text is at fault somewhere inside.  A text that ends too early is told
apart from one that is malformed.

Three things can be passed over but not read: a number beyond the range of doubles, a text with
half of a surrogate pair, and a list or an object inside 127 others.
-/

namespace TypedRouter.Json.Reader

open Text

/-- The blanks between the parts of a JSON text. -/
def isBlank (c : Char) : Bool :=
  c == ' ' || c == '\n' || c == '\t' || c == '\r'

/-- The text without the blanks at its front. -/
def skipBlanks (cs : List Char) : List Char :=
  cs.dropWhile isBlank

/-- How many lists and objects may be open around a value that is read. -/
def maxDepth : Nat := 127

/-- A part that was read, and the text after it unless that part holds a fault. -/
abbrev Part := Outline × Option (List Char)

/-! ## Words and numbers -/

/-- Reads the rest of a word that stands for a value. -/
def word (value : Outline) : List Char → List Char → Part
  | [], cs => (value, some cs)
  | _ :: _, [] => (.broken .truncated, none)
  | w :: ws, c :: cs => if w = c then word value ws cs else (.broken .malformed, none)

/-- Whether a digit can be added to a number without leaving 64 bits. -/
def fits (n digit : Nat) : Bool :=
  decide (n * 10 + digit ≤ Number.maxInt)

/-- Adds digits to a number until one no longer fits in 64 bits.  Returns the number and how
many digits were added. -/
def addDigits : Nat → List Char → Nat × Nat
  | n, [] => (n, 0)
  | n, c :: cs =>
    let digit := c.toNat - '0'.toNat
    if fits n digit then
      let (m, k) := addDigits (n * 10 + digit) cs
      (m, k + 1)
    else (n, 0)

/-- The number with these digits before the point, digits after it and power of ten, or nothing
if it is beyond the range of doubles.  Digits that do not fit in 64 bits are counted but not
taken. -/
def numberOf (negative : Bool) (whole : List Char) (fraction : Option (List Char))
    (power : Option Int) : Option Number :=
  let (n, taken) := addDigits 0 whole
  let dropped : Int := (whole.length : Int) - taken
  match fraction, power with
  | none, none =>
    if dropped = 0 then Number.ofDigits? negative n
    else (Decimal.scaled negative ⟨n, dropped⟩).map .float
  | _, _ =>
    let (m, after) := addDigits n (fraction.getD [])
    (Decimal.scaled negative ⟨m, dropped - after + power.getD 0⟩).map .float

/-- A number, or a part that cannot be read if it is beyond the range of doubles. -/
def numberPart (negative : Bool) (whole : List Char) (fraction : Option (List Char))
    (power : Option Int) (rest : List Char) : Part :=
  match numberOf negative whole fraction power with
  | some n => (.number n, some rest)
  | none => (.unreadable .malformed .null, some rest)

/-- Reads the power of ten of a number, after its mark. -/
def exponentPart (negative : Bool) (whole : List Char) (fraction : Option (List Char))
    (cs : List Char) : Part :=
  let (down, cs) := match cs with
    | '+' :: cs => (false, cs)
    | '-' :: cs => (true, cs)
    | cs => (false, cs)
  let digits := cs.takeWhile Char.isDigit
  let rest := cs.dropWhile Char.isDigit
  if digits.isEmpty then (.broken (if cs.isEmpty then .truncated else .malformed), none)
  else
    let n : Int := digitsValue digits
    numberPart negative whole fraction (some (if down then -n else n)) rest

/-- Reads what comes after the digits before the point and after it. -/
def afterDigits (negative : Bool) (whole : List Char) (fraction : Option (List Char))
    (cs : List Char) : Part :=
  match cs with
  | 'e' :: cs => exponentPart negative whole fraction cs
  | 'E' :: cs => exponentPart negative whole fraction cs
  | cs => numberPart negative whole fraction none cs

/-- Reads what comes after the digits before the point. -/
def afterWhole (negative : Bool) (whole : List Char) (cs : List Char) : Part :=
  match cs with
  | '.' :: cs =>
    let digits := cs.takeWhile Char.isDigit
    let rest := cs.dropWhile Char.isDigit
    if digits.isEmpty then (.broken (if cs.isEmpty then .truncated else .malformed), none)
    else afterDigits negative whole (some digits) rest
  | cs => afterDigits negative whole none cs

/-- Reads a number without its sign.  A zero in front stands alone. -/
def number (negative : Bool) (cs : List Char) : Part :=
  match cs with
  | [] => (.broken .truncated, none)
  | '0' :: rest =>
    match rest with
    | [] => afterWhole negative ['0'] []
    | c :: cs =>
      if c.isDigit then (.broken .malformed, none) else afterWhole negative ['0'] (c :: cs)
  | c :: _ =>
    if c.isDigit then
      afterWhole negative (cs.takeWhile Char.isDigit) (cs.dropWhile Char.isDigit)
    else (.broken .malformed, none)

/-! ## Texts -/

/-- Whether a text has fewer than four bytes left, so that no escape of four digits fits. -/
def isShort (cs : List Char) : Bool :=
  decide ((cs.take 4).foldl (fun n c => n + c.utf8Size) 0 < 4)

/-- What a short escape stands for. -/
def shortEscape? : Char → Option Char
  | '\x22' => some '\x22'
  | '\\' => some '\\'
  | '/' => some '/'
  | 'b' => some '\x08'
  | 'f' => some '\x0c'
  | 'n' => some '\n'
  | 'r' => some '\r'
  | 't' => some '\t'
  | _ => none

/-- Whether a number is the first half of a surrogate pair. -/
def isHigh (n : Nat) : Bool := decide (0xD800 ≤ n ∧ n ≤ 0xDBFF)

/-- Whether a number is the second half of a surrogate pair. -/
def isLow (n : Nat) : Bool := decide (0xDC00 ≤ n ∧ n ≤ 0xDFFF)

/-- The character of a surrogate pair. -/
def pairChar (high low : Nat) : Char :=
  Char.ofNat (0x10000 + (high - 0xD800) * 0x400 + (low - 0xDC00))

/-- Where a reader stands inside a text. -/
inductive Place where
  /-- Between two characters. -/
  | plain
  /-- After a backslash. -/
  | escape
  /-- Before some more digits of an escape, maybe the second of a pair. -/
  | digits (high : Option Nat) (left : Nat) (value : Nat)
  /-- After the first half of a surrogate pair. -/
  | half (high : Nat)
  /-- After the first half of a surrogate pair and a backslash. -/
  | halfEscape (high : Nat)
  deriving Repr

/-- A text that has been read, first character last, as far as it can be: nothing once half of a
surrogate pair was met. -/
abbrev Taken := Option (List Char)

/-- A text that ends here because of a fault. -/
def brokenText (taken : Taken) (fault : Fault) : Part :=
  match taken with
  | some _ => (.broken fault, none)
  | none => (.unreadable .malformed (.broken fault), none)

/-- A text that ends here with its closing quote. -/
def wholeText (taken : Taken) (rest : List Char) : Part :=
  match taken with
  | some cs => (.text (String.ofList cs.reverse), some rest)
  | none => (.unreadable .malformed .null, some rest)

/-- What one character of a text leads to: a new place, or the end of the text. -/
inductive Move where
  | goOn (place : Place) (taken : Taken)
  | finish (part : Part)

/-- The move of a character that stands for itself, opens an escape or closes the text. -/
def plainMove (taken : Taken) (c : Char) (rest : List Char) : Move :=
  if c = '\x22' then .finish (wholeText taken rest)
  else if c = '\\' then .goOn .escape taken
  else if c.toNat < 0x20 then .finish (brokenText taken .malformed)
  else .goOn .plain (taken.map (c :: ·))

/-- The move into the digits of an escape. -/
def digitsMove (high : Option Nat) (taken : Taken) (rest : List Char) : Move :=
  if isShort rest then .finish (brokenText taken .truncated) else .goOn (.digits high 4 0) taken

/-- The move of the character after a backslash. -/
def escapeMove (taken : Taken) (c : Char) (rest : List Char) : Move :=
  if c = 'u' then digitsMove none taken rest
  else
    match shortEscape? c with
    | some e => .goOn .plain (taken.map (e :: ·))
    | none => .finish (brokenText taken .malformed)

/-- The move after the last digit of an escape with this value. -/
def escapedMove (high : Option Nat) (taken : Taken) (n : Nat) : Move :=
  match high with
  | some h => .goOn .plain (if isLow n then taken.map (pairChar h n :: ·) else none)
  | none =>
    if isHigh n then .goOn (.half n) taken
    else if isLow n then .goOn .plain none
    else .goOn .plain (taken.map (Char.ofNat n :: ·))

/-- The move of a character at a place. -/
def move (place : Place) (taken : Taken) (c : Char) (rest : List Char) : Move :=
  match place with
  | .plain => plainMove taken c rest
  | .escape => escapeMove taken c rest
  | .digits high left n =>
    match hexValue? c with
    | none => .finish (brokenText taken .malformed)
    | some d =>
      if left ≤ 1 then escapedMove high taken (n * 16 + d)
      else .goOn (.digits high (left - 1) (n * 16 + d)) taken
  | .half high => if c = '\\' then .goOn (.halfEscape high) taken else plainMove none c rest
  | .halfEscape high =>
    if c = 'u' then digitsMove (some high) taken rest else escapeMove none c rest

/-- Reads a text after its opening quote. -/
def text (place : Place) (taken : Taken) : List Char → Part
  | [] => brokenText taken .truncated
  | c :: rest =>
    match move place taken c rest with
    | .goOn place taken => text place taken rest
    | .finish part => part

/-! ## Values -/

/-- A list or an object, which cannot be read inside too many others. -/
def guarded (depth : Nat) (part : Part) : Part :=
  if depth < maxDepth then part else (.unreadable .malformed part.1, part.2)

mutual

/-- Reads a value with `depth` lists and objects open around it. -/
def value : Nat → Nat → List Char → Part
  | 0, _, _ => (.broken .malformed, none)
  | fuel + 1, depth, cs =>
    match skipBlanks cs with
    | [] => (.broken .truncated, none)
    | 'n' :: cs => word .null ['u', 'l', 'l'] cs
    | 't' :: cs => word (.bool true) ['r', 'u', 'e'] cs
    | 'f' :: cs => word (.bool false) ['a', 'l', 's', 'e'] cs
    | '\x22' :: cs => text .plain (some []) cs
    | '-' :: cs => number true cs
    | '[' :: cs =>
      guarded depth <|
        match skipBlanks cs with
        | [] => (.list [] (some .truncated), none)
        | ']' :: cs => (.list [] none, some cs)
        | cs =>
          let (items, stop, rest) := items fuel (depth + 1) cs
          (.list items stop, rest)
    | '\x7b' :: cs =>
      guarded depth <|
        match skipBlanks cs with
        | [] => (.object [] (some .truncated), none)
        | '\x7d' :: cs => (.object [] none, some cs)
        | cs =>
          let (members, stop, rest) := members fuel (depth + 1) cs
          (.object members stop, rest)
    | c :: cs => if c.isDigit then number false (c :: cs) else (.broken .malformed, none)
termination_by structural fuel => fuel

/-- Reads the items of a list up to its closing bracket. -/
def items : Nat → Nat → List Char → List Outline × Option Fault × Option (List Char)
  | 0, _, _ => ([], some .malformed, none)
  | fuel + 1, depth, cs =>
    match value fuel depth cs with
    | (v, none) => ([v], none, none)
    | (v, some rest) =>
      match skipBlanks rest with
      | [] => ([v], some .truncated, none)
      | ']' :: rest => ([v], none, some rest)
      | ',' :: rest =>
        let (vs, stop, rest) := items fuel depth rest
        (v :: vs, stop, rest)
      | _ => ([v], some .malformed, none)
termination_by structural fuel => fuel

/-- Reads the members of an object up to its closing brace. -/
def members : Nat → Nat → List Char →
    List (Outline × Outline) × Option Fault × Option (List Char)
  | 0, _, _ => ([], some .malformed, none)
  | fuel + 1, depth, cs =>
    match skipBlanks cs with
    | [] => ([], some .truncated, none)
    | '\x22' :: cs =>
      match text .plain (some []) cs with
      | (k, none) => ([(k, .null)], none, none)
      | (k, some rest) =>
        match skipBlanks rest with
        | [] => ([(k, .broken .truncated)], none, none)
        | ':' :: rest =>
          match value fuel depth rest with
          | (v, none) => ([(k, v)], none, none)
          | (v, some rest) =>
            match skipBlanks rest with
            | [] => ([(k, v)], some .truncated, none)
            | '\x7d' :: rest => ([(k, v)], none, some rest)
            | ',' :: rest =>
              let (ms, stop, rest) := members fuel depth rest
              ((k, v) :: ms, stop, rest)
            | _ => ([(k, v)], some .malformed, none)
        | _ => ([(k, .broken .malformed)], none, none)
    | _ => ([], some .malformed, none)
termination_by structural fuel => fuel

end

end TypedRouter.Json.Reader

namespace TypedRouter.Outline

/-- Reads one JSON value at the front of a text.  What follows it is returned unless the text
is at fault inside the value. -/
def read (cs : List Char) : Outline × Option (List Char) :=
  Json.Reader.value (2 * cs.length + 2) 0 cs

end TypedRouter.Outline
