/-!
# Single-quoted literals

A quoted literal stands between two single quotes.  Inside, a backslash leads each quote and
each backslash of the value, and every other character stands for itself, line breaks
included.  `decode` reads what `encode` writes.
-/

namespace TypedRouter.Text.Quoted

/-- The quotation mark. -/
def mark : Char := '\x27'

/-- The body of a literal: the value with a backslash before each quote and each backslash. -/
def escape : List Char → List Char
  | [] => []
  | c :: rest =>
    if c = '\\' ∨ c = mark then '\\' :: c :: escape rest else c :: escape rest

/-- The literal that stands for a value. -/
def encode (cs : List Char) : List Char :=
  mark :: (escape cs ++ [mark])

/-- Reads the body of a literal up to its closing quote, and returns the value with what
follows the quote. -/
def unescape : List Char → Option (List Char × List Char)
  | [] => none
  | '\\' :: [] => none
  | '\\' :: c :: rest => (unescape rest).map fun (value, after) => (c :: value, after)
  | c :: rest =>
    if c = mark then some ([], rest)
    else (unescape rest).map fun (value, after) => (c :: value, after)

/-- Reads a literal at the front of a text. -/
def decode : List Char → Option (List Char × List Char)
  | [] => none
  | c :: rest => if c = mark then unescape rest else none

/-- Nothing is escaped in an empty text. -/
@[simp] theorem escape_nil : escape [] = [] := rfl

/-- A quote or a backslash is escaped. -/
@[simp] theorem escape_cons_of_special {c : Char} (h : c = '\\' ∨ c = mark) (cs : List Char) :
    escape (c :: cs) = '\\' :: c :: escape cs := if_pos h

/-- Every other character stands for itself. -/
@[simp] theorem escape_cons_of_plain {c : Char} (h : ¬ (c = '\\' ∨ c = mark)) (cs : List Char) :
    escape (c :: cs) = c :: escape cs := if_neg h

/-- Reading the body of a literal undoes escaping. -/
@[simp] theorem unescape_escape (cs rest : List Char) :
    unescape (escape cs ++ mark :: rest) = some (cs, rest) := by
  induction cs with
  | nil => rfl
  | cons c cs ih =>
    by_cases h : c = '\\' ∨ c = mark
    · simp [h, unescape, ih]
    · obtain ⟨hbackslash, hmark⟩ := not_or.mp h
      simp [hbackslash, hmark, unescape, ih]

/-- Reading undoes writing, whatever follows the literal. -/
@[simp] theorem decode_encode (cs rest : List Char) :
    decode (encode cs ++ rest) = some (cs, rest) := by
  simp [decode, encode]

end TypedRouter.Text.Quoted
