import TypedRouter.Json.Value

/-!
# JSON text

Compact JSON text.  Inside a string the quotation mark and the backslash are escaped, the
control characters are written with a short escape if they have one and with four hexadecimal
digits otherwise, and every other character stands for itself.
-/

namespace TypedRouter.Json

/-- A hexadecimal digit in lower case. -/
def hexDigit (n : Nat) : Char := (Nat.digitChar n)

/-- A character of a string in JSON text. -/
def escapeChar (c : Char) : List Char :=
  if c = '\x22' then ['\\', '\x22']
  else if c = '\\' then ['\\', '\\']
  else if c = '\x08' then ['\\', 'b']
  else if c = '\x0c' then ['\\', 'f']
  else if c = '\n' then ['\\', 'n']
  else if c = '\r' then ['\\', 'r']
  else if c = '\t' then ['\\', 't']
  else if c.toNat < 0x20 then
    ['\\', 'u', '0', '0', hexDigit (c.toNat / 16), hexDigit (c.toNat % 16)]
  else [c]

/-- A string as JSON text. -/
def stringChars (s : String) : List Char :=
  '\x22' :: (s.toList.flatMap escapeChar ++ ['\x22'])

namespace Value

mutual

/-- A value as compact JSON text. -/
def chars : Value → List Char
  | .null => "null".toList
  | .bool true => "true".toList
  | .bool false => "false".toList
  | .number n => n.chars
  | .string s => stringChars s
  | .array [] => ['[', ']']
  | .array (x :: xs) => '[' :: (x.chars ++ itemChars xs)
  | .object [] => ['\x7b', '\x7d']
  | .object ((k, v) :: ms) => '\x7b' :: (stringChars k ++ ':' :: (v.chars ++ memberChars ms))
termination_by structural v => v

/-- The items after the first, each led by a comma, and the closing bracket. -/
def itemChars : List Value → List Char
  | [] => [']']
  | x :: xs => ',' :: (x.chars ++ itemChars xs)
termination_by structural v => v

/-- The members after the first, each led by a comma, and the closing brace. -/
def memberChars : List (String × Value) → List Char
  | [] => ['\x7d']
  | (k, v) :: ms => ',' :: (stringChars k ++ ':' :: (v.chars ++ memberChars ms))
termination_by structural v => v

end

/-- A value as compact JSON text. -/
def text (v : Value) : String := String.ofList v.chars

end Value

end TypedRouter.Json
