import TypedRouter.Text.Identifier
import TypedRouter.Text.Quoted
import TypedRouter.Types.Expr

/-!
# Type expressions as text

A type expression on one line: records between braces with commas, unions with bars, literals
quoted.  A member name that is no identifier is quoted too.
-/

namespace TypedRouter

open Text

/-- A literal as text. -/
def Literal.chars : Literal → List Char
  | .string s => Quoted.encode s.toList
  | .number n => n.chars
  | .bool true => "true".toList
  | .bool false => "false".toList

/-- A member name as text: an identifier as it is, any other name quoted. -/
def keyChars (name : String) : List Char :=
  if Identifier.isIdentifier name then name.toList else Quoted.encode name.toList

namespace TypeExpr

mutual

/-- A type expression on one line. -/
def chars : TypeExpr → List Char
  | .string => "string".toList
  | .number => "number".toList
  | .boolean => "boolean".toList
  | .null => "null".toList
  | .unknown => "unknown".toList
  | .void => "void".toList
  | .literal l => l.chars
  | .record [] => ['\x7b', '\x7d']
  | .record (p :: ps) => '\x7b' :: ' ' :: propertyChars p ++ morePropertyChars ps ++ [' ', '\x7d']
  | .union [] => []
  | .union (t :: ts) => chars t ++ moreMemberChars ts
  | .ref name => name.toList
termination_by structural t => t

/-- A property of a record. -/
def propertyChars : Property TypeExpr → List Char
  | ⟨name, mayLack, t⟩ =>
    keyChars name ++ (if mayLack then ['?', ':', ' '] else [':', ' ']) ++ chars t
termination_by structural p => p

/-- The properties after the first. -/
def morePropertyChars : List (Property TypeExpr) → List Char
  | [] => []
  | p :: ps => ',' :: ' ' :: propertyChars p ++ morePropertyChars ps
termination_by structural ps => ps

/-- The members of a union after the first. -/
def moreMemberChars : List TypeExpr → List Char
  | [] => []
  | t :: ts => ' ' :: '|' :: ' ' :: chars t ++ moreMemberChars ts
termination_by structural ts => ts

end

/-- A type expression on one line. -/
def text (t : TypeExpr) : String := String.ofList t.chars

end TypeExpr

end TypedRouter
