import TypedRouter.Json.Number

/-!
# Type expressions

A type expression says which JSON values a name stands for.  Unions are built by `unionOf`,
which puts the members of a member that is a union in its place, gives a single member as it
is, and makes no statement about a value when there are no members.
-/

namespace TypedRouter

/-- A type that holds one value. -/
inductive Literal where
  | string (value : String)
  | number (value : Json.Number)
  | bool (value : Bool)
  deriving DecidableEq, Repr, Inhabited

/-- A named member of a record: whether an object may lack it, and what it holds. -/
structure Property (α : Type) where
  name : String
  mayLack : Bool
  type : α
  deriving DecidableEq, Repr, Inhabited

/-- A type expression. -/
inductive TypeExpr where
  | string
  | number
  | boolean
  | null
  /-- Any value. -/
  | unknown
  /-- No value at all: the input of an operation without one. -/
  | void
  /-- One value. -/
  | literal (value : Literal)
  /-- Objects with these members. -/
  | record (properties : List (Property TypeExpr))
  /-- What any of the members holds. -/
  | union (members : List TypeExpr)
  /-- What the declaration of this name holds. -/
  | ref (name : String)
  deriving Repr, Inhabited

namespace TypeExpr

/-- The members that an expression contributes to a union. -/
def alternatives : TypeExpr → List TypeExpr
  | .union members => members
  | t => [t]

/-- The union of some expressions, without unions among its own members. -/
def unionOf (members : List TypeExpr) : TypeExpr :=
  match members.flatMap alternatives with
  | [] => .unknown
  | [t] => t
  | ts => .union ts

end TypeExpr

end TypedRouter
