import TypedRouter.Types.Text

/-!
# TypeScript types

The part of TypeScript's types that declarations need, and how it is laid out.  An object type
has one member a line, indented by two more spaces than the line that opens it, and ended by a
semicolon.  Everything else stays on its line.

A name is made an identifier when it is written, and in the same way everywhere, so a reference
and its declaration still agree.
-/

namespace TypedRouter.TypeScript

open Text

/-- A member of an object type. -/
inductive Member (α : Type) where
  /-- A property of this name. -/
  | property (name : String) (mayLack : Bool) (type : α)
  /-- Any property; the label says what its name stands for. -/
  | indexed (label : String) (type : α)
  deriving Repr, Inhabited

/-- A type. -/
inductive Ty where
  /-- One of the types that the language names. -/
  | keyword (word : String)
  /-- The type of one value. -/
  | literal (value : Literal)
  /-- The type of this name, applied to arguments. -/
  | named (name : String) (arguments : List Ty)
  /-- The types joined by bars. -/
  | union (members : List Ty)
  /-- The types joined by ampersands. -/
  | intersection (members : List Ty)
  /-- Objects with these members. -/
  | object (members : List (Member Ty))
  deriving Repr, Inhabited

/-- A name as an identifier. -/
def nameChars (name : String) : List Char :=
  Identifier.sanitizeChars name.toList

/-- The spaces that a line starts with. -/
def margin (indent : Nat) : List Char :=
  List.replicate indent ' '

/-- The arguments of a named type; there are no angle brackets without any. -/
def argumentChars : List (List Char) → List Char
  | [] => []
  | arguments => '<' :: (List.intercalate [',', ' '] arguments ++ ['>'])

/-- What stands before the type of a property. -/
def propertyLead (name : String) (mayLack : Bool) : List Char :=
  keyChars name ++ (if mayLack then ['?', ':', ' '] else [':', ' '])

/-- What stands before the type of any property. -/
def indexLead (label : String) : List Char :=
  '[' :: (nameChars label ++ ": string]: ".toList)

namespace Ty

mutual

/-- A type that starts on a line with this indentation. -/
def chars (indent : Nat) : Ty → List Char
  | .keyword word => word.toList
  | .literal value => value.chars
  | .named name arguments => nameChars name ++ argumentChars (listChars indent arguments)
  | .union members => List.intercalate [' ', '|', ' '] (listChars indent members)
  | .intersection members => List.intercalate [' ', '&', ' '] (listChars indent members)
  | .object members =>
    '\x7b' :: '\n' :: (memberLines (indent + 2) members ++ (margin indent ++ ['\x7d']))
termination_by structural t => t

/-- Types that start on one line. -/
def listChars (indent : Nat) : List Ty → List (List Char)
  | [] => []
  | t :: rest => chars indent t :: listChars indent rest
termination_by structural ts => ts

/-- The lines of some members. -/
def memberLines (indent : Nat) : List (Member Ty) → List Char
  | [] => []
  | m :: rest => margin indent ++ (memberChars indent m ++ (';' :: '\n' :: memberLines indent rest))
termination_by structural ms => ms

/-- A member of an object type. -/
def memberChars (indent : Nat) : Member Ty → List Char
  | .property name mayLack t => propertyLead name mayLack ++ chars indent t
  | .indexed label t => indexLead label ++ chars indent t
termination_by structural m => m

end

mutual

/-- The TypeScript type of a type expression. -/
def ofExpr : TypeExpr → Ty
  | .string => .keyword "string"
  | .number => .keyword "number"
  | .boolean => .keyword "boolean"
  | .null => .keyword "null"
  | .unknown => .keyword "unknown"
  | .void => .keyword "void"
  | .literal value => .literal value
  | .record properties => .object (ofProperties properties)
  | .union members => .union (ofMembers members)
  | .ref name => .named name []
termination_by structural t => t

/-- The members of the type of a record. -/
def ofProperties : List (Property TypeExpr) → List (Member Ty)
  | [] => []
  | p :: rest => ofProperty p :: ofProperties rest
termination_by structural ps => ps

/-- The member for a property of a record. -/
def ofProperty : Property TypeExpr → Member Ty
  | ⟨name, mayLack, t⟩ => .property name mayLack (ofExpr t)
termination_by structural p => p

/-- The types of the members of a union. -/
def ofMembers : List TypeExpr → List Ty
  | [] => []
  | t :: rest => ofExpr t :: ofMembers rest
termination_by structural ts => ts

end

/-! ## What the definitions say of each kind of type

The functions above go through lists by helpers of their own.  What they say is that the items of a
list are taken one after the other. -/

section Equations

variable (indent : Nat)

/-- The texts of types, one type after the other. -/
@[simp] theorem listChars_eq_map (ts : List Ty) : listChars indent ts = ts.map (chars indent) := by
  induction ts with
  | nil => rfl
  | cons t ts ih => rw [listChars, ih, List.map_cons]

/-- Each member stands in a line of its own, with a margin before it and a semicolon after it. -/
@[simp] theorem memberLines_eq_flatMap (ms : List (Member Ty)) :
    memberLines indent ms =
      ms.flatMap fun m => margin indent ++ (memberChars indent m ++ [';', '\n']) := by
  induction ms with
  | nil => rfl
  | cons m ms ih => simp [memberLines, ih]

/-- A keyword is written as it is. -/
@[simp] theorem chars_keyword (word : String) : (keyword word).chars indent = word.toList := rfl

/-- A literal is written as it is. -/
@[simp] theorem chars_literal (value : Literal) : (literal value).chars indent = value.chars := rfl

/-- A name is written before its arguments. -/
@[simp] theorem chars_named (name : String) (ts : List Ty) :
    (named name ts).chars indent = nameChars name ++ argumentChars (ts.map (chars indent)) := by
  rw [chars, listChars_eq_map]

/-- The members of a union are written with bars between them. -/
@[simp] theorem chars_union (ts : List Ty) :
    (union ts).chars indent = List.intercalate [' ', '|', ' '] (ts.map (chars indent)) := by
  rw [chars, listChars_eq_map]

/-- The members of an intersection are written with ampersands between them. -/
@[simp] theorem chars_intersection (ts : List Ty) :
    (intersection ts).chars indent = List.intercalate [' ', '&', ' '] (ts.map (chars indent)) := by
  rw [chars, listChars_eq_map]

/-- The members of an object are written between braces, further to the right. -/
@[simp] theorem chars_object (ms : List (Member Ty)) :
    (object ms).chars indent = '\x7b' :: '\n' ::
      ((ms.flatMap fun m => margin (indent + 2) ++ (memberChars (indent + 2) m ++ [';', '\n'])) ++
        (margin indent ++ ['\x7d'])) := by
  rw [chars, memberLines_eq_flatMap]

/-- A property is written as its name and then its type. -/
@[simp] theorem memberChars_property (name : String) (mayLack : Bool) (t : Ty) :
    memberChars indent (.property name mayLack t) =
      propertyLead name mayLack ++ t.chars indent := rfl

/-- An indexed member is written as its label and then its type. -/
@[simp] theorem memberChars_indexed (label : String) (t : Ty) :
    memberChars indent (.indexed label t) = indexLead label ++ t.chars indent := rfl

/-- The types of members, one member after the other. -/
@[simp] theorem ofMembers_eq_map (ts : List TypeExpr) : ofMembers ts = ts.map ofExpr := by
  induction ts with
  | nil => rfl
  | cons t ts ih => rw [ofMembers, ih, List.map_cons]

/-- The members of an object, one property after the other. -/
@[simp] theorem ofProperties_eq_map (ps : List (Property TypeExpr)) :
    ofProperties ps = ps.map ofProperty := by
  induction ps with
  | nil => rfl
  | cons p ps ih => rw [ofProperties, ih, List.map_cons]

/-- The type of a record is an object. -/
@[simp] theorem ofExpr_record (ps : List (Property TypeExpr)) :
    ofExpr (.record ps) = .object (ps.map ofProperty) := by
  rw [ofExpr, ofProperties_eq_map]

/-- The type of a union is a union. -/
@[simp] theorem ofExpr_union (ts : List TypeExpr) :
    ofExpr (.union ts) = .union (ts.map ofExpr) := by
  rw [ofExpr, ofMembers_eq_map]

end Equations

end Ty

end TypedRouter.TypeScript
