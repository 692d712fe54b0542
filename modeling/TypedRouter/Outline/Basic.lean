import TypedRouter.Json.Value

/-!
# Outlines

An outline is what a reader meets when it goes through a data text in order: values, lists and
objects, up to the place where the text stops being well formed, if there is one.  Reading a
text into an outline never fails; what is wrong with the text is part of the outline, and comes
up only when something asks for that part.

So one decoder serves every source.  An outline of a JSON value has no faults and no repeated
names.  An outline of a JSON text may have both.  An outline of a YAML text also has scalars
that may be read by their spelling or by what the spelling stands for, and names that are no
text.
-/

namespace TypedRouter

/-- Why a text cannot be read on: it is not well formed, or it ends too early. -/
inductive Fault where
  | malformed
  | truncated
  deriving DecidableEq, Repr, Inhabited

/-- What a reader meets when it goes through a data text in order. -/
inductive Outline where
  /-- The null value. -/
  | null
  /-- A truth value. -/
  | bool (value : Bool)
  /-- A number. -/
  | number (value : Json.Number)
  /-- An infinity, or no number at all: a value of number type that JSON cannot write. -/
  | nonFinite
  /-- A text. -/
  | text (value : String)
  /-- A scalar that can be read by its spelling or as the value that the spelling stands for. -/
  | scalar (spelling : String) (value : Outline)
  /-- A list, and what is wrong where it should go on or end. -/
  | list (items : List Outline) (stop : Option Fault)
  /-- An object, and what is wrong where it should go on or end. -/
  | object (members : List (Outline × Outline)) (stop : Option Fault)
  /-- A list or an object of a kind of its own, which can be read by its shape only. -/
  | tagged (inner : Outline)
  /-- The place where the text stops being well formed. -/
  | broken (fault : Fault)
  /-- A part that can be passed over but not read. -/
  | unreadable (fault : Fault) (inner : Outline)
  deriving Repr, Inhabited

namespace Outline

mutual

/-- The outline of a JSON value. -/
def ofValue : Json.Value → Outline
  | .null => .null
  | .bool b => .bool b
  | .number n => .number n
  | .string s => .text s
  | .array items => .list (ofItems items) none
  | .object members => .object (ofMembers members) none
termination_by structural v => v

/-- The outlines of the items of an array. -/
def ofItems : List Json.Value → List Outline
  | [] => []
  | x :: xs => ofValue x :: ofItems xs
termination_by structural v => v

/-- The outlines of the members of an object. -/
def ofMembers : List (String × Json.Value) → List (Outline × Outline)
  | [] => []
  | (k, v) :: rest => (.text k, ofValue v) :: ofMembers rest
termination_by structural v => v

end

end Outline

end TypedRouter
