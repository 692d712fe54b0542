import TypedRouter.Json.Value
import TypedRouter.OpenApi.Reference

/-!
# Schemas

A schema is the keywords it sets.  Every keyword may be absent, so a schema without any accepts
all values; `true` and `false` are written for it as well.
-/

namespace TypedRouter.OpenApi

/-- The names that the `type` keyword may give. -/
inductive SchemaType where
  | string
  | integer
  | number
  | boolean
  | array
  | object
  | null
  /-- Any name that is not one of these. -/
  | other
  deriving DecidableEq, Repr, Inhabited

/-- The type names, in a fixed order. -/
def SchemaType.named : List (String × SchemaType) :=
  [("string", .string), ("integer", .integer), ("number", .number), ("boolean", .boolean),
    ("array", .array), ("object", .object), ("null", .null)]

/-- The one type of a list that has exactly one. -/
def SchemaType.single? : List SchemaType → Option SchemaType
  | [t] => some t
  | _ => none

/-- A schema, or a reference to one. -/
structure Schema where
  /-- Where to find another schema. -/
  reference : Option String := none
  /-- The types a value may have. -/
  types : List SchemaType := []
  /-- What the schema is about. -/
  description : Option String := none
  /-- The schemas of the named members of an object, in order. -/
  properties : Option (List (String × Schema)) := none
  /-- The members an object has to have. -/
  required : List String := []
  /-- The values that are allowed. -/
  variants : Option (List Json.Value) := none
  /-- The alternatives of a union. -/
  oneOf : Option (List Schema) := none
  deriving Repr, Inhabited

namespace Schema

/-- The type of a schema that names exactly one. -/
def singleType? (s : Schema) : Option SchemaType := SchemaType.single? s.types

/-- The component that a schema refers to, if it refers to one. -/
def referredName? (s : Schema) : Option String :=
  s.reference.bind componentName?

end Schema

end TypedRouter.OpenApi
