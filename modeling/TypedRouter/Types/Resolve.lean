import TypedRouter.OpenApi.Document
import TypedRouter.Types.Expr

/-!
# From schemas to types

Of the keywords of a schema the first of these that applies decides its type: `enum`; a single
`type` that is a string, a number, a truth value or null; a single `type` of objects together
with `properties`; `oneOf`; a reference to a component schema.  A schema without any of them
makes no statement.

A reference is looked up by name among the component schemas, and stays a name: the schema that
it refers to is not entered, so resolving ends even where components refer to each other.
-/

namespace TypedRouter

open OpenApi

/-- The types that one keyword names in full. -/
inductive Primitive where
  | string
  | number
  | boolean
  | null
  deriving DecidableEq, Repr, Inhabited

/-- The type expression of a primitive type. -/
def Primitive.type : Primitive → TypeExpr
  | .string => .string
  | .number => .number
  | .boolean => .boolean
  | .null => .null

/-- The primitive type that a type name stands for. -/
def OpenApi.SchemaType.primitive? : SchemaType → Option Primitive
  | .string => some .string
  | .integer => some .number
  | .number => some .number
  | .boolean => some .boolean
  | .null => some .null
  | _ => none

/-- What decides the type of a schema. -/
inductive Shape where
  | enum (values : List Json.Value)
  | primitive (type : Primitive)
  | object (properties : List (String × Schema)) (required : List String)
  | union (members : List Schema)
  | reference (name : String)
  | unknown
  deriving Repr, Inhabited

/-- What decides the type of a schema. -/
def Shape.ofSchema (s : Schema) : Shape :=
  match s.variants with
  | some values => .enum values
  | none =>
    match s.singleType?.bind SchemaType.primitive? with
    | some p => .primitive p
    | none =>
      match s.singleType?, s.properties with
      | some .object, some properties => .object properties s.required
      | _, _ =>
        match s.oneOf with
        | some members => .union members
        | none =>
          match s.referredName? with
          | some name => .reference name
          | none => .unknown

/-- The type of one value of an enumeration. -/
def TypeExpr.ofVariant : Json.Value → TypeExpr
  | .string s => .literal (.string s)
  | .number n => .literal (.number n)
  | .bool b => .literal (.bool b)
  | .null => .null
  | .array _ => .unknown
  | .object _ => .unknown

/-- The component schemas of a document by name, in order. -/
structure ReferenceIndex where
  schemas : List (String × Schema) := []
  deriving Repr, Inhabited

namespace ReferenceIndex

/-- The component schemas of a document. -/
def ofDocument (doc : Document) : ReferenceIndex := ⟨doc.schemas⟩

/-- The names of the components. -/
def names (index : ReferenceIndex) : List String := index.schemas.map Prod.fst

/-- The schema of a component. -/
def get? (index : ReferenceIndex) (name : String) : Option Schema := index.schemas.lookup name

/-- Whether there is a component of a name. -/
def contains (index : ReferenceIndex) (name : String) : Bool := index.names.contains name

/-- The name that a reference is written with: that of the component, as it is declared, or the
name itself if there is no such component. -/
def spelling (index : ReferenceIndex) (name : String) : String :=
  (index.names.find? (· == name)).getD name

/-- A reference keeps its name, declared or not. -/
@[simp] theorem spelling_eq (index : ReferenceIndex) (name : String) :
    index.spelling name = name := by
  unfold spelling
  cases h : index.names.find? (· == name) with
  | none => rfl
  | some declared => simpa using List.find?_some h

end ReferenceIndex

section Resolve

variable (index : ReferenceIndex)

mutual

/-- The type of a schema. -/
def TypeExpr.ofSchema : Schema → TypeExpr
  | ⟨reference, types, _, properties, required, variants, oneOf⟩ =>
    match variants with
    | some values => .unionOf (values.map .ofVariant)
    | none =>
      match (SchemaType.single? types).bind SchemaType.primitive? with
      | some p => p.type
      | none =>
        match SchemaType.single? types, properties with
        | some .object, some properties => .record (ofProperties required properties)
        | _, _ =>
          match oneOf with
          | some members => .unionOf (ofMembers members)
          | none =>
            match reference.bind componentName? with
            | some name => .ref (index.spelling name)
            | none => .unknown
termination_by structural s => s

/-- The properties of a record; one that is not required may be absent. -/
def TypeExpr.ofProperties (required : List String) :
    List (String × Schema) → List (Property TypeExpr)
  | [] => []
  | (name, s) :: rest =>
    ⟨name, !required.contains name, TypeExpr.ofSchema s⟩ :: ofProperties required rest
termination_by structural ps => ps

/-- The members of a union. -/
def TypeExpr.ofMembers : List Schema → List TypeExpr
  | [] => []
  | s :: rest => TypeExpr.ofSchema s :: ofMembers rest
termination_by structural ss => ss

end

/-- The members of a union are resolved one by one. -/
@[simp] theorem TypeExpr.ofMembers_eq_map (ss : List Schema) :
    TypeExpr.ofMembers index ss = ss.map (TypeExpr.ofSchema index) := by
  induction ss with
  | nil => rfl
  | cons s ss ih => simp [TypeExpr.ofMembers, ih]

/-- The properties of a record are resolved one by one. -/
@[simp]
theorem TypeExpr.ofProperties_eq_map (required : List String) (ps : List (String × Schema)) :
    TypeExpr.ofProperties index required ps =
      ps.map fun p => ⟨p.1, !required.contains p.1, TypeExpr.ofSchema index p.2⟩ := by
  induction ps with
  | nil => rfl
  | cons p ps ih => simp [TypeExpr.ofProperties, ih]

end Resolve

/-- The type of what decides it.  Without an index no component is declared. -/
def Shape.type (shape : Shape) (index : ReferenceIndex := {}) : TypeExpr :=
  match shape with
  | .enum values => .unionOf (values.map .ofVariant)
  | .primitive p => p.type
  | .object properties required => .record (TypeExpr.ofProperties index required properties)
  | .union members => .unionOf (TypeExpr.ofMembers index members)
  | .reference name => .ref (index.spelling name)
  | .unknown => .unknown

namespace Shape

variable (index : ReferenceIndex)

/-- Properties make a record of their types. -/
@[simp] theorem type_object (properties : List (String × Schema)) (required : List String) :
    (object properties required).type index =
      .record (properties.map fun p =>
        ⟨p.1, !required.contains p.1, TypeExpr.ofSchema index p.2⟩) := by
  rw [type, TypeExpr.ofProperties_eq_map]

/-- Members make a union of their types. -/
@[simp] theorem type_union (members : List Schema) :
    (union members).type index = .unionOf (members.map (TypeExpr.ofSchema index)) := by
  rw [type, TypeExpr.ofMembers_eq_map]

/-- A reference makes a reference to the same name. -/
@[simp] theorem type_reference (name : String) : (reference name).type index = .ref name := by
  rw [type, ReferenceIndex.spelling_eq]

end Shape

/-- The type of a schema is the type of what decides it. -/
theorem TypeExpr.ofSchema_eq (index : ReferenceIndex) (s : Schema) :
    TypeExpr.ofSchema index s = (Shape.ofSchema s).type index := by
  obtain ⟨reference, types, description, properties, required, variants, oneOf⟩ := s
  unfold TypeExpr.ofSchema
  cases variants with
  | some values => rfl
  | none =>
    simp only [Shape.ofSchema, Schema.singleType?, Schema.referredName?]
    split
    · rfl
    · split
      · rfl
      · split
        · rfl
        · split <;> rfl

/-- What decides the type of a body in one media type. -/
def Shape.ofMedia (m : MediaType) : Shape :=
  match m.schema with
  | some s => .ofSchema s
  | none => .unknown

/-- The type of a body in one media type. -/
def TypeExpr.ofMedia (index : ReferenceIndex) (m : MediaType) : TypeExpr :=
  match m.schema with
  | some s => .ofSchema index s
  | none => .unknown

end TypedRouter
