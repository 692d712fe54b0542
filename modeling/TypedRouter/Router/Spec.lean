import TypedRouter.Router.Tree

/-!
# Router specifications

What a document says once its schemas are resolved: a declaration for each component schema, in
order, and the router tree.  A name that is referred to but not declared is dangling; it is
reported once.
-/

namespace TypedRouter.Router

open OpenApi

/-- A named type. -/
structure Declaration where
  name : String
  type : TypeExpr
  description : Option String
  deriving Repr, Inhabited

/-- What a document says once its schemas are resolved. -/
structure Spec where
  info : Option Info := none
  declarations : List Declaration := []
  root : Record := []
  dangling : List String := []
  deriving Repr, Inhabited

mutual

/-- The components that a schema refers to, anywhere inside it. -/
def schemaRefs : Schema → List String
  | ⟨reference, _, _, properties, _, _, oneOf⟩ =>
    (reference.bind componentName?).toList ++ propertyRefs properties ++ memberRefs oneOf
termination_by structural s => s

/-- The components that some properties refer to. -/
def propertyRefs : Option (List (String × Schema)) → List String
  | none => []
  | some properties => namedRefs properties
termination_by structural ps => ps

/-- The components that some named schemas refer to. -/
def namedRefs : List (String × Schema) → List String
  | [] => []
  | (_, s) :: rest => schemaRefs s ++ namedRefs rest
termination_by structural ps => ps

/-- The components that some alternatives refer to. -/
def memberRefs : Option (List Schema) → List String
  | none => []
  | some members => itemRefs members
termination_by structural ss => ss

/-- The components that some schemas refer to. -/
def itemRefs : List Schema → List String
  | [] => []
  | s :: rest => schemaRefs s ++ itemRefs rest
termination_by structural ss => ss

end

/-- The schemas that decide the signature of an operation. -/
def operationSchemas (op : Operation) : List Schema :=
  op.queryParameters.filterMap Parameter.schema ++
    (op.jsonRequest?.bind MediaType.schema).toList ++
    op.jsonSuccesses.filterMap MediaType.schema

/-- The schemas that decide the types of a document. -/
def rootSchemas (doc : Document) : List Schema :=
  doc.schemas.map Prod.snd ++
    (doc.paths.flatMap fun (_, item) => item.operations).flatMap fun (_, op) =>
      operationSchemas op

namespace Spec

/-- The declaration of a component schema. -/
def declare (index : ReferenceIndex) (component : String × Schema) : Declaration :=
  ⟨component.1, TypeExpr.ofSchema index component.2, component.2.description⟩

/-- The names that a document refers to and does not declare, each once. -/
def danglingNames (doc : Document) : List String :=
  (((rootSchemas doc).flatMap schemaRefs).filter fun name =>
    !(ReferenceIndex.ofDocument doc).contains name).eraseDups

/-- What a document says once its schemas are resolved. -/
def ofDocument (doc : Document) : Spec where
  info := doc.info
  declarations := doc.schemas.map (declare (.ofDocument doc))
  root := Tree.build (.ofDocument doc) doc.paths
  dangling := danglingNames doc

end Spec

end TypedRouter.Router
