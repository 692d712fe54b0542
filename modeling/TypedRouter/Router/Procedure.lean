import TypedRouter.Types.Resolve

/-!
# Procedures

A procedure is the signature of an operation.  It takes a record with the JSON request body as
`data` and the query parameters as `query`, each only if there are any, and nothing at all if
there are neither.  It gives the union of the JSON bodies of its successful responses.
-/

namespace TypedRouter.Router

open OpenApi

/-- The signature of an operation. -/
structure Procedure where
  method : Method
  kind : OperationKind
  input : TypeExpr
  output : TypeExpr
  deriving Repr, Inhabited

namespace Procedure

variable (index : ReferenceIndex)

/-- The property of a query parameter; one that is not required may be absent. -/
def queryProperty (p : Parameter) : Property TypeExpr :=
  ⟨p.name, !p.required, (p.schema.map (TypeExpr.ofSchema index)).getD .unknown⟩

/-- The fields of what an operation takes. -/
def inputFields (op : Operation) : List (Property TypeExpr) :=
  let data := match op.jsonRequest? with
    | some media => [⟨"data", false, TypeExpr.ofMedia index media⟩]
    | none => []
  let query := match op.queryParameters with
    | [] => []
    | params => [⟨"query", false, .record (params.map (queryProperty index))⟩]
  data ++ query

/-- The type of what an operation takes. -/
def inputType (op : Operation) : TypeExpr :=
  match inputFields index op with
  | [] => .void
  | fields => .record fields

/-- The type of what an operation gives. -/
def outputType (op : Operation) : TypeExpr :=
  .unionOf (op.jsonSuccesses.map (TypeExpr.ofMedia index))

/-- The signature of an operation that is declared for a method. -/
def ofOperation (method : Method) (op : Operation) : Procedure :=
  ⟨method, method.kind, inputType index op, outputType index op⟩

/-- The signatures of the operations of a path, in the fixed order of the methods. -/
def ofItem (item : PathItem) : List Procedure :=
  item.operations.map fun (m, op) => ofOperation index m op

end Procedure

end TypedRouter.Router
