import TypedRouter.OpenApi.Method
import TypedRouter.OpenApi.Schema

/-!
# Documents

The parts of an OpenAPI document that say what operations there are and what they take and
give.  Only named component schemas are looked up; any other reference stands for a part that
is not known.
-/

namespace TypedRouter.OpenApi

/-- A part that is written out, or a reference to it. -/
inductive RefOr (α : Type) where
  | reference (path : String)
  | item (value : α)
  deriving Repr, Inhabited

/-- The part itself, if it is written out. -/
def RefOr.item? {α : Type} : RefOr α → Option α
  | .reference _ => none
  | .item x => some x

/-- What a document says about itself. -/
structure Info where
  title : String := ""
  description : Option String := none
  version : String := ""
  deriving DecidableEq, Repr, Inhabited

/-- Where a parameter is given. -/
inductive ParameterLocation where
  | path
  | query
  | header
  | cookie
  /-- Any name that is not one of these. -/
  | other
  deriving DecidableEq, Repr, Inhabited

/-- The locations by their names. -/
def ParameterLocation.named : List (String × ParameterLocation) :=
  [("path", .path), ("query", .query), ("header", .header), ("cookie", .cookie)]

/-- A parameter of an operation. -/
structure Parameter where
  name : String := ""
  location : ParameterLocation := .other
  required : Bool := false
  description : Option String := none
  schema : Option Schema := none
  deriving Repr, Inhabited

/-- The content of a body in one media type. -/
structure MediaType where
  schema : Option Schema := none
  deriving Repr, Inhabited

/-- What an operation takes. -/
structure RequestBody where
  description : Option String := none
  required : Bool := false
  content : List (String × MediaType) := []
  deriving Repr, Inhabited

/-- What an operation gives. -/
structure Response where
  description : Option String := none
  content : List (String × MediaType) := []
  deriving Repr, Inhabited

/-- An operation on a path. -/
structure Operation where
  operationId : Option String := none
  parameters : List (RefOr Parameter) := []
  requestBody : Option (RefOr RequestBody) := none
  responses : List (String × RefOr Response) := []
  deriving Repr, Inhabited

/-- The operations that a path declares. -/
structure PathItem where
  get : Option Operation := none
  post : Option Operation := none
  put : Option Operation := none
  patch : Option Operation := none
  delete : Option Operation := none
  head : Option Operation := none
  options : Option Operation := none
  deriving Repr, Inhabited

/-- The named parts of a document. -/
structure Components where
  schemas : List (String × Schema) := []
  deriving Repr, Inhabited

/-- An OpenAPI document. -/
structure Document where
  openapi : String := ""
  info : Option Info := none
  paths : List (String × PathItem) := []
  components : Option Components := none
  deriving Repr, Inhabited

/-- The media type whose schemas count. -/
def jsonMediaType : String := "application/json"

namespace Operation

/-- The query parameters that are written out. -/
def queryParameters (op : Operation) : List Parameter :=
  (op.parameters.filterMap RefOr.item?).filter fun p => p.location = .query

/-- The JSON content of the request body, if that is written out. -/
def jsonRequest? (op : Operation) : Option MediaType :=
  (op.requestBody.bind RefOr.item?).bind fun body => body.content.lookup jsonMediaType

/-- Whether a status, or a range of them, is a success. -/
def isSuccess (status : String) : Bool :=
  match status.toList with
  | '2' :: _ => true
  | _ => false

/-- The JSON contents of the successful responses that are written out, in order. -/
def jsonSuccesses (op : Operation) : List MediaType :=
  (op.responses.filter fun (status, _) => isSuccess status).filterMap fun (_, response) =>
    response.item?.bind fun r => r.content.lookup jsonMediaType

end Operation

namespace PathItem

/-- The operation that a path declares for a method. -/
def operation? (item : PathItem) : Method → Option Operation
  | .get => item.get
  | .post => item.post
  | .put => item.put
  | .patch => item.patch
  | .delete => item.delete
  | .head => item.head
  | .options => item.options

/-- The operations of a path, in the fixed order of the methods. -/
def operations (item : PathItem) : List (Method × Operation) :=
  Method.all.filterMap fun m => (item.operation? m).map (m, ·)

end PathItem

/-- The named schemas of a document, in order. -/
def Document.schemas (doc : Document) : List (String × Schema) :=
  (doc.components.map Components.schemas).getD []

end TypedRouter.OpenApi
