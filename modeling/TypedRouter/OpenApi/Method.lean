/-!
# Methods

The seven methods a path may declare operations for, in the order they are listed in, and
whether an operation reads or changes state.
-/

namespace TypedRouter.OpenApi

/-- A method that a path may declare an operation for. -/
inductive Method where
  | get
  | post
  | put
  | patch
  | delete
  | head
  | options
  deriving DecidableEq, Repr, Inhabited

/-- Whether an operation reads or changes state. -/
inductive OperationKind where
  | query
  | mutation
  deriving DecidableEq, Repr, Inhabited

/-- The name of a kind of operation. -/
def OperationKind.name : OperationKind → String
  | .query => "query"
  | .mutation => "mutation"

namespace Method

/-- All methods, in their fixed order. -/
def all : List Method := [.get, .post, .put, .patch, .delete, .head, .options]

/-- The name of a method in a document. -/
def name : Method → String
  | .get => "get"
  | .post => "post"
  | .put => "put"
  | .patch => "patch"
  | .delete => "delete"
  | .head => "head"
  | .options => "options"

/-- The methods that only read state are queries. -/
def kind : Method → OperationKind
  | .get => .query
  | .head => .query
  | .options => .query
  | .post => .mutation
  | .put => .mutation
  | .patch => .mutation
  | .delete => .mutation

end Method

end TypedRouter.OpenApi
