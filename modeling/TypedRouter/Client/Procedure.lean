import TypedRouter.OpenApi.Method

/-!
# Callable procedures

A procedure is called below the base URL of a client, with a method.  Its method tells whether
it is a query or a mutation.  A call path names a procedure by its segments, its method and its
kind, and the last two have to agree.
-/

namespace TypedRouter.Client

open OpenApi

/-- The name of a method in a request. -/
def methodToken : Method → String
  | .get => "GET"
  | .post => "POST"
  | .put => "PUT"
  | .patch => "PATCH"
  | .delete => "DELETE"
  | .head => "HEAD"
  | .options => "OPTIONS"

/-- The name in a request of the method that a call path names. -/
def tokenOfName? (name : String) : Option String :=
  match name with
  | "get" => some "GET"
  | "post" => some "POST"
  | "put" => some "PUT"
  | "patch" => some "PATCH"
  | "delete" => some "DELETE"
  | "head" => some "HEAD"
  | "options" => some "OPTIONS"
  | _ => none

/-- What a request with a method does.  Only three methods are known to leave everything as it
is. -/
def kindOfToken (token : String) : OperationKind :=
  if token = "GET" ∨ token = "HEAD" ∨ token = "OPTIONS" then .query else .mutation

/-- A procedure that can be called. -/
structure Procedure where
  segments : List String
  /-- The name of the method in a request, which may be any. -/
  method : String
  deriving DecidableEq, Repr, Inhabited

namespace Procedure

/-- Whether a procedure reads or changes state. -/
def kind (p : Procedure) : OperationKind :=
  kindOfToken p.method

/-- A query with the method that is used to read. -/
def query (segments : List String) : Procedure :=
  ⟨segments, methodToken .get⟩

/-- The procedure that a call path names: segments, then a method, then its kind. -/
def ofCallPath? (path : List String) : Option Procedure :=
  match path.reverse with
  | kind :: name :: segments => do
    let token ← tokenOfName? name
    let p : Procedure := ⟨segments.reverse, token⟩
    if kind = p.kind.name then some p else none
  | _ => none

end Procedure

end TypedRouter.Client
