import TypedRouter.Json.Writer
import TypedRouter.Url.Extend

/-!
# Query parameters

The members of an object become the pairs of a query.  A list gives its name to each of its
items, null gives nothing, and what has members or items of its own inside is written as JSON.
Null stands for an object without members; no other value has pairs.
-/

namespace TypedRouter.Client

open Json

/-- What cannot be a query: a value of this kind. -/
structure NotMembers where
  kind : String
  deriving DecidableEq, Repr, Inhabited

/-- Why a value cannot be a query, in words. -/
def NotMembers.message (e : NotMembers) : String :=
  s!"query parameters must serialize as a map, not a {e.kind}"

/-- The text of one value of a parameter; null has none. -/
def parameterText? : Value → Option String
  | .null => none
  | .string s => some s
  | v => some v.text

/-- The pairs of a parameter. -/
def parameterPairs (name : String) : Value → List (String × String)
  | .array items => items.filterMap fun item => (parameterText? item).map (name, ·)
  | v => (parameterText? v).toList.map (name, ·)

/-- The pairs of a query. -/
def queryPairs : Value → Except NotMembers (List (String × String))
  | .object members => .ok (members.flatMap fun (name, v) => parameterPairs name v)
  | .null => .ok []
  | v => .error ⟨v.kindName⟩

end TypedRouter.Client

namespace TypedRouter.Url

open Client

/-- The URL with the pairs of a value at the end of its query. -/
def appendQuery (u : Url) (query : Json.Value) : Except NotMembers Url :=
  (queryPairs query).map u.addPairs

end TypedRouter.Url
