import TypedRouter.Http.Status
import TypedRouter.Text.Utf8
import TypedRouter.Url.Basic

/-!
# Requests and responses

What is sent to a server, and what comes back.  A network is a function from the one to the
other, so what a program does with any server can be told without one.
-/

namespace TypedRouter.Http

/-- A request. -/
structure Request where
  method : String
  url : Url
  /-- Names, in small letters, with values. -/
  headers : List (String × String) := []
  body : String := ""
  deriving Repr, Inhabited

/-- A response. -/
structure Response where
  status : Status
  contentType : Option String := none
  body : List UInt8 := []
  deriving Repr, Inhabited

/-- The text of a response, with a replacement character for each fault. -/
def Response.text (r : Response) : String :=
  String.ofList (Text.Utf8.decodeLossy r.body)

/-- What comes back for each request, if anything does. -/
abbrev Network := Request → Option Response

/-- The network that reaches no server. -/
def Network.unreachable : Network := fun _ => none

end TypedRouter.Http
