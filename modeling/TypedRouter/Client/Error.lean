import TypedRouter.Client.Query
import TypedRouter.OpenApi.Method
import TypedRouter.Outline.Problem
import TypedRouter.Url.Reader

/-!
# What a client reports

The reasons for which a client cannot be made, and for which a call has no outcome.  A response
with any status is an outcome, and not among them.
-/

namespace TypedRouter.Client

open OpenApi

/-- Why a body does not hold the value that is wanted. -/
inductive BodyFault where
  /-- The value at its front is not the one. -/
  | value (problem : Problem)
  /-- Something follows the value. -/
  | rest
  deriving DecidableEq, Repr, Inhabited

/-- What a client reports. -/
inductive Error where
  /-- The base is no URL. -/
  | badUrl (fault : Url.Fault)
  /-- Nothing can be added to the path of the base. -/
  | baseWithoutSegments
  /-- The query has no pairs. -/
  | badQuery (reason : NotMembers)
  /-- No procedure has this call path, whose elements are joined by points here. -/
  | badCallPath (path : String)
  /-- A text is not the name of a header. -/
  | badHeaderName
  /-- A text is not the value of this header. -/
  | badHeaderValue (name : String)
  /-- A procedure of one kind was called as one of the other. -/
  | wrongKind (actual expected : OperationKind)
  /-- There was no response. -/
  | unanswered
  /-- The body of the response does not hold the value that is wanted. -/
  | badBody (fault : BodyFault)
  deriving Repr, Inhabited

namespace Error

/-- What a client reports, in words. -/
def message : Error → String
  | .badUrl _ => "Malformed URL"
  | .baseWithoutSegments => "Can\x27t use URL as base URL"
  | .badQuery _ => "Invalid query parameters"
  | .badCallPath path => "Invalid call path `" ++ path ++ "`"
  | .badHeaderName => "Invalid header name"
  | .badHeaderValue name => s!"Invalid value for header `{name}`"
  | .wrongKind actual expected =>
    s!"Can\x27t call a {actual.name} procedure as a {expected.name}"
  | .unanswered => "Network error"
  | .badBody _ => "Malformed JSON"

/-- What lies behind a report, in words, where a text was at fault. -/
def cause? : Error → Option String
  | .badUrl fault => some fault.message
  | .badQuery reason => some reason.message
  | .badHeaderName => some "invalid HTTP header name"
  | .badHeaderValue _ => some "failed to parse header value"
  | _ => none

end Error

end TypedRouter.Client
