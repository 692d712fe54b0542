import TypedRouter.Client.Error
import TypedRouter.Client.Procedure
import TypedRouter.Http.Exchange
import TypedRouter.Http.Header
import TypedRouter.Outline.Value
import TypedRouter.Text.Blank

/-!
# Calls

A client has a base URL and headers that go with each request.  A call sends one request, to the
URL of a procedure, and its outcome follows from the response.  The body of a successful response
has to hold a value, where nothing at all stands for null.  The body of any other response is a
value if it holds one, and a text if it does not.
-/

namespace TypedRouter

open Json OpenApi Client

/-- A client of a service. -/
structure Client where
  base : Url
  headers : Http.Headers := []
  deriving Repr, Inhabited

namespace Client

/-- What a procedure is called with. -/
structure Input where
  /-- What is sent as the body. -/
  data : Option Value := none
  /-- What is sent in the URL. -/
  query : Option Value := none
  deriving Repr, Inhabited

/-- What comes of a response. -/
structure Outcome (α : Type) where
  status : Http.Status
  /-- The value of a successful response. -/
  data : Option α
  /-- The value or the text of any other response. -/
  error : Option Value
  deriving Repr, Inhabited

/-- The requests that a call sent, and what came of it. -/
structure Call (α : Type) where
  requests : List Http.Request
  result : Except Error (Outcome α)

/-- A client with a base URL. -/
def ofBase (base : String) : Except Error Client :=
  match Url.ofText base with
  | .ok base => .ok { base }
  | .error fault => .error (.badUrl fault)

/-- Sets a header of each request. -/
def withHeader (c : Client) (name value : String) : Except Error Client :=
  match Http.headerName? name with
  | none => .error .badHeaderName
  | some name =>
    if Http.isHeaderValue value then .ok { c with headers := OrderedMap.set name value c.headers }
    else .error (.badHeaderValue name)

/-- Sets a header of each request whose value is not to be shown.  It is sent like any other. -/
def withSensitiveHeader (c : Client) (name value : String) : Except Error Client :=
  c.withHeader name value

/-- Sets the header that names the client. -/
def withUserAgent (c : Client) (value : String) : Except Error Client :=
  c.withHeader "user-agent" value

/-- The procedure of a call path. -/
def procedureOf (path : List String) : Except Error Procedure :=
  match Procedure.ofCallPath? path with
  | some p => .ok p
  | none => .error (.badCallPath (".".intercalate path))

/-- The URL of a procedure, with the pairs of a query if there is one. -/
def urlFor (c : Client) (p : Procedure) (query : Option Value) : Except Error Url :=
  match c.base.below? p.segments with
  | none => .error .baseWithoutSegments
  | some url =>
    match query with
    | none => .ok url
    | some query =>
      match url.appendQuery query with
      | .ok url => .ok url
      | .error reason => .error (.badQuery reason)

/-- The request for a procedure.  The method that is used to read sends no body. -/
def requestFor (c : Client) (p : Procedure) (input : Input) : Except Error Http.Request := do
  let url ← c.urlFor p input.query
  let body := match input.data with
    | some data => if p.method = methodToken .get then "" else data.text
    | none => ""
  return {
    method := p.method
    url
    headers := c.headers ++ [("content-type", "application/json")]
    body }

/-- Whether a body is empty or blank. -/
def isBlankBody (body : List UInt8) : Bool :=
  body.all fun b => Text.isAsciiBlank (Char.ofNat b.toNat)

/-- The value that a text holds, and nothing else. -/
def readText {α : Type} (decode : Outline → Decoded α) (cs : List Char) : Except BodyFault α :=
  let (outline, rest) := Outline.read cs
  match decode outline, rest with
  | .error p, _ => .error (.value p)
  | .ok _, none => .error (.value ⟨[], .fault .malformed⟩)
  | .ok x, some rest => if (Reader.skipBlanks rest).isEmpty then .ok x else .error .rest

/-- The value that a body holds, and nothing else. -/
def readBody {α : Type} (decode : Outline → Decoded α) (body : List UInt8) :
    Except BodyFault α :=
  match Text.Utf8.decode? body with
  | some cs => readText decode cs
  | none => .error (.value ⟨[], .fault .malformed⟩)

/-- The value of a successful response. -/
def dataOf {α : Type} (decode : Outline → Decoded α) (body : List UInt8) : Except BodyFault α :=
  if isBlankBody body then readText decode "null".toList else readBody decode body

/-- The value or the text of a response that is not successful, unless it is blank. -/
def errorOf (body : List UInt8) : Option Value :=
  match readBody Outline.toValue body with
  | .ok v => some v
  | .error _ =>
    if isBlankBody body then none
    else some (.string (String.ofList (Text.Utf8.decodeLossy body)))

/-- What comes of a response. -/
def Outcome.ofResponse {α : Type} (decode : Outline → Decoded α) (r : Http.Response) :
    Except Error (Outcome α) :=
  if r.status.isSuccess then
    match dataOf decode r.body with
    | .ok data => .ok ⟨r.status, some data, none⟩
    | .error fault => .error (.badBody fault)
  else .ok ⟨r.status, none, errorOf r.body⟩

/-- Calls a procedure of either kind. -/
def call {α : Type} (c : Client) (network : Http.Network) (decode : Outline → Decoded α)
    (p : Procedure) (input : Input) : Call α :=
  match c.requestFor p input with
  | .error e => ⟨[], .error e⟩
  | .ok request =>
    ⟨[request],
      match network request with
      | none => .error .unanswered
      | some response => Outcome.ofResponse decode response⟩

/-- Without a URL no request is sent. -/
@[simp] theorem call_of_urlFor_error {α : Type} {c : Client} {p : Procedure} {input : Input}
    {e : Error} (h : c.urlFor p input.query = .error e) (network : Http.Network)
    (decode : Outline → Decoded α) : c.call network decode p input = ⟨[], .error e⟩ := by
  rw [call, requestFor, h]
  rfl

/-- Calls a procedure of one kind. -/
def callAs {α : Type} (expected : OperationKind) (c : Client) (network : Http.Network)
    (decode : Outline → Decoded α) (p : Procedure) (input : Input) : Call α :=
  if p.kind = expected then c.call network decode p input
  else ⟨[], .error (.wrongKind p.kind expected)⟩

/-- Calls a query. -/
def query {α : Type} (c : Client) (network : Http.Network) (decode : Outline → Decoded α)
    (p : Procedure) (input : Input) : Call α :=
  callAs .query c network decode p input

/-- Calls a mutation. -/
def mutate {α : Type} (c : Client) (network : Http.Network) (decode : Outline → Decoded α)
    (p : Procedure) (input : Input) : Call α :=
  callAs .mutation c network decode p input

end Client

end TypedRouter
