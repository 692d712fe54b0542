import TypedRouter.Files.Tree
import TypedRouter.Http.Exchange
import TypedRouter.Loading.Document
import TypedRouter.Loading.Locator

/-!
# Loading documents

A document is read from a file, or fetched with one request.  The format of a file is told by
its path.  The format of a response is YAML if its content type says so, and is told by the path
of the URL otherwise.

A loader remembers the value of one document.  A document with the same value is unchanged.
-/

namespace TypedRouter.Loading

open Json

/-- Why there is no document. -/
inductive LoadError where
  /-- No file with a text has this path. -/
  | unreadable (path : String)
  /-- There was no response. -/
  | unanswered (url : Url)
  /-- The response was not a document. -/
  | refused (url : Url) (status : Http.Status)
  /-- The text is no document. -/
  | invalid (reason : InvalidDocument)
  deriving Repr, Inhabited

/-- Why there is no document, in words. -/
def LoadError.message : LoadError → String
  | .unreadable path => s!"failed to read `{path}`"
  | .unanswered url => s!"failed to fetch `{url.text}`"
  | .refused url status => s!"`{url.text}` responded with {status.text}"
  | .invalid reason => reason.message

/-- What documents can be read from. -/
structure World where
  files : Files.Node
  network : Http.Network

/-- Whether a content type says that a text is YAML. -/
def saysYaml (contentType : String) : Bool :=
  contentType.toList.all (fun c => c == '\t' || decide (0x20 ≤ c.toNat ∧ c.toNat ≤ 0x7E)) &&
    Text.hasPart "yaml".toList contentType.toList

/-- The format of a response to a request for a URL. -/
def responseFormat (url : Url) (response : Http.Response) : SourceFormat :=
  if response.contentType.any saysYaml then .yaml
  else .ofPath (String.ofList url.path.chars)

/-- The text of a document and its format. -/
def World.source (world : World) : Locator → Except LoadError (String × SourceFormat)
  | .file path =>
    match (world.files.read? path).bind Text.Utf8.decode? with
    | some text => .ok (String.ofList text, .ofPath path)
    | none => .error (.unreadable path)
  | .url url =>
    match world.network { method := "GET", url } with
    | none => .error (.unanswered url)
    | some response =>
      if response.status.isSuccess then .ok (response.text, responseFormat url response)
      else .error (.refused url response.status)

/-- The document at a place. -/
def World.load (world : World) (place : Locator) : Except LoadError Loaded := do
  let (text, format) ← world.source place
  match Loaded.ofText format text with
  | .ok loaded => return loaded
  | .error reason => throw (.invalid reason)

/-- A document that was found somewhere is what its value decodes to. -/
theorem World.document_of_load {world : World} {place : Locator} {loaded : Loaded}
    (h : world.load place = .ok loaded) :
    OpenApi.Document.ofValue loaded.raw = .ok loaded.doc := by
  unfold load at h
  cases hs : world.source place with
  | error e =>
    rw [hs] at h
    cases h
  | ok source =>
    rw [hs] at h
    simp only [bind, Except.bind] at h
    split at h
    · next hl =>
      cases h
      exact Loaded.document_of_ofText hl
    · cases h

/-- Two documents that were loaded with one value are one document. -/
theorem World.eq_of_raw_eq {world other : World} {place elsewhere : Locator} {loaded copy : Loaded}
    (h : world.load place = .ok loaded) (hcopy : other.load elsewhere = .ok copy)
    (hraw : loaded.raw = copy.raw) : loaded = copy := by
  have hdoc := document_of_load h
  have hdoc' := document_of_load hcopy
  rw [hraw, hdoc'] at hdoc
  cases loaded
  cases copy
  cases hraw
  cases hdoc
  rfl

/-- What is remembered of the documents before: the value of one. -/
structure Loader where
  last : Option Value := none
  deriving Repr, Inhabited

namespace Loader

/-- Whether a document has the value that is remembered. -/
def isUnchanged (l : Loader) (loaded : Loaded) : Bool :=
  l.last.any loaded.raw.same

/-- Remembers the value of a document. -/
def remember (_ : Loader) (raw : Value) : Loader := ⟨some raw⟩

/-- Remembers nothing. -/
def forget (_ : Loader) : Loader := ⟨none⟩

end Loader

end TypedRouter.Loading
