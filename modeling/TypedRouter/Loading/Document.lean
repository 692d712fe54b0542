import TypedRouter.Loading.Source
import TypedRouter.Loading.Version
import TypedRouter.Yaml.Value

/-!
# Loaded documents

A source text is read in three steps: as a JSON value, whose version is checked, and which is
then decoded.  A version that is a number counts as its text, also in the value that is kept.
-/

namespace TypedRouter.Loading

open Json OpenApi

/-- A document with the value it was decoded from. -/
structure Loaded where
  raw : Value
  doc : Document
  deriving Repr, Inhabited

/-- Why a text is no document of version 3.1. -/
inductive InvalidDocument where
  /-- The text is no JSON, because of this fault. -/
  | notJson (fault : Fault)
  /-- The text is no single YAML document that JSON can hold. -/
  | notYaml
  /-- The version is missing or not accepted. -/
  | version (error : VersionError)
  /-- The value does not decode. -/
  | shape (problem : Problem)
  deriving DecidableEq, Repr, Inhabited

/-- Why a text is no document of version 3.1, in words. -/
def InvalidDocument.message : InvalidDocument → String
  | .notJson _ => "document isn\x27t valid JSON or YAML"
  | .notYaml => "document isn\x27t valid JSON or YAML"
  | .version .missing => "invalid OpenAPI document: missing `openapi` version field"
  | .version (.unsupported v) => "only OpenAPI 3.1 is supported, received " ++ v
  | .shape _ => "document doesn\x27t match the OpenAPI structure"

namespace Loaded

/-- The document that a JSON value holds. -/
def ofValue (raw : Value) : Except InvalidDocument Loaded :=
  let raw := versionAsText raw
  match checkVersion raw with
  | .error e => .error (.version e)
  | .ok () =>
    match Document.ofValue raw with
    | .error p => .error (.shape p)
    | .ok doc => .ok ⟨raw, doc⟩

/-- The JSON value that a source text holds. -/
def valueOf (format : SourceFormat) (source : String) : Except InvalidDocument Value :=
  match format with
  | .json =>
    match Value.ofText source with
    | .ok v => .ok v
    | .error f => .error (.notJson f)
  | .yaml =>
    match Yaml.value? source with
    | some v => .ok v
    | none => .error .notYaml

/-- The document that a source text holds. -/
def ofText (format : SourceFormat) (source : String) : Except InvalidDocument Loaded := do
  ofValue (← valueOf format source)

/-- A loaded document is what its value decodes to. -/
theorem document_of_ofValue {raw : Value} {loaded : Loaded} (h : ofValue raw = .ok loaded) :
    Document.ofValue loaded.raw = .ok loaded.doc := by
  unfold ofValue at h
  dsimp only at h
  split at h
  · cases h
  · split at h
    · cases h
    · next doc hdoc =>
      cases h
      exact hdoc

/-- A document that was loaded from a text is what its value decodes to. -/
theorem document_of_ofText {format : SourceFormat} {source : String} {loaded : Loaded}
    (h : ofText format source = .ok loaded) : Document.ofValue loaded.raw = .ok loaded.doc := by
  unfold ofText at h
  cases hv : valueOf format source with
  | error e =>
    rw [hv] at h
    cases h
  | ok raw =>
    rw [hv] at h
    exact document_of_ofValue h

end Loaded

end TypedRouter.Loading

namespace TypedRouter.OpenApi.Document

/-- Why a YAML text does not decode: it is not well formed, or a part of it is the problem. -/
inductive YamlError where
  | malformed
  | problem (path : List Step)
  deriving DecidableEq, Repr, Inhabited

/-- The document that a YAML text holds.  Several documents are a problem of the whole text. -/
def ofYaml (text : String) : Except YamlError Document :=
  match Yaml.Content.ofText text with
  | .malformed => .error .malformed
  | .single o =>
    match decode o with
    | .ok doc => .ok doc
    | .error p => .error (.problem p.path)
  | .several o =>
    match decode o with
    | .ok _ => .error (.problem [])
    | .error p => .error (.problem p.path)

end TypedRouter.OpenApi.Document
