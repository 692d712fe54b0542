import TypedRouter.OpenApi.Document
import TypedRouter.OpenApi.Schema.Decode

/-!
# Decoding documents

The fields of each part, in the order they have when the part is written as a list.  Parameters,
request bodies and responses may be references; an object that holds a reference is one,
whatever else it holds.
-/

namespace TypedRouter.OpenApi

open Outline

/-- Reads what a document says about itself. -/
def Info.decode : Outline → Decoded Info :=
  asRecord "Info"
    [.mayLack "title" asText fun x i => { i with title := x },
      .mayLack "description" (optional asText) fun x i => { i with description := x },
      .mayLack "version" asText fun x i => { i with version := x }]
    {}

/-- Reads a reference. -/
def RefOr.decodeReference : Outline → Decoded String :=
  asRecord "Reference" [.needed "$ref" asText fun x _ => x] ""

/-- Reads a part or a reference to it. -/
def RefOr.decode {α : Type} (read : Outline → Decoded α) : Outline → Decoded (RefOr α) :=
  asEither "RefOr" (fun o => (RefOr.decodeReference o).map .reference)
    (fun o => (read o).map .item)

/-- Reads where a parameter is given. -/
def ParameterLocation.decode (o : Outline) : Decoded ParameterLocation :=
  asName ParameterLocation.named .other o

/-- Reads a parameter. -/
def Parameter.decode : Outline → Decoded Parameter :=
  asRecord "Parameter"
    [.needed "name" asText fun x p => { p with name := x },
      .needed "in" ParameterLocation.decode fun x p => { p with location := x },
      .mayLack "required" asBool fun x p => { p with required := x },
      .mayLack "description" (optional asText) fun x p => { p with description := x },
      .mayLack "schema" (optional Schema.decode) fun x p => { p with schema := x }]
    {}

/-- Reads the content of a body in one media type. -/
def MediaType.decode : Outline → Decoded MediaType :=
  asRecord "MediaType"
    [.mayLack "schema" (optional Schema.decode) fun x m => { m with schema := x }]
    {}

/-- Reads a request body. -/
def RequestBody.decode : Outline → Decoded RequestBody :=
  asRecord "RequestBody"
    [.mayLack "description" (optional asText) fun x b => { b with description := x },
      .mayLack "required" asBool fun x b => { b with required := x },
      .mayLack "content" (asMap MediaType.decode) fun x b => { b with content := x }]
    {}

/-- Reads a response. -/
def Response.decode : Outline → Decoded Response :=
  asRecord "Response"
    [.mayLack "description" (optional asText) fun x r => { r with description := x },
      .mayLack "content" (asMap MediaType.decode) fun x r => { r with content := x }]
    {}

/-- Reads an operation. -/
def Operation.decode : Outline → Decoded Operation :=
  asRecord "Operation"
    [.mayLack "operationId" (optional asText) fun x op => { op with operationId := x },
      .mayLack "parameters" (asList (RefOr.decode Parameter.decode)) fun x op =>
        { op with parameters := x },
      .mayLack "requestBody" (optional (RefOr.decode RequestBody.decode)) fun x op =>
        { op with requestBody := x },
      .mayLack "responses" (asMap (RefOr.decode Response.decode)) fun x op =>
        { op with responses := x }]
    {}

/-- Reads the operations of a path. -/
def PathItem.decode : Outline → Decoded PathItem :=
  asRecord "PathItem"
    [.mayLack "get" (optional Operation.decode) fun x item => { item with get := x },
      .mayLack "post" (optional Operation.decode) fun x item => { item with post := x },
      .mayLack "put" (optional Operation.decode) fun x item => { item with put := x },
      .mayLack "patch" (optional Operation.decode) fun x item => { item with patch := x },
      .mayLack "delete" (optional Operation.decode) fun x item => { item with delete := x },
      .mayLack "head" (optional Operation.decode) fun x item => { item with head := x },
      .mayLack "options" (optional Operation.decode) fun x item => { item with options := x }]
    {}

/-- Reads the named parts of a document. -/
def Components.decode : Outline → Decoded Components :=
  asRecord "Components"
    [.mayLack "schemas" (asMap Schema.decode) fun x c => { c with schemas := x }]
    {}

namespace Document

/-- Reads a document. -/
def decode : Outline → Decoded Document :=
  asRecord "Document"
    [.needed "openapi" asText fun x doc => { doc with openapi := x },
      .mayLack "info" (optional Info.decode) fun x doc => { doc with info := x },
      .mayLack "paths" (asMap PathItem.decode) fun x doc => { doc with paths := x },
      .mayLack "components" (optional Components.decode) fun x doc =>
        { doc with components := x }]
    {}

/-- The document that a JSON value holds. -/
def ofValue (v : Json.Value) : Decoded Document :=
  decode (Outline.ofValue v)

/-- The document at the front of a JSON text.  In a text, items that a record has no fields for
are a fault of the text. -/
def ofJson (text : String) : Decoded Document :=
  match decode (Outline.read text.toList).1 with
  | .error ⟨path, .tooLong _⟩ => .error ⟨path, .fault .malformed⟩
  | result => result

end Document

end TypedRouter.OpenApi
