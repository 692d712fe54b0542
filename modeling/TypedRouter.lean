import TypedRouter.Client.Call
import TypedRouter.Client.Error
import TypedRouter.Client.Procedure
import TypedRouter.Client.Query
import TypedRouter.CommandLine.Arguments
import TypedRouter.CommandLine.Config
import TypedRouter.CommandLine.Flag
import TypedRouter.CommandLine.Help
import TypedRouter.CommandLine.Settings
import TypedRouter.Decimal.Binary64
import TypedRouter.Decimal.Rounding
import TypedRouter.Decimal.Shortest
import TypedRouter.Files.Path
import TypedRouter.Files.Read
import TypedRouter.Files.Tree
import TypedRouter.Files.Write
import TypedRouter.Generator
import TypedRouter.Http.Exchange
import TypedRouter.Http.Header
import TypedRouter.Http.Status
import TypedRouter.Json.Number
import TypedRouter.Json.Reader
import TypedRouter.Json.Value
import TypedRouter.Json.Writer
import TypedRouter.Loading.Document
import TypedRouter.Loading.Loader
import TypedRouter.Loading.Locator
import TypedRouter.Loading.Source
import TypedRouter.Loading.Version
import TypedRouter.Main
import TypedRouter.OpenApi.Document
import TypedRouter.OpenApi.Document.Decode
import TypedRouter.OpenApi.Method
import TypedRouter.OpenApi.Path
import TypedRouter.OpenApi.Reference
import TypedRouter.OpenApi.Schema
import TypedRouter.OpenApi.Schema.Decode
import TypedRouter.OrderedMap
import TypedRouter.Outline.Basic
import TypedRouter.Outline.Decoder
import TypedRouter.Outline.Problem
import TypedRouter.Outline.Value
import TypedRouter.Router.Procedure
import TypedRouter.Router.Spec
import TypedRouter.Router.Tree
import TypedRouter.Text.Blank
import TypedRouter.Text.CapitalTable
import TypedRouter.Text.CodePoints
import TypedRouter.Text.Described
import TypedRouter.Text.Digits
import TypedRouter.Text.Identifier
import TypedRouter.Text.IdentifierTable
import TypedRouter.Text.Lowercase
import TypedRouter.Text.PrintableTable
import TypedRouter.Text.Quoted
import TypedRouter.Text.Split
import TypedRouter.Text.Utf8
import TypedRouter.Toml.Document
import TypedRouter.Toml.Statement
import TypedRouter.Toml.Token
import TypedRouter.Toml.Value
import TypedRouter.TypeScript.Header
import TypedRouter.TypeScript.Module
import TypedRouter.TypeScript.Router
import TypedRouter.TypeScript.Type
import TypedRouter.Types.Expr
import TypedRouter.Types.Resolve
import TypedRouter.Types.Text
import TypedRouter.Url.Address
import TypedRouter.Url.Basic
import TypedRouter.Url.Domain
import TypedRouter.Url.Extend
import TypedRouter.Url.Form
import TypedRouter.Url.Percent
import TypedRouter.Url.Punycode
import TypedRouter.Url.Reader
import TypedRouter.Yaml.Cursor
import TypedRouter.Yaml.Node
import TypedRouter.Yaml.Outline
import TypedRouter.Yaml.Spelling
import TypedRouter.Yaml.Token
import TypedRouter.Yaml.Token.Lexer
import TypedRouter.Yaml.Token.Scalar
import TypedRouter.Yaml.Value
import TypedRouter.Proofs.Router.Tree
import TypedRouter.Proofs.Router.Leaves
import TypedRouter.Proofs.Router.Grouping
import TypedRouter.Proofs.Types.Meaning
import TypedRouter.Proofs.Files.Write
import TypedRouter.Proofs.Generator.Run
import TypedRouter.Proofs.Generator.Destination
import TypedRouter.Proofs.Types.Parts
import TypedRouter.Proofs.Router.References
import TypedRouter.Proofs.Generator.Memory
import TypedRouter.Proofs.Text.Alphabet
import TypedRouter.Proofs.Text.Identifier
import TypedRouter.Proofs.TypeScript.Names
import TypedRouter.Proofs.TypeScript.Word
import TypedRouter.Proofs.TypeScript.Legible
import TypedRouter.Proofs.TypeScript.Router
import TypedRouter.Proofs.Client.CallPath
import TypedRouter.Proofs.Router.Independence
import TypedRouter.Proofs.TypeScript.References
import TypedRouter.Proofs.Files.Path
import TypedRouter.Proofs.Files.Frame
import TypedRouter.Proofs.Generator.Effects
import TypedRouter.Proofs.Router.Shape
import TypedRouter.Proofs.Router.Adjacency
import TypedRouter.Proofs.TypeScript.Comments
import TypedRouter.Proofs.Json.Reader
import TypedRouter.Proofs.OpenApi.Sources
import TypedRouter.Proofs.Router.Methods
import TypedRouter.Proofs.Text.Utf8
import TypedRouter.Proofs.Url.Percent
import TypedRouter.Proofs.Url.Segments
import TypedRouter.Proofs.Url.Extend
import TypedRouter.Proofs.Client.Path
import TypedRouter.Proofs.Url.Form
import TypedRouter.Proofs.Client.Query
import TypedRouter.Proofs.TypeScript.Collisions
import TypedRouter.Proofs.TypeScript.Tokens
import TypedRouter.Proofs.TypeScript.Display
import TypedRouter.Proofs.TypeScript.Literals
import TypedRouter.Proofs.Client.Outcome
import TypedRouter.Proofs.Types.Normal
import TypedRouter.Proofs.Text.Trim
import TypedRouter.Proofs.OpenApi.Path
import TypedRouter.Proofs.OpenApi.Reference
import TypedRouter.Proofs.Client.Headers
import TypedRouter.Proofs.Text.Digits
import TypedRouter.Proofs.Loading.Version
import TypedRouter.Proofs.CommandLine.Arguments
import TypedRouter.Proofs.CommandLine.Settings
