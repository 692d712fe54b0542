import TypedRouter.Router.Spec
import TypedRouter.Text.Blank
import TypedRouter.TypeScript.Header
import TypedRouter.TypeScript.Router

/-!
# Router modules

The module of a specification is the header, an exported alias for each declaration, in order,
and the alias of the router.  Two of these names may become the same identifier; then there is
no module, and the first name that finds its identifier taken is reported with the one that took
it.

An alias is led by its description in a block comment, if it has one that is not blank.  A
description cannot end its comment: the mark that would is written with a backslash inside.
-/

namespace TypedRouter.TypeScript

open Router Text

/-- An exported name for a type. -/
structure Alias where
  name : String
  type : Ty
  description : Option String
  deriving Repr, Inhabited

/-- A text with a backslash inside each mark that would end a comment. -/
def withoutCommentEnd : List Char → List Char
  | [] => []
  | [c] => [c]
  | c :: d :: rest =>
    if c = '*' ∧ d = '/' then '*' :: '\\' :: '/' :: withoutCommentEnd rest
    else c :: withoutCommentEnd (d :: rest)

/-- The comment for a description, with the space after it. -/
def commentChars : Option String → List Char
  | none => []
  | some description =>
    match trim description.toList with
    | [] => []
    | text => "/** ".toList ++ (withoutCommentEnd text ++ " */ ".toList)

/-- The text of an alias. -/
def Alias.chars (a : Alias) : List Char :=
  commentChars a.description ++
    ("export type ".toList ++
      (nameChars a.name ++ (" = ".toList ++ (a.type.chars 0 ++ [';', '\n']))))

/-- Two names that become one identifier. -/
structure Collision where
  /-- The name that took the identifier. -/
  holder : String
  /-- The name that finds it taken. -/
  name : String
  /-- The identifier. -/
  identifier : String
  deriving DecidableEq, Repr, Inhabited

/-- What could not be written. -/
def Collision.message (_ : Collision) : String :=
  "failed to format router declarations"

/-- Why it could not be written. -/
def Collision.cause (c : Collision) : String :=
  s!"`{c.holder}` and `{c.name}` are both exported as `{c.identifier}`"

namespace Module

/-- The name of the router's alias. -/
def routerName : String := "ApiRouter"

/-- The first of some names whose identifier is taken, by one of the names before it or by one
of the taken names. -/
def firstCollision? (taken : List String) : List String → Option Collision
  | [] => none
  | name :: rest =>
    match taken.find? fun other => Identifier.sanitize other = Identifier.sanitize name with
    | some other => some ⟨other, name, Identifier.sanitize name⟩
    | none => firstCollision? (taken ++ [name]) rest

/-- What the router's alias is described by: the title of the document, or else its
description. -/
def summary (spec : Spec) : Option String :=
  spec.info.bind fun info => if info.title.isEmpty then info.description else some info.title

/-- The aliases of a specification. -/
def aliases (spec : Spec) : List Alias :=
  spec.declarations.map (fun d => ⟨d.name, .ofExpr d.type, d.description⟩) ++
    [⟨routerName, routerType spec.root, summary spec⟩]

/-- The text of some aliases. -/
def bodyChars (aliases : List Alias) : List Char :=
  aliases.flatMap Alias.chars

/-- What follows the header in the module of a specification. -/
def body (spec : Spec) : Except Collision String :=
  match firstCollision? [routerName] (spec.declarations.map Declaration.name) with
  | some c => .error c
  | none => .ok (String.ofList ('\n' :: bodyChars (aliases spec)))

/-- The module of a specification. -/
def text (spec : Spec) : Except Collision String :=
  (body spec).map (Header.text ++ ·)

end Module

end TypedRouter.TypeScript
