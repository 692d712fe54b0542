import TypedRouter.OpenApi.Path
import TypedRouter.Text.Blank

/-!
# References to component schemas

A reference names a component schema when it points below `#/components/schemas`, with one name
after that.  In the name `~1` stands for a slash and `~0` for a tilde; `~1` is undone first, so
`~01` stands for `~1`.
-/

namespace TypedRouter.OpenApi

/-- Replaces every occurrence of a tilde and the character after it. -/
def replaceTilde (after : Char) (char : Char) : List Char → List Char
  | '~' :: c :: rest =>
    if c = after then char :: replaceTilde after char rest
    else '~' :: replaceTilde after char (c :: rest)
  | c :: rest => c :: replaceTilde after char rest
  | [] => []

/-- The name that a part of a reference stands for. -/
def unescapeName (cs : List Char) : List Char :=
  replaceTilde '0' '~' (replaceTilde '1' '/' cs)

/-- The component that a reference names, if it names one. -/
def componentChars? (reference : List Char) : Option (List Char) :=
  match Text.trim reference with
  | '#' :: '/' :: pointer =>
    match Text.split '/' pointer with
    | [first, second, name] =>
      if first = "components".toList ∧ second = "schemas".toList ∧ name ≠ [] then
        some (unescapeName name)
      else none
    | _ => none
  | _ => none

/-- The component that a reference names, if it names one. -/
def componentName? (reference : String) : Option String :=
  (componentChars? reference.toList).map String.ofList

end TypedRouter.OpenApi
