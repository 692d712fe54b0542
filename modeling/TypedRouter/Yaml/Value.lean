import TypedRouter.Outline.Value
import TypedRouter.Yaml.Outline

/-!
# YAML texts as JSON values

A text with one document is read as the value of that document; with several documents it is
read as none.
-/

namespace TypedRouter.Yaml

/-- The JSON value that a YAML text holds, if it holds exactly one. -/
def value? (text : String) : Option Json.Value :=
  match Content.ofText text with
  | .single o => o.toValue.toOption
  | _ => none

end TypedRouter.Yaml
