import TypedRouter.Yaml.Cursor

/-!
# YAML tokens

The parts that a YAML text is made of: marks for documents and collections, the names and tags
that lead a part, and scalars.
-/

namespace TypedRouter.Yaml

/-- How a scalar is written: bare, or quoted or indented in some way. -/
inductive Style where
  | plain
  | marked
  deriving DecidableEq, Repr, Inhabited

/-- A part of a YAML text. -/
inductive Token where
  | version (major minor : Nat)
  | tagDirective (handle expansion : String)
  | documentStart
  | documentEnd
  | blockSequenceStart
  | blockMappingStart
  | blockEnd
  | flowSequenceStart
  | flowSequenceEnd
  | flowMappingStart
  | flowMappingEnd
  | blockEntry
  | flowEntry
  | key
  | value
  | alias (name : String)
  | anchor (name : String)
  | tag (handle suffix : String)
  | scalar (style : Style) (text : String)
  | streamEnd
  deriving DecidableEq, Repr, Inhabited

end TypedRouter.Yaml
