import TypedRouter.Text.Split

/-!
# The formats of documents

A document is written in JSON or YAML, and the ending of its path tells which.  The ending is
what follows the last point of the last part of the path, unless that point leads the part;
empty parts and parts that are a single point do not count.
-/

namespace TypedRouter.Loading

/-- The format of a document. -/
inductive SourceFormat where
  | json
  | yaml
  deriving DecidableEq, Repr, Inhabited

namespace SourceFormat

/-- The parts of a path between its slashes, without empty ones and single points. -/
def pathParts (path : List Char) : List (List Char) :=
  (Text.split '/' path).filter fun part => !(part.isEmpty || part == ['.'])

/-- The ending of the last part of a path. -/
def ending? (path : List Char) : Option (List Char) := do
  let last ← (pathParts path).getLast?
  if last == ['.', '.'] then none
  else
    let ending := (last.reverse.takeWhile (· != '.')).reverse
    if last.length ≤ ending.length + 1 then none else some ending

/-- The format that the ending of a path tells: YAML for the two usual endings, in capitals or
not, and JSON for every other. -/
def ofPath (path : String) : SourceFormat :=
  match ending? path.toList with
  | some ending =>
    let ending := ending.map Char.toLower
    if ending == "yaml".toList || ending == "yml".toList then .yaml else .json
  | none => .json

end SourceFormat

end TypedRouter.Loading
