import TypedRouter.Text.Split

/-!
# Paths

A path is a text of names between slashes.  Empty names and single points do not count, and two
points go back up.  What a path denotes is found by walking, so here it is only taken apart.
-/

namespace TypedRouter.Files.Path

open Text

/-- A step of a walk. -/
inductive Move where
  /-- To the directory that the current one is in. -/
  | up
  /-- To what has this name in the current directory. -/
  | into (name : String)
  deriving DecidableEq, Repr, Inhabited

/-- Whether a piece of a path does not count. -/
def isIdle (piece : List Char) : Bool :=
  piece == [] || piece == ['.']

/-- The walk that a path describes. -/
def moves (path : String) : List Move :=
  ((split '/' path.toList).filter fun piece => !isIdle piece).map fun piece =>
    if piece = ['.', '.'] then .up else .into (String.ofList piece)

/-- The walk to a file: the way to its directory and its name.  A path that ends in a slash or
in points denotes no file. -/
def file? (path : String) : Option (List Move × String) := do
  let last ← (split '/' path.toList).getLast?
  if isIdle last || last == ['.', '.'] then none
  else some ((moves path).dropLast, String.ofList last)

/-- Pieces without those at the end that do not count; the first piece stays. -/
def trimEnd (pieces : List (List Char)) : List (List Char) :=
  pieces.take 1 ++ ((pieces.drop 1).reverse.dropWhile isIdle).reverse

/-- Pieces as a path. -/
def ofPieces (pieces : List (List Char)) : String :=
  if pieces = [[]] then "/" else String.ofList (join '/' pieces)

/-- The path without its last piece that counts; it is empty if there is no other. -/
def parent (path : String) : String :=
  match trimEnd (split '/' path.toList) with
  | [] => ""
  | [_] => ""
  | pieces => ofPieces (trimEnd pieces.dropLast)

/-- A path as it is seen from a directory: one that starts with a slash stays as it is. -/
def below (directory path : String) : String :=
  if directory.isEmpty || path.toList.head? == some '/' then path
  else if directory.toList.getLast? == some '/' then directory ++ path
  else directory ++ "/" ++ path

end TypedRouter.Files.Path
