import TypedRouter.Files.Tree
import TypedRouter.Text.Utf8

/-!
# Reading files

The text of a file, or what keeps it from being read.
-/

namespace TypedRouter.Files

/-- What keeps a file from being read. -/
inductive ReadFault where
  /-- Nothing has this path. -/
  | missing
  /-- A file is where a directory would have to be. -/
  | notDirectory
  /-- The path is one of a directory. -/
  | isDirectory
  /-- The bytes are not text. -/
  | notText
  deriving DecidableEq, Repr, Inhabited

/-- What keeps a file from being read, in words. -/
def ReadFault.message : ReadFault → String
  | .missing => "No such file or directory (os error 2)"
  | .notDirectory => "Not a directory (os error 20)"
  | .isDirectory => "Is a directory (os error 21)"
  | .notText => "stream did not contain valid UTF-8"

namespace Node

/-- What a walk from a directory comes to, or what stops it. -/
def follow (n : Node) (here : List String) : List Path.Move → Except ReadFault Node
  | [] => match n.at? here with
    | some found => .ok found
    | none => .error .missing
  | move :: rest =>
    match n.at? here with
    | none => .error .missing
    | some (.file _) => .error .notDirectory
    | some (.directory _) =>
      match move with
      | .up => follow n here.dropLast rest
      | .into name => follow n (here ++ [name]) rest

/-- The text of the file that a path denotes. -/
def readText (n : Node) (path : String) : Except ReadFault String := do
  if path.isEmpty then throw .missing
  match ← n.follow [] (Path.moves path) with
  | .directory _ => throw .isDirectory
  | .file content =>
    if (Path.file? path).isNone then throw .notDirectory
    match Text.Utf8.decode? content with
    | some cs => return String.ofList cs
    | none => throw .notText

end Node

end TypedRouter.Files
