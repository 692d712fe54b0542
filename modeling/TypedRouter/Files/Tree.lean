import TypedRouter.Files.Path
import TypedRouter.OrderedMap

/-!
# File trees

A file tree holds files and directories by name.  The only obstacles are these: a file cannot be
walked through, and a directory cannot be read or written.

Places are lists of names, from the top down.  A path is walked from the top; the top is its own
parent.
-/

namespace TypedRouter.Files

open TypedRouter.Files.Path (Move)

/-- A file with its bytes, or a directory. -/
inductive Node where
  | file (content : List UInt8)
  | directory (entries : List (String × Node))
  deriving Repr, Inhabited

namespace Node

/-- A directory without entries. -/
def empty : Node := .directory []

/-- What is at a place. -/
def at? : Node → List String → Option Node
  | n, [] => some n
  | .directory entries, name :: rest => (entries.lookup name).bind (at? · rest)
  | .file _, _ :: _ => none

/-- Whether there is a directory at a place. -/
def isDirectory (n : Node) (place : List String) : Bool :=
  match n.at? place with
  | some (.directory _) => true
  | _ => false

/-- The tree with something put at a place whose directory is there. -/
def put (new : Node) : List String → Node → Node
  | [], _ => new
  | name :: rest, .directory entries =>
    .directory (OrderedMap.set name (put new rest ((entries.lookup name).getD empty)) entries)
  | _ :: _, .file content => .file content

/-- The tree without what is at a place. -/
def remove : List String → Node → Node
  | [], n => n
  | [name], .directory entries => .directory (entries.filter fun e => e.1 != name)
  | name :: rest, .directory entries =>
    match entries.lookup name with
    | some child => .directory (OrderedMap.set name (remove rest child) entries)
    | none => .directory entries
  | _, .file content => .file content

/-- The place that a walk from a directory leads to.  Every step has to start in a directory. -/
def walk (n : Node) : List String → List Move → Option (List String)
  | here, [] => some here
  | here, move :: rest =>
    if n.isDirectory here then
      match move with
      | .up => walk n here.dropLast rest
      | .into name => walk n (here ++ [name]) rest
    else none

/-- What a path denotes. -/
def find? (n : Node) (path : String) : Option Node :=
  if path.isEmpty then none else (n.walk [] (Path.moves path)).bind n.at?

/-- The bytes of the file that a path denotes. -/
def read? (n : Node) (path : String) : Option (List UInt8) := do
  let (way, name) ← Path.file? path
  let here ← n.walk [] way
  match n.at? (here ++ [name]) with
  | some (.file content) => some content
  | _ => none

/-- Walks from a directory, and makes the directories that are missing.  Where a file is in the
way there is no place, and what was made stays. -/
def makeDirectories (n : Node) (here : List String) : List Move → Node × Option (List String)
  | [] => (n, some here)
  | .up :: rest => n.makeDirectories here.dropLast rest
  | .into name :: rest =>
    let place := here ++ [name]
    match n.at? place with
    | some (.directory _) => n.makeDirectories place rest
    | some (.file _) => (n, none)
    | none => (put empty place n).makeDirectories place rest

/-- The tree after writing a file whose directory is there, unless there is a directory of its
name. -/
def write? (n : Node) (path : String) (content : List UInt8) : Option Node := do
  let (way, name) ← Path.file? path
  let here ← n.walk [] way
  if n.isDirectory here && !n.isDirectory (here ++ [name]) then
    some (put (.file content) (here ++ [name]) n)
  else none

end Node

end TypedRouter.Files
