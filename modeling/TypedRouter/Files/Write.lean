import TypedRouter.Files.Tree
import TypedRouter.Text.Utf8

/-!
# Writing files

A file is written together with the directories that are missing on the way to it.  Two things
can be in the way: a file where a directory is needed, and a directory where the file goes.

The disk can fail too.  A file is emptied when it is opened and then filled, so a disk that takes
only a part of the bytes leaves a file with this part.
-/

namespace TypedRouter.Files

/-- Why a file was not written. -/
inductive WriteError where
  /-- A file is in the way of this directory. -/
  | blocked (directory : String)
  /-- The path is not one of a file. -/
  | unwritable (path : String)
  deriving DecidableEq, Repr, Inhabited

/-- Why a file was not written, in words. -/
def WriteError.message : WriteError → String
  | .blocked directory => s!"failed to create directory `{directory}`"
  | .unwritable path => s!"failed to write `{path}`"

/-- What a disk does with a file that is written to it. -/
inductive Disk where
  /-- It takes the file. -/
  | works
  /-- It does not let the file be opened. -/
  | refuses
  /-- It takes so many bytes of the file and no more. -/
  | stopsAfter (room : Nat)
  deriving DecidableEq, Repr, Inhabited

namespace Disk

/-- The bytes that a disk takes of a file, if it lets the file be opened. -/
def taken? : Disk → List UInt8 → Option (List UInt8)
  | .works, content => some content
  | .refuses, _ => none
  | .stopsAfter room, content => some (content.take room)

/-- Whether a disk takes all bytes of a file. -/
def takesAll : Disk → List UInt8 → Bool
  | .works, _ => true
  | .refuses, _ => false
  | .stopsAfter room, content => content.length ≤ room

end Disk

namespace Node

/-- Makes a directory with a path, and those on the way. -/
def makeDirectory (n : Node) (path : String) : Node × Option (List String) :=
  n.makeDirectories [] (Path.moves path)

/-- Removes what a path denotes, if it denotes anything below the top. -/
def removePath (n : Node) (path : String) : Node :=
  match n.walk [] (Path.moves path) with
  | none => n
  | some place => if place.isEmpty then n else n.remove place

/-- Writes a file, and makes the directories that are missing on the way. -/
def writeBytes (n : Node) (path : String) (content : List UInt8) (disk : Disk := .works) :
    Node × Except WriteError Unit :=
  let parent := Path.parent path
  match n.makeDirectory parent with
  | (n, none) => (n, .error (.blocked parent))
  | (n, some _) =>
    match (disk.taken? content).bind (n.write? path) with
    | some n => (n, if disk.takesAll content then .ok () else .error (.unwritable path))
    | none => (n, .error (.unwritable path))

/-- Writes a text to a file, and makes the directories that are missing on the way. -/
def writeText (n : Node) (path text : String) (disk : Disk := .works) :
    Node × Except WriteError Unit :=
  n.writeBytes path (Text.Utf8.encode text.toList) disk

end Node

end TypedRouter.Files
