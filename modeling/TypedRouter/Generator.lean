import TypedRouter.Files.Write
import TypedRouter.Loading.Loader
import TypedRouter.TypeScript.Module

/-!
# Generating modules

A cycle loads a document and writes its router module, unless the document is the one that was
written last.  The document is remembered once the module is written, and a cycle that fails
leaves the generator as it was.
-/

namespace TypedRouter

open Loading TypeScript Files

/-- A document, and where its module goes. -/
structure Job where
  schema : Locator
  destination : String
  deriving Repr, Inhabited

/-- Why a cycle failed. -/
inductive CycleError where
  | load (error : LoadError)
  | format (collision : Collision)
  | write (error : WriteError)
  deriving Repr, Inhabited

/-- Why a cycle failed, in words. -/
def CycleError.message : CycleError → String
  | .load error => error.message
  | .format collision => collision.message
  | .write error => error.message

/-- What a cycle came to. -/
inductive CycleOutcome where
  /-- The module was written. -/
  | written
  /-- The document is the one that was written last. -/
  | unchanged
  deriving DecidableEq, Repr, Inhabited

/-- What is kept from cycle to cycle. -/
structure Generator where
  loader : Loader := {}
  deriving Repr, Inhabited

/-- What a cycle leaves: its result, the generator, and the files. -/
structure Cycle where
  result : Except CycleError CycleOutcome
  generator : Generator
  files : Node

namespace Generator

/-- Writes the module of a document, and remembers the document if that succeeds. -/
def emit (g : Generator) (files : Node) (destination : String) (loaded : Loaded)
    (disk : Disk := .works) : Cycle :=
  match Module.text (.ofDocument loaded.doc) with
  | .error collision => ⟨.error (.format collision), g, files⟩
  | .ok text =>
    match files.writeText destination text disk with
    | (files, .error e) => ⟨.error (.write e), g, files⟩
    | (files, .ok ()) => ⟨.ok .written, ⟨g.loader.remember loaded.raw⟩, files⟩

/-- Runs a cycle. -/
def cycle (g : Generator) (world : World) (job : Job) (disk : Disk := .works) : Cycle :=
  match world.load job.schema with
  | .error e => ⟨.error (.load e), g, world.files⟩
  | .ok loaded =>
    if g.loader.isUnchanged loaded then ⟨.ok .unchanged, g, world.files⟩
    else g.emit world.files job.destination loaded disk

end Generator

end TypedRouter
