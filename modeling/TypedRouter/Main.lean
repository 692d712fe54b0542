import TypedRouter.CommandLine.Help
import TypedRouter.CommandLine.Settings

/-!
# The program

Reads its settings, and then generates the router module once, or whenever the document may
have changed.  This module only moves bytes: what is written and what is printed is decided by
the modules below it.  No server is reached from here, so a document on the network counts as
one that does not answer.
-/

namespace TypedRouter.Main

open CommandLine Loading

/-- Adds a file of the disk to a tree, if there is one.  A file that cannot be read is added as
a directory, which cannot be read either. -/
def addFile (files : Files.Node) (path : String) : IO Files.Node := do
  try
    return (files.writeBytes path (← IO.FS.readBinFile path).toList).1
  catch
    | .noFileOrDirectory _ _ _ => return files
    | _ => return (files.makeDirectory path).1

/-- The files that a document is loaded from. -/
def filesOf : Locator → IO Files.Node
  | .file path => addFile .empty path
  | .url _ => return .empty

/-- Writes a file of a tree to the disk. -/
def saveFile (files : Files.Node) (path : String) : IO Unit := do
  let parent := Files.Path.parent path
  unless parent.isEmpty do IO.FS.createDirAll parent
  IO.FS.writeBinFile path ⟨((files.read? path).getD []).toArray⟩

/-- Runs a cycle on the disk, and says whether it succeeded.  Where the disk refuses the module,
the generator stays as it was. -/
def runCycle (generator : Generator) (job : Job) : IO (Generator × Bool) := do
  let c := generator.cycle ⟨← filesOf job.schema, .unreachable⟩ job
  match c.result with
  | .error e =>
    IO.eprintln e.message
    return (c.generator, false)
  | .ok .unchanged => return (c.generator, true)
  | .ok .written =>
    try
      saveFile c.files job.destination
      return (c.generator, true)
    catch _ =>
      IO.eprintln (Files.WriteError.unwritable job.destination).message
      return (generator, false)

/-- Runs cycles with a pause after each. -/
partial def watch (generator : Generator) (job : Job) (seconds : Nat) : IO Unit := do
  let (generator, _) ← runCycle generator job
  IO.sleep (UInt32.ofNat (min (seconds * 1000) (UInt32.size - 1)))
  watch generator job seconds

/-- The settings that the words of a command line make up. -/
def readSettings (words : List String) : IO (Except SettingsError Settings) := do
  let config := match Arguments.ofWords words with
    | .ok a => a.config.getD Settings.usualConfig
    | .error _ => Settings.usualConfig
  return Settings.ofWords (← addFile .empty config) words

/-- Runs with some settings.  A document in a file is looked at every second. -/
def runWith (settings : Settings) : IO UInt32 := do
  if settings.once then
    let (_, succeeded) ← runCycle {} settings.job
    return if succeeded then 0 else 1
  else
    watch {} settings.job (if settings.job.schema.isRemote then settings.period else 1)
    return 0

/-- Prints why there are no settings, or what is asked for instead. -/
def report : SettingsError → IO UInt32
  | .usage .showHelp => do
    IO.print Help.text
    return 0
  | .usage .showVersion => do
    IO.print Help.version
    return 0
  | e => do
    IO.eprint (e.message?.elim Help.text (· ++ "\n"))
    return 2

/-- Runs the program on the words of its command line. -/
def run (words : List String) : IO UInt32 := do
  match ← readSettings words with
  | .ok settings => runWith settings
  | .error e => report e

end TypedRouter.Main

/-- The program. -/
def main (words : List String) : IO UInt32 :=
  TypedRouter.Main.run words
