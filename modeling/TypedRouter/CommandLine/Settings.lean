import TypedRouter.CommandLine.Arguments
import TypedRouter.CommandLine.Config
import TypedRouter.Files.Read
import TypedRouter.Generator

/-!
# Settings

What a run is to do.  Each setting is the one of the command line, or else the one of the config
file, or else the usual one if there is any.  Paths in a config file are seen from its
directory.  The config file with the usual name may be missing.
-/

namespace TypedRouter.CommandLine

open Loading

/-- What is wrong with the settings. -/
inductive SettingsError where
  | usage (error : UsageError)
  /-- A config file cannot be read. -/
  | unreadable (path : String) (fault : Files.ReadFault)
  /-- A config file is wrong at this line and column. -/
  | badConfig (path : String) (line column : Nat)
  | noSchema
  | badSchema (text : String) (fault : Url.Fault)
  | noDestination
  | noPeriod
  deriving DecidableEq, Repr, Inhabited

/-- What is wrong with the settings, in words. -/
def SettingsError.words? : SettingsError → Option String
  | .usage error => error.message?
  | .unreadable path fault => some s!"Failed to read `{path}`: {fault.message}"
  | .badConfig path line column =>
    some s!"Failed to parse `{path}`: TOML parse error at line {line}, column {column}"
  | .noSchema => some "a schema is required; pass `--schema`, or set it in config"
  | .badSchema text fault => some s!"Invalid schema URL `{text}`: {fault.message}"
  | .noDestination => some "a destination is required; pass `--destination`, or set it in config"
  | .noPeriod => some "the polling period must be at least 1 second"

/-- The first line of what is printed about the settings. -/
def SettingsError.message? (e : SettingsError) : Option String :=
  e.words?.map fun words =>
    "error: " ++ String.ofList (words.toList.takeWhile (· != '\n'))

/-- What a run is to do. -/
structure Settings where
  verbose : Bool
  job : Job
  /-- The seconds between two looks at a document on the network. -/
  period : Nat
  /-- Whether the run ends after one cycle. -/
  once : Bool
  deriving Repr, Inhabited

namespace Settings

/-- The config file that is read if no other is named. -/
def usualConfig : String := "trellis.toml"

/-- The period that is kept if no other is named. -/
def usualPeriod : Nat := 30

/-- What the config file with a path sets. -/
def readConfig (files : Files.Node) (path : String) (mayLack : Bool) :
    Except SettingsError Config :=
  match files.readText path with
  | .error .missing => if mayLack then .ok {} else .error (.unreadable path .missing)
  | .error fault => .error (.unreadable path fault)
  | .ok text =>
    match Config.ofText text with
    | .ok config => .ok config
    | .error (line, column) => .error (.badConfig path line column)

/-- The config that some arguments name, and the directory that its paths are seen from. -/
def configOf (files : Files.Node) (a : Arguments) : Except SettingsError (Config × String) :=
  match a.config with
  | some path => (readConfig files path false).map (·, Files.Path.parent path)
  | none => (readConfig files usualConfig true).map (·, "")

/-- The schema that is named, seen from a directory if it is a path in a config file. -/
def schemaText (a : Arguments) (config : Config) (directory : String) : Option String :=
  match a.schema, config.schema with
  | some text, _ => some text
  | none, some text =>
    if Locator.isRemoteText text then some text else some (Files.Path.below directory text)
  | none, none => none

/-- The destination that is named, seen from a directory if it is in a config file. -/
def destinationPath (a : Arguments) (config : Config) (directory : String) : Option String :=
  match a.destination, config.destination with
  | some path, _ => some path
  | none, some path => some (Files.Path.below directory path)
  | none, none => none

/-- The settings that arguments and a config file make up. -/
def combine (a : Arguments) (config : Config) (directory : String) :
    Except SettingsError Settings := do
  let some text := schemaText a config directory | throw .noSchema
  let schema ← match Locator.ofText text with
    | .ok schema => pure schema
    | .error fault => throw (.badSchema text fault)
  let some destination := destinationPath a config directory | throw .noDestination
  let period := (a.period.or config.period).getD usualPeriod
  if period = 0 then throw .noPeriod
  return { verbose := a.verbose, job := { schema, destination }, period, once := a.once }

/-- The settings that some words make up, with the config file that they name. -/
def ofWords (files : Files.Node) (words : List String) : Except SettingsError Settings := do
  let a ← (Arguments.ofWords words).mapError .usage
  let (config, directory) ← configOf files a
  combine a config directory

end Settings

end TypedRouter.CommandLine
