/-!
# Flags

The flags of the program.  Each has a long name, and most have a letter.  Some take a value.
-/

namespace TypedRouter.CommandLine

/-- A flag. -/
inductive Flag where
  | verbose
  | help
  | version
  | schema
  | destination
  | period
  | once
  | config
  deriving DecidableEq, Repr, Inhabited

namespace Flag

/-- The flags that stand before the command. -/
def beforeCommand : List Flag := [.verbose, .help, .version]

/-- The flags that stand after the command. -/
def afterCommand : List Flag := [.schema, .destination, .period, .once, .config, .verbose, .help]

/-- The long name of a flag. -/
def long : Flag → String
  | .verbose => "verbose"
  | .help => "help"
  | .version => "version"
  | .schema => "schema"
  | .destination => "destination"
  | .period => "period"
  | .once => "once"
  | .config => "config"

/-- The letter of a flag. -/
def letter? : Flag → Option Char
  | .verbose => some 'v'
  | .help => some 'h'
  | .version => some 'V'
  | .schema => some 's'
  | .destination => some 'd'
  | .period => some 'p'
  | .once => none
  | .config => some 'c'

/-- What the value of a flag is called, if it takes one. -/
def valueName? : Flag → Option String
  | .schema => some "SCHEMA"
  | .destination => some "DESTINATION"
  | .period => some "PERIOD"
  | .config => some "CONFIG"
  | _ => none

/-- Whether a flag takes a value. -/
def takesValue (f : Flag) : Bool := f.valueName?.isSome

/-- A flag as messages show it. -/
def text (f : Flag) : String :=
  match f.valueName? with
  | some name => s!"--{f.long} <{name}>"
  | none => s!"--{f.long}"

/-- The flag with a long name. -/
def ofLong? (flags : List Flag) (name : String) : Option Flag :=
  flags.find? (·.long == name)

/-- The flag with a letter. -/
def ofLetter? (flags : List Flag) (c : Char) : Option Flag :=
  flags.find? (·.letter? == some c)

end Flag

end TypedRouter.CommandLine
