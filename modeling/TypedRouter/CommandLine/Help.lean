import TypedRouter.CommandLine.Arguments

/-!
# Help

What is printed instead of a run, if that is asked for.
-/

namespace TypedRouter.CommandLine

/-- What a flag is for. -/
def Flag.purpose : Flag → String
  | .verbose => "Enable verbose logging"
  | .help => "Print help"
  | .version => "Print version"
  | .schema => "The OpenAPI document: an `http(s)://` URL, or a path to a `.json` or `.yaml` file"
  | .destination => "The generated declaration file"
  | .period => "How often to poll a remote schema, in seconds. Defaults to 30"
  | .once => "Generate once, and exit instead of watching for changes"
  | .config =>
    "The config file. Defaults to `trellis.toml` in the current directory, if it exists"

namespace Help

/-- A flag on a line of its own. -/
def flagLine (f : Flag) : String :=
  let letter := match f.letter? with
    | some c => String.ofList ['-', c, ',', ' ']
    | none => "    "
  "  " ++ letter ++ f.text ++ "\n          " ++ f.purpose ++ "\n"

/-- A use of the program, with its flags. -/
def usage (words : String) (flags : List Flag) : String :=
  "Usage: " ++ words ++ "\n\nOptions:\n" ++ String.join (flags.map flagLine)

/-- What the program is for, and how it is used. -/
def text : String :=
  "Generates typed router declarations from OpenAPI schemas, and keeps them up to date\n\n" ++
    usage "trellis [OPTIONS] <COMMAND>" Flag.beforeCommand ++ "\n" ++
    usage "trellis types [OPTIONS]" Flag.afterCommand

/-- The version of the program. -/
def version : String := "trellis 0.1.0\n"

end Help

end TypedRouter.CommandLine
