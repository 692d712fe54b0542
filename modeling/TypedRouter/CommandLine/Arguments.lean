import TypedRouter.CommandLine.Flag
import TypedRouter.Json.Number
import TypedRouter.Text.Digits

/-!
# Arguments

The words of a command line are flags, their values, and the command.  A word with two hyphens
is a flag by its long name, and the value may follow an equals sign.  A word with one hyphen is
a row of letters, of which the first that takes a value takes the rest of the word.  After a word
that is two hyphens only, nothing is a flag or a value any more.

A value is looked at when the next flag comes, or at the end.  So a word that cannot stand where
it does is reported before a value that is no good.
-/

namespace TypedRouter.CommandLine

open Text

/-- What is wrong with a command line, or asked for instead of a run. -/
inductive UsageError where
  | showHelp
  | showVersion
  /-- There are no words. -/
  | nothing
  /-- There are flags but no command. -/
  | noCommand
  /-- There is no command of this name. -/
  | unknownCommand (name : String)
  /-- A word cannot stand where it does. -/
  | unknownWord (word : String)
  /-- A flag lacks its value. -/
  | noValue (flag : Flag)
  /-- A value is not one for this flag. -/
  | badValue (flag : Flag) (value reason : String)
  /-- A flag has a value but takes none. -/
  | needlessValue (flag : Flag) (value : String)
  /-- A flag is set twice. -/
  | repeated (flag : Flag)
  deriving DecidableEq, Repr, Inhabited

/-- What is wrong with a command line, in words.  What is asked for instead of a run has no
message. -/
def UsageError.message? : UsageError → Option String
  | .showHelp => none
  | .showVersion => none
  | .nothing => none
  | .noCommand => some "\x27trellis\x27 requires a subcommand but one was not provided"
  | .unknownCommand name => some ("unrecognized subcommand \x27" ++ name ++ "\x27")
  | .unknownWord word => some ("unexpected argument \x27" ++ word ++ "\x27 found")
  | .noValue flag =>
    some ("a value is required for \x27" ++ flag.text ++ "\x27 but none was supplied")
  | .badValue flag value reason =>
    some ("invalid value \x27" ++ value ++ "\x27 for \x27" ++ flag.text ++ "\x27: " ++ reason)
  | .needlessValue flag value =>
    some ("unexpected value \x27" ++ value ++ "\x27 for \x27" ++ flag.text ++
      "\x27 found; no more were expected")
  | .repeated flag =>
    some ("the argument \x27" ++ flag.text ++ "\x27 cannot be used multiple times")

/-- What the flags of a command line set. -/
structure Arguments where
  verbose : Bool := false
  once : Bool := false
  schema : Option String := none
  destination : Option String := none
  period : Option Nat := none
  config : Option String := none
  deriving DecidableEq, Repr, Inhabited

namespace Arguments

/-- The count that more digits make of a count, or why they make none.  They are read one after the
other, so the first fault is the one that counts: a character that is no digit, or a digit that
makes the count too large. -/
def countFrom (n : Nat) : List Char → Except String Nat
  | [] => .ok n
  | c :: rest =>
    match digitValue? 10 c with
    | none => .error "invalid digit found in string"
    | some d =>
      if n * 10 + d ≤ Json.Number.maxInt then countFrom (n * 10 + d) rest
      else .error "number too large to fit in target type"

/-- The count that a text denotes, or why it denotes none. -/
def count (text : String) : Except String Nat :=
  match text.toList with
  | [] => .error "cannot parse integer from empty string"
  | ['+'] => .error "invalid digit found in string"
  | '+' :: digits => countFrom 0 digits
  | digits => countFrom 0 digits

/-- What has been set so far. -/
structure Progress where
  arguments : Arguments := {}
  /-- The flags that were set. -/
  set : List Flag := []
  /-- The last flag that takes a value, and its value if that has come. -/
  pending : Option (Flag × Option String) := none
  deriving Inhabited

/-- Sets a flag to a value. -/
def assign (a : Arguments) (flag : Flag) (value : String) : Except UsageError Arguments :=
  match flag with
  | .schema => .ok { a with schema := some value }
  | .destination =>
    if value.isEmpty then .error (.noValue flag) else .ok { a with destination := some value }
  | .config => if value.isEmpty then .error (.noValue flag) else .ok { a with config := some value }
  | .period =>
    match count value with
    | .ok n => .ok { a with period := some n }
    | .error reason => .error (.badValue flag value reason)
  | .verbose => .ok { a with verbose := true }
  | .once => .ok { a with once := true }
  | .help => .error .showHelp
  | .version => .error .showVersion

namespace Progress

/-- Sets a flag to a value, unless it was set before. -/
def setFlag (p : Progress) (flag : Flag) (value : String) : Except UsageError Progress := do
  if p.set.contains flag then throw (.repeated flag)
  return { p with arguments := ← p.arguments.assign flag value, set := flag :: p.set }

/-- Looks at the value that is pending. -/
def settle (p : Progress) : Except UsageError Progress :=
  match p.pending with
  | none => .ok p
  | some (flag, none) => .error (.noValue flag)
  | some (flag, some value) => ({ p with pending := none } : Progress).setFlag flag value

/-- Meets a flag, perhaps with a value in the same word. -/
def meet (p : Progress) (flag : Flag) (value : Option String) : Except UsageError Progress := do
  let p ← p.settle
  if flag.takesValue then
    match value with
    | some value => p.setFlag flag value
    | none => return { p with pending := some (flag, none) }
  else p.setFlag flag ""

/-- Meets a long flag. -/
def meetLong (flags : List Flag) (p : Progress) (word : List Char) :
    Except UsageError Progress :=
  let name := String.ofList (word.takeWhile (· != '='))
  let value := match word.dropWhile (· != '=') with
    | [] => none
    | _ :: rest => some (String.ofList rest)
  match Flag.ofLong? flags name, value with
  | none, _ => .error (.unknownWord ("--" ++ name))
  | some flag, none => p.meet flag none
  | some flag, some value =>
    if flag.takesValue then p.meet flag (some value) else .error (.needlessValue flag value)

/-- Meets a row of letters. -/
def meetLetters (flags : List Flag) (p : Progress) : List Char → Except UsageError Progress
  | [] => .ok p
  | c :: rest =>
    match Flag.ofLetter? flags c with
    | none => .error (.unknownWord (String.ofList ['-', c]))
    | some flag =>
      if flag.takesValue then
        let value := match rest with
          | [] => none
          | '=' :: rest => some (String.ofList rest)
          | rest => some (String.ofList rest)
        p.meet flag value
      else do
        let p ← p.meet flag none
        p.meetLetters flags rest

/-- Meets a word that is no flag; the error says what it is if it is no value either. -/
def meetPlain (p : Progress) (word : String) (error : UsageError) : Except UsageError Progress :=
  match p.pending with
  | some (flag, none) => .ok { p with pending := some (flag, some word) }
  | _ => .error error

/-- Meets a word. -/
def meetWord (flags : List Flag) (p : Progress) (word : String) (error : UsageError) :
    Except UsageError Progress :=
  match word.toList with
  | '-' :: '-' :: rest => p.meetLong flags rest
  | '-' :: c :: rest => p.meetLetters flags (c :: rest)
  | _ => p.meetPlain word error

end Progress

/-- Reads the words after the command. -/
def readFlags (p : Progress) : List String → Except UsageError Progress
  | [] => p.settle
  | "--" :: [] => p.settle
  | "--" :: word :: _ => .error (.unknownWord word)
  | word :: rest => do
    let p ← p.meetWord Flag.afterCommand word (.unknownWord word)
    readFlags p rest

/-- The name of the only command. -/
def commandName : String := "types"

/-- The name of the command that shows help. -/
def helpName : String := "help"

/-- What is asked for by the words after the command that shows help. -/
def readHelp : List String → UsageError
  | [] => .showHelp
  | word :: rest =>
    if word = commandName ∨ word = helpName then
      match rest with
      | [] => .showHelp
      | other :: _ => .unknownCommand other
    else .unknownCommand word

/-- The end of a command line without a command. -/
def withoutCommand (p : Progress) : UsageError :=
  if p.set.isEmpty then .nothing else .noCommand

/-- Reads the words up to the command, and those after it. -/
def readWords (p : Progress) : List String → Except UsageError Arguments
  | [] => .error (withoutCommand p)
  | "--" :: [] => .error (withoutCommand p)
  | "--" :: word :: _ =>
    if word = commandName ∨ word = helpName then .error (.unknownWord word)
    else .error (.unknownCommand word)
  | word :: rest =>
    if word = commandName then do
      let after ← readFlags {} rest
      let a := after.arguments
      return { a with verbose := a.verbose || p.arguments.verbose }
    else if word = helpName then .error (readHelp rest)
    else do
      let p ← p.meetWord Flag.beforeCommand word (.unknownCommand word)
      readWords p rest

/-- What the words of a command line set. -/
def ofWords (words : List String) : Except UsageError Arguments :=
  readWords {} words

end Arguments

end TypedRouter.CommandLine
