import TypedRouter.Json.Writer
import TypedRouter.OpenApi.Document.Decode

/-!
# The version of a document

Documents of version 3.1 are read, whatever follows that in the version text.  The text is
split at its points, and of each of the first two parts only the digits at its front count; as a
number of 64 bits they have to be 3 and 1.
-/

namespace TypedRouter.Loading

open Json

/-- Why the version of a document is not accepted. -/
inductive VersionError where
  | missing
  | unsupported (version : String)
  deriving DecidableEq, Repr, Inhabited

/-- The number that the digits at the front of a text denote, if there are any and the number
has no more than 64 bits. -/
def leadingNumber? (cs : List Char) : Option Nat :=
  let digits := cs.takeWhile Char.isDigit
  let n := Text.digitsValue digits
  if digits.isEmpty || n > Number.maxInt then none else some n

/-- Whether a version text is one of version 3.1. -/
def isSupported (version : List Char) : Bool :=
  match Text.split '.' version with
  | major :: minor :: _ => leadingNumber? major == some 3 && leadingNumber? minor == some 1
  | _ => false

/-- The document with a version that is a number written as a text. -/
def versionAsText (raw : Value) : Value :=
  match raw.get? "openapi" with
  | some (.number n) => raw.set "openapi" (.string n.text)
  | _ => raw

/-- Checks the version that a document declares. -/
def checkVersion (raw : Value) : Except VersionError Unit :=
  match raw.get? "openapi" with
  | some (.string v) =>
    if v.isEmpty then .error .missing
    else if isSupported v.toList then .ok ()
    else .error (.unsupported v)
  | _ => .error .missing

end TypedRouter.Loading
