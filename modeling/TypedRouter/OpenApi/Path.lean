import TypedRouter.Text.Split

/-!
# Path patterns

A path pattern is split at its slashes, and empty pieces are dropped.  A piece that is exactly
one name between braces is a parameter; any other piece is literal text, braces and all.
-/

namespace TypedRouter.OpenApi

/-- One segment of a path pattern. -/
inductive Segment where
  /-- Text that is matched as it stands. -/
  | literal (text : String)
  /-- A named place that matches any text. -/
  | param (name : String)
  deriving DecidableEq, Repr, Inhabited

namespace Segment

/-- Whether a character is one of the two braces. -/
def isBrace (c : Char) : Bool := c == '\x7b' || c == '\x7d'

/-- The name that a piece holds between its braces, if it is nothing but one name between
braces. -/
def paramName? : List Char → Option (List Char)
  | '\x7b' :: rest =>
    let name := rest.takeWhile fun c => !isBrace c
    if name.isEmpty then none
    else if rest.dropWhile (fun c => !isBrace c) = ['\x7d'] then some name
    else none
  | _ => none

/-- The segment that a piece of a pattern is. -/
def ofChars (cs : List Char) : Segment :=
  match paramName? cs with
  | some name => .param (String.ofList name)
  | none => .literal (String.ofList cs)

/-- The segment that a piece of a pattern is. -/
def ofPiece (piece : String) : Segment := ofChars piece.toList

/-- The piece of a pattern that a segment stands for. -/
def chars : Segment → List Char
  | .literal text => text.toList
  | .param name => '\x7b' :: (name.toList ++ ['\x7d'])

end Segment

/-- The segments of a path pattern. -/
def segmentsOf (pattern : List Char) : List Segment :=
  ((Text.split '/' pattern).filter fun piece => !piece.isEmpty).map Segment.ofChars

/-- The segments of a path pattern. -/
def segments (pattern : String) : List Segment := segmentsOf pattern.toList

end TypedRouter.OpenApi
