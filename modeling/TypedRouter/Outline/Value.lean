import TypedRouter.Json.Reader

/-!
# Outlines as values

`Outline.toValue` reads a whole outline as a JSON value.  The first fault in text order is the
one it fails with.  An object that names a member twice keeps the first place and the last
value.  A scalar counts as what its spelling stands for, but as a member name it counts by its
spelling.
-/

namespace TypedRouter.Outline

/-- The member name that an outline gives, if it can be read as a text. -/
def nameText : Outline → Decoded String
  | .text s => .ok s
  | .scalar s _ => .ok s
  | .null => Decoded.fail (.wrongType .null "a string")
  | .bool b => Decoded.fail (.wrongType (.bool b) "a string")
  | .number n => Decoded.fail (.wrongType (.number n) "a string")
  | .nonFinite => Decoded.fail (.wrongType .nonFinite "a string")
  | .list _ _ => Decoded.fail (.wrongType .sequence "a string")
  | .object _ _ => Decoded.fail (.wrongType .map "a string")
  | .tagged inner => nameText inner
  | .broken f => Decoded.fail (.fault f)
  | .unreadable f _ => Decoded.fail (.fault f)

mutual

/-- Reads an outline as a JSON value. -/
def toValue : Outline → Decoded Json.Value
  | .null => .ok .null
  | .bool b => .ok (.bool b)
  | .number n => .ok (.number n)
  | .nonFinite => .ok .null
  | .text s => .ok (.string s)
  | .scalar _ v => toValue v
  | .list items stop => do
    let vs ← itemValues 0 items
    Decoded.stopped stop
    return .array vs
  | .object members stop => do
    let ms ← memberValues members
    Decoded.stopped stop
    return .object (OrderedMap.ofList ms)
  | .tagged _ => Decoded.fail (.wrongType .variant "any valid JSON value")
  | .broken f => Decoded.fail (.fault f)
  | .unreadable f _ => Decoded.fail (.fault f)
termination_by structural o => o

/-- Reads the items of a list from a position on. -/
def itemValues (position : Nat) : List Outline → Decoded (List Json.Value)
  | [] => .ok []
  | x :: xs => do
    let v ← (toValue x).under (.index position)
    let vs ← itemValues (position + 1) xs
    return v :: vs
termination_by structural xs => xs

/-- Reads the members of an object. -/
def memberValues : List (Outline × Outline) → Decoded (List (String × Json.Value))
  | [] => .ok []
  | (k, x) :: rest => do
    let name ← (nameText k).under .unknown
    let v ← (toValue x).under (.key name)
    let ms ← memberValues rest
    return (name, v) :: ms
termination_by structural xs => xs

end

mutual

/-- Passes over an outline, which fails only where the text is not well formed. -/
def skip : Outline → Decoded Unit
  | .list items stop => do
    skipItems items
    Decoded.stopped stop
  | .object members stop => do
    skipMembers members
    Decoded.stopped stop
  | .tagged inner => skip inner
  | .broken f => Decoded.fail (.fault f)
  | .unreadable _ inner => skip inner
  | _ => .ok ()
termination_by structural o => o

/-- Passes over the items of a list. -/
def skipItems : List Outline → Decoded Unit
  | [] => .ok ()
  | x :: xs => do
    skip x
    skipItems xs
termination_by structural xs => xs

/-- Passes over the members of an object. -/
def skipMembers : List (Outline × Outline) → Decoded Unit
  | [] => .ok ()
  | (k, x) :: rest => do
    skip k
    skip x
    skipMembers rest
termination_by structural xs => xs

end

end TypedRouter.Outline

namespace TypedRouter.Json.Value

/-- The fault that a problem comes from; a whole JSON text has no other problems. -/
def faultOf (p : Problem) : Fault :=
  match p.cause with
  | .fault f => f
  | _ => .malformed

/-- Reads a text that is one JSON value, with blanks around it. -/
def ofText (text : String) : Except Fault Value :=
  let (outline, rest) := Outline.read text.toList
  match outline.toValue with
  | .error p => .error (faultOf p)
  | .ok v =>
    match rest with
    | none => .error .malformed
    | some rest => if (Reader.skipBlanks rest).isEmpty then .ok v else .error .malformed

end TypedRouter.Json.Value
