import TypedRouter.Outline.Basic
import TypedRouter.Text.Described

/-!
# Problems

Why an outline does not decode: a cause, and the place it was met at, as the steps that lead
there from the top.
-/

namespace TypedRouter

/-- One step from an outline to a part of it. -/
inductive Step where
  /-- To the member of this name. -/
  | key (name : String)
  /-- To the item at this position. -/
  | index (position : Nat)
  /-- To a member whose name is no text. -/
  | unknown
  deriving DecidableEq, Repr, Inhabited

/-- What was found where something else was wanted. -/
inductive Found where
  | null
  | bool (value : Bool)
  | number (value : Json.Number)
  | nonFinite
  | text (value : String)
  | sequence
  | map
  | variant
  deriving DecidableEq, Repr, Inhabited

/-- Why an outline does not decode. -/
inductive Cause where
  /-- The text is at fault. -/
  | fault (fault : Fault)
  /-- The value is of another kind than the one wanted. -/
  | wrongType (found : Found) (wanted : String)
  /-- A record lacks a field. -/
  | missingField (name : String)
  /-- A record has a field twice. -/
  | duplicateField (name : String)
  /-- A record written as a list ends before a field it needs. -/
  | tooShort (length : Nat) (wanted : String)
  /-- A record written as a list has more items than the record has fields. -/
  | tooLong (length : Nat)
  /-- None of the alternatives of a choice decodes. -/
  | noVariant (choice : String)
  deriving DecidableEq, Repr, Inhabited

/-- A cause and the place it was met at. -/
structure Problem where
  path : List Step
  cause : Cause
  deriving DecidableEq, Repr, Inhabited

/-- The result of decoding an outline. -/
abbrev Decoded (α : Type) := Except Problem α

/-- Fails at the place that is being decoded. -/
def Decoded.fail {α : Type} (cause : Cause) : Decoded α :=
  .error ⟨[], cause⟩

/-- Puts a step before the place of a problem. -/
def Decoded.under {α : Type} (step : Step) : Decoded α → Decoded α
  | .ok x => .ok x
  | .error p => .error ⟨step :: p.path, p.cause⟩

/-- Fails if something is wrong where a list or an object should go on or end. -/
def Decoded.stopped : Option Fault → Decoded Unit
  | none => .ok ()
  | some f => fail (.fault f)

/-- Two decoders in a row succeed if and only if both do. -/
@[simp] theorem Decoded.bind_eq_ok {α β : Type} {x : Decoded α} {f : α → Decoded β} {b : β} :
    (x >>= f) = .ok b ↔ ∃ a, x = .ok a ∧ f a = .ok b := by
  cases x with
  | error p => simp [bind, Except.bind]
  | ok a => simp [bind, Except.bind]

/-- The place of a problem has no part in a success. -/
@[simp] theorem Decoded.under_eq_ok {α : Type} {step : Step} {x : Decoded α} {a : α} :
    x.under step = .ok a ↔ x = .ok a := by
  cases x with
  | error p => simp [under]
  | ok b => simp [under]

/-- Nothing is reported of a part that was read to its end. -/
@[simp]
theorem Decoded.stopped_eq_ok {stop : Option Fault} : stopped stop = .ok () ↔ stop = none := by
  cases stop with
  | none => simp [stopped]
  | some f => simp [stopped, fail]

namespace Found

/-- What was found, in words. -/
def words : Found → String
  | .null => "null"
  | .bool b => "boolean `" ++ (if b then "true" else "false") ++ "`"
  | .number (.int i) => "integer `" ++ (Json.Number.int i).text ++ "`"
  | .number (.float x) => "floating point `" ++ (Json.Number.float x).text ++ "`"
  | .nonFinite => "floating point"
  | .text s => "string " ++ Text.describe s
  | .sequence => "sequence"
  | .map => "map"
  | .variant => "enum"

end Found

namespace Cause

/-- A cause in words, as far as it is about the shape of a value. -/
def message : Cause → String
  | .fault .malformed => "malformed text"
  | .fault .truncated => "unexpected end of text"
  | .wrongType found wanted => "invalid type: " ++ found.words ++ ", expected " ++ wanted
  | .missingField name => "missing field `" ++ name ++ "`"
  | .duplicateField name => "duplicate field `" ++ name ++ "`"
  | .tooShort n wanted => "invalid length " ++ toString n ++ ", expected " ++ wanted
  | .tooLong n => "invalid length " ++ toString n ++ ", expected fewer elements in array"
  | .noVariant choice => "data did not match any variant of untagged enum " ++ choice

end Cause

namespace Step

/-- One step of a path; the flag says whether another step comes before it. -/
def text (inner : Bool) : Step → String
  | .key name => (if inner then "." else "") ++ name
  | .index n => "[" ++ toString n ++ "]"
  | .unknown => (if inner then "." else "") ++ "?"

/-- A path as text: names with points between them, positions in brackets, and a single point
for the top. -/
def pathText : List Step → String
  | [] => "."
  | first :: rest => text false first ++ String.join (rest.map (text true))

end Step

end TypedRouter
