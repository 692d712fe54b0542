import TypedRouter.Toml.Document

/-!
# Config files

A config file is a TOML document with up to three entries.  Its entries are looked at in the
order of their names; the first that is not one of the three, or does not hold what it should,
is what is wrong with the file.
-/

namespace TypedRouter.CommandLine

/-- What a config file sets. -/
structure Config where
  schema : Option String := none
  destination : Option String := none
  period : Option Nat := none
  deriving DecidableEq, Repr, Inhabited

namespace Config

/-- The text of an entry, or the place of its value. -/
def textOf (e : Toml.Entry) : Except Nat String :=
  match e.value with
  | .string s => .ok s
  | _ => .error e.valueStart

/-- The count of an entry, or the place of its value. -/
def countOf (e : Toml.Entry) : Except Nat Nat :=
  match e.value with
  | .integer (.ofNat n) => if n < UInt64.size then .ok n else .error e.valueStart
  | _ => .error e.valueStart

/-- Takes over an entry. -/
def withEntry (c : Config) (e : Toml.Entry) : Except Nat Config :=
  match e.name with
  | "schema" => (textOf e).map fun s => { c with schema := some s }
  | "destination" => (textOf e).map fun s => { c with destination := some s }
  | "period" => (countOf e).map fun n => { c with period := some n }
  | _ => .error e.nameStart

/-- What a text sets, or the line and the column of what is wrong with it. -/
def ofText (text : String) : Except (Nat × Nat) Config :=
  let cs := text.toList
  let result := do
    let entries ← Toml.Document.ofChars cs
    (entries.mergeSort fun a b => decide (a.name ≤ b.name)).foldlM withEntry {}
  result.mapError (Toml.lineAndColumn cs)

end Config

end TypedRouter.CommandLine
