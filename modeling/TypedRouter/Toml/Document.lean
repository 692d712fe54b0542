import TypedRouter.Toml.Value

/-!
# TOML documents

A document is a table.  Its entries are kept with the places of their names and their values, so
that a complaint about one can say where it is.  An entry that is set below a name, or a table
with a header, is an entry of the document too.

No name may be set twice.
-/

namespace TypedRouter.Toml

/-- An entry of a document. -/
structure Entry where
  name : String
  /-- Where the name is. -/
  nameStart : Nat
  /-- Where the value is. -/
  valueStart : Nat
  value : Value
  deriving Repr, Inhabited

namespace Document

/-- What has been read so far. -/
structure State where
  entries : List Entry := []
  /-- The names, from the top down, of what has been set. -/
  set : List (List String) := []
  /-- The names of the tables that have a header. -/
  headed : List (List String) := []
  /-- The names of the table that entries go to. -/
  table : List String := []
  /-- The place of the name of that table, and the place of its header. -/
  tablePlace : Option (Nat × Nat) := none
  deriving Inhabited

/-- Adds an entry of the document unless its name is there. -/
def addEntry (entries : List Entry) (e : Entry) : List Entry :=
  if entries.any (·.name = e.name) then entries else entries ++ [e]

/-- Whether some names cannot be set: they are set, or something above or below them is. -/
def clashes (s : State) (names : List String) : Bool :=
  s.set.any fun other => other.isPrefixOf names || names.isPrefixOf other

/-- Carries out a statement, or reports the place of the name that it cannot set. -/
def step (s : State) : Statement → Except Nat State
  | .entry key written => do
    let names ← key.mapM Value.keyName
    let value ← Value.ofWritten written
    let full := s.table ++ names
    let keyStart := (key.map Token.start).getLast?.getD 0
    if clashes s full || s.headed.any full.isPrefixOf then throw keyStart
    let firstStart := (key.map Token.start).head?.getD 0
    let entry : Entry := match s.tablePlace, names with
      | some (nameStart, headerStart), _ =>
        ⟨s.table.head?.getD "", nameStart, headerStart, .table [(names, value)]⟩
      | none, [name] => ⟨name, firstStart, written.start, value⟩
      | none, _ => ⟨names.head?.getD "", firstStart, firstStart, .table [(names, value)]⟩
    return { s with entries := addEntry s.entries entry, set := s.set ++ [full] }
  | .header start isArray key => do
    let names ← key.mapM Value.keyName
    let keyStart := (key.map Token.start).getLast?.getD 0
    let firstStart := (key.map Token.start).head?.getD 0
    if s.set.any (·.isPrefixOf names) || (!isArray && s.headed.contains names) then throw keyStart
    let entry : Entry := ⟨names.head?.getD "", firstStart, start, .table []⟩
    return { s with
      entries := addEntry s.entries entry
      headed := if isArray then s.headed else s.headed ++ [names]
      set := if isArray then s.set.filter fun other => !names.isPrefixOf other else s.set
      table := names
      tablePlace := some (firstStart, start) }

/-- The entries of a text, or the place where it goes wrong. -/
def ofChars (cs : List Char) : Except Nat (List Entry) := do
  let statements ← Statement.ofChars cs
  return (← statements.foldlM step {}).entries

end Document

/-- A place in a text by its line and column, both counted from one.  The place after the last
character is one column after it. -/
def lineAndColumn (cs : List Char) (place : Nat) : Nat × Nat :=
  let here := min place (cs.length - 1)
  let before := cs.take here
  let column := (before.reverse.takeWhile (· != '\n')).length + (place - here)
  ((before.filter (· == '\n')).length + 1, column + 1)

end TypedRouter.Toml
