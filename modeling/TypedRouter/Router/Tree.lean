import TypedRouter.Router.Procedure

/-!
# Router trees

The paths of a document become a tree of records.  Paths are visited from the fewest segments to
the most, in their own order among those with equally many.  A path adds one record below its
first segment.  If the path visited just before starts with the same segment, that record joins the
latest branch of the segment, wherever in the root this is; if there is none, or the path before
starts otherwise, the record opens a branch of its own.

A path without operations adds nothing, but it counts as the path before the next one.  So
neighbours are grouped, and others can be too: when paths without operations come between, a path
joins a branch after which other branches have been opened.  A path without segments adds its
procedures to the root.
-/

namespace TypedRouter.Router

open OpenApi

/-- An entry of a record: a procedure, or the records below a segment. -/
inductive Entry where
  | procedure (p : Procedure)
  | branch (key : Segment) (records : List (List Entry))
  deriving Repr, Inhabited

/-- A group of procedures and branches. -/
abbrev Record := List Entry

namespace Record

/-- The record that holds some procedures under one branch for each segment. -/
def chain (segments : List Segment) (procedures : List Procedure) : Record :=
  segments.foldr (fun key inner => [.branch key [inner]]) (procedures.map .procedure)

/-- Adds a record to the last branch of a key, if there is one. -/
def addToLast? (key : Segment) (record : Record) : Record → Option Record
  | [] => none
  | entry :: rest =>
    match addToLast? key record rest with
    | some rest => some (entry :: rest)
    | none =>
      match entry with
      | .branch k records =>
        if k = key then some (.branch k (records ++ [record]) :: rest) else none
      | .procedure _ => none

/-- Adds a record as a new branch at the end. -/
def addBranch (root : Record) (key : Segment) (record : Record) : Record :=
  root ++ [.branch key [record]]

/-- A chain of no segments holds the procedures. -/
@[simp] theorem chain_nil (ps : List Procedure) : chain [] ps = ps.map .procedure := rfl

/-- A chain is one branch, and the rest of the chain is its one record. -/
@[simp] theorem chain_cons (key : Segment) (rest : List Segment) (ps : List Procedure) :
    chain (key :: rest) ps = [.branch key [chain rest ps]] := rfl

end Record

namespace Tree

/-- What has been built, and the first segment of the path that was visited last. -/
structure State where
  root : Record := []
  previous : Option Segment := none
  deriving Inhabited

/-- Adds the procedures of a path that has some. -/
def add (root : Record) (merge : Bool) (segments : List Segment)
    (procedures : List Procedure) : Record :=
  match segments with
  | [] => root ++ procedures.map .procedure
  | key :: rest =>
    let record := Record.chain rest procedures
    if merge then (Record.addToLast? key record root).getD (root.addBranch key record)
    else root.addBranch key record

/-- Visits a path. -/
def visit (index : ReferenceIndex) (s : State) (path : List Segment × PathItem) : State :=
  let (segments, item) := path
  let first := segments.head?
  let merge := first.isSome && first == s.previous
  match Procedure.ofItem index item with
  | [] => { s with previous := first }
  | procedures => ⟨add s.root merge segments procedures, first⟩

/-- The paths in the order they are visited in. -/
def visited (paths : List (String × PathItem)) : List (List Segment × PathItem) :=
  (paths.map fun (pattern, item) => (segments pattern, item)).mergeSort
    fun a b => decide (a.1.length ≤ b.1.length)

/-- The root record of the tree of some paths. -/
def build (index : ReferenceIndex) (paths : List (String × PathItem)) : Record :=
  ((visited paths).foldl (visit index) {}).root

end Tree

end TypedRouter.Router
