import TypedRouter.Yaml.Spelling

/-!
# Outlines of YAML documents

An alias stands for the last node before it whose anchor it names; naming no such node makes the
text malformed.  Anchors are told apart by numbers: an anchor gets the count of the different
names before it.  So after a name was used again two anchors may have one number, and that
number stands for the later of them.

A node may hold an alias to itself.  So collections inside 128 others are not read, and aliases
are followed at most a hundred times for every part of the document.
-/

namespace TypedRouter.Yaml

/-- A node whose anchored parts have numbers, and whose aliases are such numbers. -/
inductive Numbered where
  | alias (number : Nat)
  | scalar (outline : Outline)
  | sequence (own : Bool) (items : List Numbered)
  | mapping (own : Bool) (members : List (Numbered × Numbered))
  deriving Inhabited

/-- Whether a collection has a tag of the document's own. -/
def Lead.isOwn (lead : Lead) : Bool := lead.tag.any fun t => t.startsWith "!"

/-- The numbers that anchors have, latest first, and the count of their different names. -/
structure Anchors where
  names : List (String × Nat) := []
  next : Nat := 0

/-- Gives a node with an anchor the next number. -/
def Anchors.add (a : Anchors) (lead : Lead) : Anchors :=
  match lead.anchor with
  | none => a
  | some name =>
    let isNew := (a.names.lookup name).isNone
    ⟨(name, a.next) :: a.names, if isNew then a.next + 1 else a.next⟩

/-- The anchored nodes by their numbers, in the order of the document. -/
abbrev Table := List (Nat × Numbered)

/-- Enters a node into the table if it has an anchor; `before` are the numbers before it. -/
def enter (before : Anchors) (lead : Lead) (node : Numbered) (table : Table) : Table :=
  if lead.anchor.isSome then (before.next, node) :: table else table

/-- A numbered part, with the anchors after it and the table of its nodes. -/
abbrev Entered (α : Type) := α × Anchors × Table

mutual

/-- Numbers the anchored parts of a node. -/
def number (a : Anchors) : Node → Option (Entered Numbered)
  | .alias name => do return (.alias (← a.names.lookup name), a, [])
  | .scalar lead style text =>
    let node : Numbered := .scalar (scalarOutline lead style text)
    some (node, a.add lead, enter a lead node [])
  | .sequence lead items => do
    let (items, after, table) ← numberItems (a.add lead) items
    let node := Numbered.sequence lead.isOwn items
    return (node, after, enter a lead node table)
  | .mapping lead members => do
    let (members, after, table) ← numberMembers (a.add lead) members
    let node := Numbered.mapping lead.isOwn members
    return (node, after, enter a lead node table)
termination_by structural n => n

/-- Numbers the anchored parts of some items. -/
def numberItems (a : Anchors) : List Node → Option (Entered (List Numbered))
  | [] => some ([], a, [])
  | x :: xs => do
    let (y, a, first) ← number a x
    let (ys, a, rest) ← numberItems a xs
    return (y :: ys, a, first ++ rest)
termination_by structural ns => ns

/-- Numbers the anchored parts of some members. -/
def numberMembers (a : Anchors) : List (Node × Node) →
    Option (Entered (List (Numbered × Numbered)))
  | [] => some ([], a, [])
  | (k, x) :: rest => do
    let (key, a, first) ← number a k
    let (y, a, second) ← number a x
    let (ys, a, more) ← numberMembers a rest
    return ((key, y) :: ys, a, first ++ second ++ more)
termination_by structural ns => ns

end

mutual

/-- How many parts a node has, a collection counting twice. -/
def Node.size : Node → Nat
  | .alias _ => 1
  | .scalar _ _ _ => 1
  | .sequence _ items => sizes items + 2
  | .mapping _ members => memberSizes members + 2
termination_by structural n => n

/-- How many parts some items have. -/
def Node.sizes : List Node → Nat
  | [] => 0
  | x :: xs => x.size + sizes xs
termination_by structural ns => ns

/-- How many parts some members have. -/
def Node.memberSizes : List (Node × Node) → Nat
  | [] => 0
  | (k, x) :: rest => k.size + x.size + memberSizes rest
termination_by structural ns => ns

end

/-! ## Following aliases -/

/-- How many collections may be open around one that is read. -/
def maxDepth : Nat := 128

/-- How often aliases are followed for each part of a document. -/
def followsPerPart : Nat := 100

/-- The node that an alias stands for, unless aliases have been followed too often. -/
def follow (table : Table) : Numbered → StateM Nat (Option Numbered)
  | .alias n => do
    let left ← get
    if left = 0 then return none
    else
      set (left - 1)
      return table.lookup n
  | node => return some node

/-- The outline of a collection, which can be read by its shape only if it has a tag of its
own. -/
def collection (own : Bool) (o : Outline) : Outline :=
  if own then .tagged o else o

/-- The outline of a node inside which so many collections may be open. -/
def outline (table : Table) : Nat → Numbered → StateM Nat Outline
  | 0, node => do
    match ← follow table node with
    | some (.scalar o) => return o
    | some (.sequence _ _) => return .unreadable .malformed (.list [] none)
    | some (.mapping _ _) => return .unreadable .malformed (.object [] none)
    | _ => return .unreadable .malformed .null
  | room + 1, node => do
    match ← follow table node with
    | some (.scalar o) => return o
    | some (.sequence own items) =>
      let items ← items.mapM (outline table room)
      return collection own (.list items none)
    | some (.mapping own members) =>
      let members ← members.mapM fun (k, x) => do
        let key ← outline table room k
        let value ← outline table room x
        return (key, value)
      return collection own (.object members none)
    | _ => return .unreadable .malformed .null

/-- The outline of a document, if its aliases name anchors. -/
def Node.outline? (node : Node) : Option Outline := do
  let (numbered, _, table) ← number {} node
  return (outline table.reverse maxDepth numbered (followsPerPart * node.size)).run.1

/-- What a YAML text holds. -/
inductive Content where
  /-- The text is not well formed. -/
  | malformed
  /-- One document; a text without any counts as an empty one. -/
  | single (outline : Outline)
  /-- Several documents, of which the first is given. -/
  | several (first : Outline)
  deriving Inhabited

/-- What a YAML text holds. -/
def Content.ofText (text : String) : Content :=
  match (Node.ofText? text).bind fun nodes => nodes.mapM Node.outline? with
  | none => .malformed
  | some [] => .single (.scalar "" .null)
  | some [o] => .single o
  | some (o :: _ :: _) => .several o

end TypedRouter.Yaml
