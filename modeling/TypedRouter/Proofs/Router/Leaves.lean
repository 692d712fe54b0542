import TypedRouter.Proofs.Router.Tree
import Mathlib.Data.Multiset.MapFold

/-!
# The leaves of the router tree

A tree is read as the list of its leaves: each procedure together with the segments on the way to
it, through every record of every branch.

One visit adds the procedures of its path, below the segments of its path, and moves nothing else:
a record that joins an earlier branch stands between leaves that were there before, so the leaves
are the same up to their order.  Over a whole run no operation of the document is lost, none is
there twice, and none hangs below other segments than its own.
-/

namespace TypedRouter.Router

open OpenApi

/-- A procedure with the segments on the way to it. -/
abbrev Leaf := List Segment × Procedure

/-- A leaf as it is seen from above a segment. -/
def Leaf.below (key : Segment) (leaf : Leaf) : Leaf := (key :: leaf.1, leaf.2)

mutual

/-- The leaves of an entry. -/
def Entry.leaves : Entry → List Leaf
  | .procedure p => [([], p)]
  | .branch key records => (recordsLeaves records).map (Leaf.below key)
termination_by structural e => e

/-- The leaves of a record. -/
def Record.leaves : Record → List Leaf
  | [] => []
  | e :: rest => Entry.leaves e ++ Record.leaves rest
termination_by structural es => es

/-- The leaves of the records of a branch. -/
def recordsLeaves : List Record → List Leaf
  | [] => []
  | r :: rest => Record.leaves r ++ recordsLeaves rest
termination_by structural rs => rs

end

/-- A procedure is a leaf without segments. -/
@[simp] lemma Entry.leaves_procedure (p : Procedure) : (Entry.procedure p).leaves = [([], p)] := rfl

/-- The leaves of a branch are those of its records, seen from above its segment. -/
@[simp] lemma Entry.leaves_branch (key : Segment) (records : List Record) :
    (Entry.branch key records).leaves = (recordsLeaves records).map (Leaf.below key) := rfl

/-- No records have no leaves. -/
@[simp] lemma recordsLeaves_nil : recordsLeaves [] = [] := rfl

/-- The leaves of records are those of one record after the other. -/
@[simp] lemma recordsLeaves_cons (r : Record) (rs : List Record) :
    recordsLeaves (r :: rs) = r.leaves ++ recordsLeaves rs := rfl

/-- The leaves that a path stands for: its procedures below its segments. -/
def pathLeaves (index : ReferenceIndex) (path : List Segment × PathItem) : List Leaf :=
  (Procedure.ofItem index path.2).map fun p => (path.1, p)

namespace Record

/-- An empty record has no leaves. -/
@[simp] lemma leaves_nil : leaves [] = [] := rfl

/-- The leaves of a record are those of one entry after the other. -/
@[simp] lemma leaves_cons (entry : Entry) (r : Record) :
    leaves (entry :: r) = entry.leaves ++ leaves r := rfl

/-- The leaves of a record are those of its parts. -/
@[simp] lemma leaves_append (r s : Record) : leaves (r ++ s) = leaves r ++ leaves s := by
  induction r with
  | nil => rfl
  | cons e r ih => simp [ih]

/-- The leaves of a branch whose records are in two parts. -/
@[simp] lemma recordsLeaves_append (rs ss : List Record) :
    recordsLeaves (rs ++ ss) = recordsLeaves rs ++ recordsLeaves ss := by
  induction rs with
  | nil => rfl
  | cons r rs ih => simp [ih]

/-- Procedures are leaves without segments. -/
@[simp] lemma leaves_procedures (ps : List Procedure) :
    leaves (ps.map .procedure) = ps.map fun p => (([], p) : Leaf) := by
  induction ps with
  | nil => rfl
  | cons p ps ih => simp [ih]

/-- The leaves of a branch with one record. -/
lemma leaves_branch (key : Segment) (record : Record) :
    leaves [.branch key [record]] = (leaves record).map (Leaf.below key) := by
  simp

/-- The procedures of a chain hang below its segments. -/
@[simp] lemma leaves_chain (segments : List Segment) (ps : List Procedure) :
    leaves (chain segments ps) = ps.map fun p => ((segments, p) : Leaf) := by
  induction segments with
  | nil => simp
  | cons key rest ih =>
    rw [chain_cons, leaves_branch, ih, List.map_map]
    rfl

/-- A new branch adds the leaves of its record. -/
@[simp] lemma leaves_addBranch (root : Record) (key : Segment) (record : Record) :
    leaves (root.addBranch key record) =
      leaves root ++ (leaves record).map (Leaf.below key) := by
  rw [addBranch, leaves_append, leaves_branch]

/-- A record that joins a branch adds its leaves and keeps all others. -/
lemma leaves_addToLast? {key : Segment} {record root root' : Record}
    (h : addToLast? key record root = some root') :
    (leaves root').Perm (leaves root ++ (leaves record).map (Leaf.below key)) := by
  rcases exists_last_branch key root with hnone | ⟨before, records, after, rfl, hafter⟩
  · rw [addToLast?_eq_none hnone] at h
    cases h
  · rw [addToLast?_append before records hafter] at h
    obtain rfl := Option.some.inj h
    have hbranch : ∀ rs : List Record, leaves (before ++ .branch key rs :: after) =
        leaves before ++ ((recordsLeaves rs).map (Leaf.below key) ++ leaves after) := by
      intro rs
      simp
    have hone : recordsLeaves [record] = leaves record := List.append_nil _
    rw [hbranch, hbranch, recordsLeaves_append, hone, List.map_append, List.append_assoc,
      List.append_assoc, List.append_assoc]
    exact (List.perm_append_comm.append_left _).append_left _

end Record

namespace Tree

/-- Adding a path adds its procedures below its segments. -/
lemma leaves_add (root : Record) (merge : Bool) (segments : List Segment)
    (ps : List Procedure) :
    (add root merge segments ps).leaves.Perm
      (root.leaves ++ ps.map fun p => ((segments, p) : Leaf)) := by
  cases segments with
  | nil => simp [add]
  | cons key rest =>
    have hleaves : ((Record.chain rest ps).leaves).map (Leaf.below key) =
        ps.map fun p => ((key :: rest, p) : Leaf) := by
      rw [Record.leaves_chain, List.map_map]
      rfl
    have hbranch : ((root.addBranch key (Record.chain rest ps)).leaves).Perm
        (root.leaves ++ ps.map fun p => ((key :: rest, p) : Leaf)) := by
      rw [Record.leaves_addBranch, hleaves]
    cases merge with
    | false => exact hbranch
    | true =>
      cases hadd : Record.addToLast? key (Record.chain rest ps) root with
      | none => simpa [add, hadd] using hbranch
      | some root' =>
        have hjoin := Record.leaves_addToLast? hadd
        rw [hleaves] at hjoin
        simpa [add, hadd] using hjoin

/-- A visit adds the leaves of its path. -/
lemma leaves_visit (index : ReferenceIndex) (s : State) (path : List Segment × PathItem) :
    (visit index s path).root.leaves.Perm (s.root.leaves ++ pathLeaves index path) := by
  obtain ⟨segments, item⟩ := path
  unfold visit pathLeaves
  cases hps : Procedure.ofItem index item with
  | nil => simp [hps]
  | cons p ps => simpa [hps] using leaves_add s.root _ segments (p :: ps)

/-- A run adds the leaves of all paths that it visits. -/
lemma leaves_foldl_visit (index : ReferenceIndex) (paths : List (List Segment × PathItem))
    (s : State) :
    (paths.foldl (visit index) s).root.leaves.Perm
      (s.root.leaves ++ paths.flatMap (pathLeaves index)) := by
  induction paths generalizing s with
  | nil => simp
  | cons path paths ih =>
    rw [List.foldl_cons, List.flatMap_cons, ← List.append_assoc]
    exact (ih _).trans ((leaves_visit index s path).append_right _)

/-- The leaves of the tree are the operations of the paths, each below the segments of its path. -/
lemma mem_leaves_build {index : ReferenceIndex} {paths : List (String × PathItem)} {leaf : Leaf} :
    leaf ∈ (build index paths).leaves ↔ ∃ path ∈ paths, ∃ operation ∈ path.2.operations,
      leaf = (segments path.1, Procedure.ofOperation index operation.1 operation.2) := by
  have hrun : (build index paths).leaves.Perm ((visited paths).flatMap (pathLeaves index)) :=
    leaves_foldl_visit index (visited paths) {}
  have hvisited := (visited_isStableSort paths).perm
  rw [hrun.mem_iff, List.mem_flatMap]
  unfold pathLeaves Procedure.ofItem
  constructor
  · rintro ⟨visit, hvisit, hleaf⟩
    obtain ⟨path, hpath, rfl⟩ := List.mem_map.mp (hvisited.mem_iff.mp hvisit)
    rw [List.map_map] at hleaf
    obtain ⟨operation, hoperation, rfl⟩ := List.mem_map.mp hleaf
    exact ⟨path, hpath, operation, hoperation, rfl⟩
  · rintro ⟨path, hpath, operation, hoperation, rfl⟩
    refine ⟨_, hvisited.mem_iff.mpr (List.mem_map_of_mem hpath), ?_⟩
    rw [List.map_map]
    exact List.mem_map_of_mem hoperation

/-- No operation is lost, duplicated or misplaced: the leaves of the tree are the operations of
the paths, each below the segments of its path. -/
theorem leaves_build (index : ReferenceIndex) (paths : List (String × PathItem)) :
    (((build index paths).leaves : List Leaf) : Multiset Leaf) =
      ((paths.flatMap fun (pattern, item) => item.operations.map fun (m, op) =>
        (segments pattern, Procedure.ofOperation index m op) : List Leaf) : Multiset Leaf) := by
  rw [Multiset.coe_eq_coe]
  have hrun := leaves_foldl_visit index (visited paths) {}
  have hsort := (visited_isStableSort paths).perm.flatMap_right (pathLeaves index)
  rw [List.flatMap_map] at hsort
  refine hrun.trans (hsort.trans (List.Perm.of_eq ?_))
  refine List.flatMap_congr fun path _ => ?_
  simp only [pathLeaves, Procedure.ofItem, List.map_map]
  rfl

end Tree

end TypedRouter.Router
