import TypedRouter.Proofs.Router.Leaves
import TypedRouter.Proofs.Router.Shape
import TypedRouter.TypeScript.Router

/-!
# The methods of a record

A record becomes an object type with a member for each of its procedures, named for the method.  So
a record in which two procedures have the same method becomes an object type that names a member
twice.

Below the root this never happens: a record there is part of a chain, and the procedures at the end
of a chain are those of one path.  Two paths with the same segments keep their procedures apart, as
each of them adds a chain of its own.  The root is the one record that several paths share.  Its
procedures are those of all paths without segments, of which there can be many, since empty pieces
of a pattern are dropped.  So a method stands there as often as such a path declares it.
-/

namespace TypedRouter

open OpenApi

namespace Router

namespace Record

/-- The procedures of a record itself, without those in its branches. -/
def procedures (r : Record) : List Procedure :=
  r.filterMap fun
    | .procedure p => some p
    | .branch _ _ => none

/-- The methods of the procedures of a record itself. -/
def methods (r : Record) : List Method := r.procedures.map Procedure.method

/-- A record is part of another: it is that record, or it is part of a record in one of its
branches. -/
inductive IsIn (r : Record) : Record → Prop
  | self : IsIn r r
  | inner {key : Segment} {records : List Record} {s root : Record}
      (hbranch : .branch key records ∈ root) (hs : s ∈ records) (h : IsIn r s) : IsIn r root

/-- A record is part of another, but not that record itself. -/
def IsBelow (r root : Record) : Prop :=
  ∃ key records, .branch key records ∈ root ∧ ∃ s ∈ records, r.IsIn s

/-- The parts of a record are the record and the parts below it. -/
lemma isIn_iff {r root : Record} : r.IsIn root ↔ r = root ∨ r.IsBelow root := by
  constructor
  · rintro (_ | ⟨hbranch, hs, h⟩)
    · exact .inl rfl
    · exact .inr ⟨_, _, hbranch, _, hs, h⟩
  · rintro (rfl | ⟨key, records, hbranch, s, hs, h⟩)
    · exact .self
    · exact .inner hbranch hs h

/-! ## Below the root -/

/-- The procedures of a record of procedures are these. -/
@[simp] lemma procedures_map_procedure (ps : List Procedure) :
    procedures (ps.map .procedure) = ps := by
  rw [procedures, List.filterMap_map]
  exact List.filterMap_some

/-- No part of a chain has a method twice. -/
lemma nodup_methods_of_isChain {r s : Record} (hchain : s.IsChain) (h : r.IsIn s) :
    r.methods.Nodup := by
  induction h with
  | self =>
    cases hchain with
    | procedures _ ordered =>
      rw [methods, procedures_map_procedure]
      exact ordered.nodup (by decide)
    | branch key _ => exact List.nodup_nil
  | inner hbranch hs _ ih =>
    cases hchain with
    | procedures _ _ =>
      obtain ⟨p, -, hp⟩ := List.mem_map.mp hbranch
      cases hp
    | branch key hbelow =>
      obtain ⟨rfl, rfl⟩ := Entry.branch.inj (List.mem_singleton.mp hbranch)
      exact ih (List.mem_singleton.mp hs ▸ hbelow)

/-! ## At the root -/

/-- The procedures of a record are its leaves without segments. -/
lemma map_filter_leaves (r : Record) :
    (r.leaves.filter fun leaf => leaf.1.isEmpty).map Prod.snd = r.procedures := by
  induction r with
  | nil => rfl
  | cons e rest ih =>
    rw [leaves_cons, List.filter_append, List.map_append, ih]
    cases e with
    | procedure p => rfl
    | branch key records =>
      have hbelow : (Entry.leaves (.branch key records)).filter
          (fun leaf => leaf.1.isEmpty) = [] := by
        rw [Entry.leaves_branch, List.filter_eq_nil_iff]
        intro leaf hleaf
        obtain ⟨lower, -, rfl⟩ := List.mem_map.mp hleaf
        exact Bool.false_ne_true
      rw [hbelow]
      rfl

end Record

/-- A path has the procedure of a method if and only if it declares an operation for it. -/
@[simp] lemma mem_methods_ofItem_iff (index : ReferenceIndex) (item : PathItem) (m : Method) :
    m ∈ (Procedure.ofItem index item).map Procedure.method ↔ (item.operation? m).isSome := by
  have hall : m ∈ Method.all := by cases m <;> decide
  simp only [Procedure.ofItem, PathItem.operations, List.map_map, List.mem_map,
    List.mem_filterMap, Option.map_eq_some_iff, Function.comp_apply, Option.isSome_iff_exists]
  constructor
  · rintro ⟨⟨k, op⟩, ⟨k', -, op', hop, heq⟩, rfl⟩
    obtain ⟨rfl, rfl⟩ := Prod.mk.inj heq
    exact ⟨op', hop⟩
  · rintro ⟨op, hop⟩
    exact ⟨(m, op), ⟨m, hall, op, hop, rfl⟩, rfl⟩

/-- The methods of the leaves without segments are those of the paths without segments. -/
lemma methods_filter_leaves (index : ReferenceIndex) (paths : List (String × PathItem)) :
    (((paths.flatMap fun path => pathLeaves index (segments path.1, path.2)).filter
        fun leaf => leaf.1.isEmpty).map Prod.snd).map Procedure.method =
      (paths.filter fun path => (segments path.1).isEmpty).flatMap fun path =>
        (Procedure.ofItem index path.2).map Procedure.method := by
  induction paths with
  | nil => rfl
  | cons path rest ih =>
    rw [List.flatMap_cons, List.filter_append, List.map_append, List.map_append, ih,
      List.filter_cons]
    cases h : segments path.1 with
    | nil => simp [pathLeaves, List.filter_map, Function.comp_def]
    | cons key below => simp [pathLeaves, List.filter_map, Function.comp_def]

namespace Tree

variable (index : ReferenceIndex) (paths : List (String × PathItem))

/-- The methods of the root are those that the paths without segments declare, each as often as it
is declared. -/
lemma methods_build :
    (build index paths).methods.Perm
      ((paths.filter fun path => (segments path.1).isEmpty).flatMap fun path =>
        (Procedure.ofItem index path.2).map Procedure.method) := by
  have hrun := leaves_foldl_visit index (visited paths) {}
  have hsort := (visited_isStableSort paths).perm.flatMap_right (pathLeaves index)
  have hleaves := ((hrun.trans hsort).filter fun leaf => leaf.1.isEmpty).map Prod.snd
  rw [Record.map_filter_leaves, List.flatMap_map] at hleaves
  rw [← methods_filter_leaves]
  exact hleaves.map Procedure.method

/-- No two of some paths without segments declare the same method. -/
def RootMethodsDiffer : Prop :=
  paths.Pairwise fun p q => segments p.1 = [] → segments q.1 = [] →
    ∀ m, (p.2.operation? m).isSome → q.2.operation? m = none

/-- The root has no method twice if and only if no two paths without segments declare the same. -/
lemma nodup_methods_root_iff :
    (build index paths).methods.Nodup ↔ RootMethodsDiffer paths := by
  have hnodup (path : String × PathItem) :
      ((Procedure.ofItem index path.2).map Procedure.method).Nodup :=
    (Record.methods_ofItem index path.2).nodup (by decide)
  rw [(methods_build index paths).nodup_iff, List.nodup_flatMap, List.pairwise_filter,
    and_iff_right fun path _ => hnodup path, RootMethodsDiffer]
  refine List.Pairwise.iff fun p q => ?_
  simp only [List.isEmpty_iff, Function.onFun, List.Disjoint, mem_methods_ofItem_iff,
    Option.isSome_iff_ne_none, imp_false, not_not]

end Tree

end Router

/-! ## Object types -/

namespace TypeScript

open Router

/-- The method that a member of an object type is for: its name, if its type is that of a
procedure. -/
def Member.method? : Member Ty → Option String
  | .property name _ (.named type _) =>
    if type = "QueryProcedure" ∨ type = "MutationProcedure" then some name else none
  | _ => none

/-- The member of a branch is for no method. -/
lemma method?_branchMember (key : Segment) (records : List Record) :
    (branchMember key (branchType (recordTypes records))).method? = none := by
  cases key with
  | param name => rfl
  | literal text =>
    match records with
    | [] => rfl
    | [_] => rfl
    | _ :: _ :: _ => rfl

/-- The members of the object type of a record that are for a method are those of its
procedures. -/
lemma filterMap_method?_entryMembers (r : Record) :
    (entryMembers r).filterMap Member.method? = r.methods.map Method.name := by
  induction r with
  | nil => rfl
  | cons e rest ih =>
    rw [entryMembers, List.filterMap_cons, ih]
    cases e with
    | procedure p =>
      have hmethod : (entryMember (.procedure p)).method? = some p.method.name := by
        cases h : p.kind <;> simp [entryMember, procedureType, Member.method?, h]
      rw [hmethod]
      rfl
    | branch key records =>
      rw [entryMember, method?_branchMember]
      rfl

/-- The object type of a record names a method twice if and only if the record has it twice. -/
@[simp] lemma nodup_method?_entryMembers_iff (r : Record) :
    ((entryMembers r).filterMap Member.method?).Nodup ↔ r.methods.Nodup := by
  have hinjective : Function.Injective Method.name := by
    intro m n h
    cases m <;> cases n <;> first | rfl | exact absurd h (by decide)
  rw [filterMap_method?_entryMembers, List.nodup_map_iff hinjective]

end TypeScript

namespace Router.Tree

open TypeScript

variable (index : ReferenceIndex) (paths : List (String × PathItem))

/-- No record below the root has a method twice. -/
lemma nodup_methods_of_isBelow {r : Record} (h : r.IsBelow (build index paths)) :
    r.methods.Nodup := by
  obtain ⟨key, records, hbranch, s, hs, hr⟩ := h
  have hempty : Record.IsRoot [] := ⟨List.Pairwise.nil, fun _ _ h => by cases h⟩
  have hwithin : Record.Within 0 [] := fun _ _ h => by cases h
  have hroot : (build index paths).IsRoot :=
    isRoot_foldl_visit hempty hwithin index (fun _ _ => Nat.zero_le _)
      (visited_isStableSort paths).sorted
  exact Record.nodup_methods_of_isChain ((hroot.layered key records hbranch).chains s hs) hr

/-- No record below the root of a tree has a method twice.  The root has none twice, and so no
object type of the tree names a member for a method twice, if and only if no two paths without
segments declare the same method. -/
theorem nodup_methods_build_iff :
    (∀ r : Record, r.IsBelow (build index paths) → r.methods.Nodup) ∧
      ((∀ r : Record, r.IsIn (build index paths) → r.methods.Nodup) ↔ RootMethodsDiffer paths) ∧
      ((∀ r : Record, r.IsIn (build index paths) →
        ((entryMembers r).filterMap Member.method?).Nodup) ↔ RootMethodsDiffer paths) := by
  have hbelow (r : Record) := nodup_methods_of_isBelow index paths (r := r)
  have hall : (∀ r : Record, r.IsIn (build index paths) → r.methods.Nodup) ↔
      RootMethodsDiffer paths := by
    rw [← nodup_methods_root_iff index paths]
    refine ⟨fun h => h _ .self, fun hroot r hr => ?_⟩
    rcases Record.isIn_iff.mp hr with rfl | hr
    · exact hroot
    · exact hbelow r hr
  simp only [nodup_method?_entryMembers_iff]
  exact ⟨hbelow, hall, hall⟩

/-- Two paths without segments. -/
def rootPaths : List (String × PathItem) := [("/", { get := some {} }), ("//", { get := some {} })]

/-- Both paths add a procedure of one method to the root, so its object type has two members of one
name. -/
theorem rootPaths_get_twice :
    (¬ ∀ r : Record, r.IsIn (build {} rootPaths) → r.methods.Nodup) ∧
      ¬ ∀ r : Record, r.IsIn (build {} rootPaths) →
        ((entryMembers r).filterMap Member.method?).Nodup := by
  have htwice : ¬ (build {} rootPaths).methods.Nodup := by
    rw [nodup_methods_root_iff, RootMethodsDiffer, rootPaths, List.pairwise_pair]
    intro h
    exact absurd (h (by decide +kernel) (by decide +kernel) .get rfl) (by decide)
  refine ⟨fun h => htwice (h _ .self), fun h => htwice ?_⟩
  exact (nodup_method?_entryMembers_iff _).mp (h _ .self)

end Router.Tree

end TypedRouter
