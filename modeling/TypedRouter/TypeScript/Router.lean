import TypedRouter.Router.Tree
import TypedRouter.TypeScript.Type

/-!
# Router types

The type of a record is a router type over an object type with a member for each entry.  A
procedure is a member named for its method.  A branch is a member named for its literal, or any
member if its key is a parameter; the records of a branch are intersected.
-/

namespace TypedRouter.TypeScript

open OpenApi Router

/-- The type of a procedure. -/
def procedureType (p : Procedure) : Ty :=
  let name := match p.kind with
    | .query => "QueryProcedure"
    | .mutation => "MutationProcedure"
  .named name [.ofExpr p.input, .ofExpr p.output]

/-- The type of a router with these members. -/
def routerOf (members : List (Member Ty)) : Ty :=
  .named "CreateRouterInner" [.named "FakeConfig" [], .object members]

/-- The type of the records of a branch, from theirs; a single one stands for itself. -/
def branchType : List Ty → Ty
  | [t] => t
  | ts => .intersection ts

/-- The member of a branch. -/
def branchMember (key : Segment) (t : Ty) : Member Ty :=
  match key with
  | .literal text => .property text false t
  | .param name => .indexed name t

mutual

/-- The member of an entry. -/
def entryMember : Entry → Member Ty
  | .procedure p => .property p.method.name false (procedureType p)
  | .branch key records => branchMember key (branchType (recordTypes records))
termination_by structural e => e

/-- The members of the entries of a record. -/
def entryMembers : List Entry → List (Member Ty)
  | [] => []
  | e :: rest => entryMember e :: entryMembers rest
termination_by structural es => es

/-- The types of the records of a branch. -/
def recordTypes : List (List Entry) → List Ty
  | [] => []
  | r :: rest => routerOf (entryMembers r) :: recordTypes rest
termination_by structural rs => rs

end

/-- The type of a record. -/
def routerType (record : Record) : Ty :=
  routerOf (entryMembers record)

/-- The members of a router, one entry after the other. -/
@[simp] theorem entryMembers_eq_map (r : Record) : entryMembers r = r.map entryMember := by
  induction r with
  | nil => rfl
  | cons e r ih => rw [entryMembers, ih, List.map_cons]

/-- The types of records, one record after the other. -/
@[simp] theorem recordTypes_eq_map (rs : List Record) : recordTypes rs = rs.map routerType := by
  induction rs with
  | nil => rfl
  | cons r rs ih => rw [recordTypes, ih, List.map_cons, routerType]

/-- The type of a record is a router with a member for each entry. -/
theorem routerType_eq (r : Record) : routerType r = routerOf (r.map entryMember) := by
  rw [routerType, entryMembers_eq_map]

/-- The member of a branch joins the types of its records. -/
@[simp] theorem entryMember_branch (key : Segment) (records : List Record) :
    entryMember (.branch key records) =
      branchMember key (branchType (records.map routerType)) := by
  rw [entryMember, recordTypes_eq_map]

end TypedRouter.TypeScript
