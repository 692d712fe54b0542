import TypedRouter.Proofs.Router.Tree

/-!
# The shape of the router tree

The root holds its procedures first and its branches after them.  Below the root there are only
chains: a record is a single branch with a single record, or it holds the procedures of one path,
which have different methods in their fixed order.  A branch of the root has at least one record,
and no record in it is shallower than the one before.

The paths are visited from the fewest segments to the most, and this is what keeps the order at the
root.  A path without segments comes before all paths that open a branch.  A record that joins a
branch has a key for each segment of its path but the first, so it is no shallower than the records
of the paths before.
-/

namespace TypedRouter.Router

open OpenApi

/-- An entry is a procedure. -/
def Entry.IsProcedure : Entry → Prop
  | .procedure _ => True
  | .branch _ _ => False

mutual

/-- The greatest number of keys on the way from an entry to a procedure. -/
def Entry.depth : Entry → ℕ
  | .procedure _ => 0
  | .branch _ records => recordsDepth records + 1
termination_by structural e => e

/-- The greatest number of keys on the way from a record to a procedure. -/
def Record.depth : Record → ℕ
  | [] => 0
  | e :: rest => max (Entry.depth e) (Record.depth rest)
termination_by structural es => es

/-- The greatest number of keys on the way from some records to a procedure. -/
def recordsDepth : List Record → ℕ
  | [] => 0
  | r :: rest => max (Record.depth r) (recordsDepth rest)
termination_by structural rs => rs

end

/-- A procedure has no depth. -/
@[simp] lemma Entry.depth_procedure (p : Procedure) : (Entry.procedure p).depth = 0 := rfl

/-- A branch is one key deeper than its records. -/
@[simp] lemma Entry.depth_branch (key : Segment) (records : List Record) :
    (Entry.branch key records).depth = recordsDepth records + 1 := rfl

/-- No records have no depth. -/
@[simp] lemma recordsDepth_nil : recordsDepth [] = 0 := rfl

/-- Records are as deep as the deepest of them. -/
@[simp] lemma recordsDepth_cons (r : Record) (rs : List Record) :
    recordsDepth (r :: rs) = max r.depth (recordsDepth rs) := rfl

namespace Record

/-- An empty record has no depth. -/
@[simp] lemma depth_nil : depth [] = 0 := rfl

/-- A record is as deep as the deepest of its entries. -/
@[simp] lemma depth_cons (entry : Entry) (r : Record) :
    depth (entry :: r) = max entry.depth r.depth := rfl

/-- The records below the root: a branch with one record, again and again, down to some procedures
with different methods in the fixed order. -/
inductive IsChain : Record → Prop
  | procedures {ps : List Procedure} (nonempty : ps ≠ [])
      (ordered : (ps.map Procedure.method).Sublist Method.all) : IsChain (ps.map .procedure)
  | branch (key : Segment) {record : Record} (below : IsChain record) :
      IsChain [.branch key [record]]

/-- The records of a branch of the root. -/
structure AreLayered (records : List Record) : Prop where
  /-- There is at least one. -/
  nonempty : records ≠ []
  /-- Each of them is a chain. -/
  chains : ∀ r ∈ records, IsChain r
  /-- None of them is shallower than one before it. -/
  sorted : records.Pairwise fun r s => depth r ≤ depth s

/-- The shape of a root. -/
structure IsRoot (root : Record) : Prop where
  /-- No procedure comes after a branch. -/
  procedures_first : root.Pairwise fun a b => b.IsProcedure → a.IsProcedure
  /-- The records of each branch are layered. -/
  layered : ∀ key records, .branch key records ∈ root → AreLayered records

/-- All records in the branches of a root are shallower than a bound. -/
def Within (bound : ℕ) (root : Record) : Prop :=
  ∀ key records, .branch key records ∈ root → ∀ r ∈ records, depth r < bound

/-! ## Chains -/

/-- Procedures have no depth. -/
@[simp] lemma depth_procedures (ps : List Procedure) : depth (ps.map .procedure) = 0 := by
  induction ps with
  | nil => rfl
  | cons p ps ih => simp [ih]

/-- A chain has one key for each of its segments. -/
@[simp] lemma depth_chain (segments : List Segment) (ps : List Procedure) :
    depth (chain segments ps) = segments.length := by
  induction segments with
  | nil => simp
  | cons key rest ih => simp [ih]

/-- Some procedures under a branch for each segment are a chain. -/
lemma isChain_chain (segments : List Segment) {ps : List Procedure} (nonempty : ps ≠ [])
    (ordered : (ps.map Procedure.method).Sublist Method.all) : (chain segments ps).IsChain := by
  induction segments with
  | nil => exact .procedures nonempty ordered
  | cons key rest ih => exact .branch key ih

/-- The methods of a path stand in the fixed order, each of them once. -/
lemma methods_ofItem (index : ReferenceIndex) (item : PathItem) :
    ((Procedure.ofItem index item).map Procedure.method).Sublist Method.all := by
  have hall (methods : List Method) : ((methods.filterMap fun m =>
      (item.operation? m).map (m, ·)).map Prod.fst).Sublist methods := by
    induction methods with
    | nil => exact List.Sublist.slnil
    | cons m methods ih =>
      cases hm : item.operation? m with
      | none => simpa [hm] using ih.cons m
      | some op => simpa [hm] using ih.cons_cons m
  have hmethods : (Procedure.ofItem index item).map Procedure.method =
      item.operations.map Prod.fst := by
    rw [Procedure.ofItem, List.map_map]
    rfl
  rw [hmethods]
  exact hall Method.all

/-! ## Branches at the root -/

variable {bound : ℕ} {root : Record} {record : Record}

section

variable {P : List Record → Prop}

/-- Procedures add no branches. -/
lemma forall_branch_append_procedures
    (h : ∀ key records, .branch key records ∈ root → P records) (ps : List Procedure) :
    ∀ key records, .branch key records ∈ root ++ ps.map .procedure → P records := by
  intro key records hbranch
  rcases List.mem_append.mp hbranch with hold | hnew
  · exact h key records hold
  · obtain ⟨p, -, hp⟩ := List.mem_map.mp hnew
    cases hp

/-- What holds of the branches of a root and of a new branch holds of both together. -/
lemma forall_branch_addBranch (h : ∀ key records, .branch key records ∈ root → P records)
    (key : Segment) (hnew : P [record]) :
    ∀ k records, .branch k records ∈ root.addBranch key record → P records := by
  intro k records hbranch
  rcases List.mem_append.mp hbranch with hold | hlast
  · exact h k records hold
  · obtain ⟨rfl, rfl⟩ := Entry.branch.inj (List.mem_singleton.mp hlast)
    exact hnew

/-- What holds of the branches of a root holds if one of them gets other records of this kind. -/
lemma forall_branch_replace {before after : Record} {key : Segment} {records records' : List Record}
    (h : ∀ k rs, .branch k rs ∈ before ++ .branch key records :: after → P rs)
    (hnew : P records') :
    ∀ k rs, .branch k rs ∈ before ++ .branch key records' :: after → P rs := by
  intro k rs hbranch
  rcases List.mem_append.mp hbranch with hbefore | hmem
  · exact h k rs (List.mem_append_left _ hbefore)
  · rcases List.mem_cons.mp hmem with hhere | hafter
    · obtain ⟨rfl, rfl⟩ := Entry.branch.inj hhere
      exact hnew
    · exact h k rs (List.mem_append_right _ (List.mem_cons_of_mem _ hafter))

end

/-- Procedures can be added as long as there are no branches. -/
lemma isRoot_append_procedures (hroot : root.IsRoot) (within : root.Within 0)
    (ps : List Procedure) : IsRoot (root ++ ps.map .procedure) := by
  have hprocedure : ∀ e ∈ root, e.IsProcedure := by
    intro e he
    cases e with
    | procedure p => trivial
    | branch key records =>
      obtain ⟨r, hr⟩ := List.exists_mem_of_ne_nil _ (hroot.layered key records he).nonempty
      exact absurd (within key records he r hr) (Nat.not_lt_zero _)
  have hps : (ps.map Entry.procedure).Pairwise fun a b => b.IsProcedure → a.IsProcedure :=
    List.pairwise_map.mpr (List.pairwise_of_forall fun _ _ _ => trivial)
  exact ⟨List.pairwise_append.mpr ⟨hroot.procedures_first, hps, fun e he _ _ _ => hprocedure e he⟩,
    forall_branch_append_procedures hroot.layered ps⟩

/-- A chain can open a branch. -/
lemma isRoot_addBranch (hroot : root.IsRoot) (key : Segment) (hrecord : record.IsChain) :
    IsRoot (root.addBranch key record) := by
  have hsingle : AreLayered [record] :=
    ⟨List.cons_ne_nil _ _, List.forall_mem_singleton.mpr hrecord, List.pairwise_singleton _ _⟩
  refine ⟨List.pairwise_append.mpr ⟨hroot.procedures_first, List.pairwise_singleton _ _, ?_⟩,
    forall_branch_addBranch hroot.layered key hsingle⟩
  intro e _ b hb
  obtain rfl := List.mem_singleton.mp hb
  exact False.elim

/-- A chain can join layered records that are no deeper. -/
lemma areLayered_append {records : List Record} (layered : AreLayered records)
    (hrecord : record.IsChain) (deep : ∀ r ∈ records, depth r ≤ depth record) :
    AreLayered (records ++ [record]) := by
  refine ⟨by simp, fun r hr => ?_, List.pairwise_append.mpr
    ⟨layered.sorted, List.pairwise_singleton _ _, fun r hr s hs => ?_⟩⟩
  · rcases List.mem_append.mp hr with hold | hnew
    · exact layered.chains r hold
    · rwa [List.mem_singleton.mp hnew]
  · obtain rfl := List.mem_singleton.mp hs
    exact deep r hr

/-- A branch can be replaced by one of the same key. -/
lemma isRoot_replace {before after : Record} {key : Segment} {records records' : List Record}
    (hroot : IsRoot (before ++ .branch key records :: after)) (layered : AreLayered records') :
    IsRoot (before ++ .branch key records' :: after) := by
  obtain ⟨hfirst, hlayered⟩ := hroot
  refine ⟨?_, forall_branch_replace hlayered layered⟩
  rw [List.pairwise_append, List.pairwise_cons] at hfirst ⊢
  obtain ⟨hbefore, ⟨hkey, hafter⟩, hcross⟩ := hfirst
  refine ⟨hbefore, ⟨hkey, hafter⟩, fun a ha b hb => ?_⟩
  rcases List.mem_cons.mp hb with rfl | hb
  · exact False.elim
  · exact hcross a ha b (List.mem_cons_of_mem _ hb)

/-- A chain can join the last branch of a key if it is no shallower than all records so far. -/
lemma isRoot_addToLast? {root' : Record} {key : Segment} (hroot : root.IsRoot)
    (within : root.Within bound) (hrecord : record.IsChain) (deep : bound ≤ record.depth + 1)
    (h : addToLast? key record root = some root') :
    root'.IsRoot ∧ root'.Within (record.depth + 1) := by
  rcases exists_last_branch key root with hnone | ⟨before, records, after, rfl, hafter⟩
  · rw [addToLast?_eq_none hnone] at h
    cases h
  · rw [addToLast?_append before records hafter] at h
    obtain rfl := Option.some.inj h
    have hmem : Entry.branch key records ∈ before ++ .branch key records :: after := by simp
    have hold : ∀ k rs, Entry.branch k rs ∈ before ++ .branch key records :: after →
        ∀ r ∈ rs, depth r < depth record + 1 :=
      fun k rs hbranch r hr => (within k rs hbranch r hr).trans_le deep
    have hgrown : ∀ r ∈ records ++ [record], depth r < depth record + 1 := by
      intro r hr
      rcases List.mem_append.mp hr with hr | hr
      · exact hold key records hmem r hr
      · rw [List.mem_singleton.mp hr]
        exact Nat.lt_succ_self _
    have hlayered : AreLayered (records ++ [record]) :=
      areLayered_append (hroot.layered key records hmem) hrecord fun r hr =>
        Nat.le_of_lt_succ (hold key records hmem r hr)
    exact ⟨isRoot_replace hroot hlayered,
      forall_branch_replace (P := fun rs => ∀ r ∈ rs, depth r < depth record + 1) hold hgrown⟩

/-- Records that are shallower than a bound are shallower than a higher one. -/
lemma Within.mono {bound' : ℕ} (within : root.Within bound) (h : bound ≤ bound') :
    root.Within bound' :=
  fun key records hbranch r hr => (within key records hbranch r hr).trans_le h

end Record

namespace Tree

/-- Adding a path that has no fewer segments than all paths so far keeps the shape. -/
lemma isRoot_add {bound : ℕ} {root : Record} {segments : List Segment} {ps : List Procedure}
    (hroot : root.IsRoot) (within : root.Within bound) (long : bound ≤ segments.length)
    (merge : Bool) (nonempty : ps ≠ [])
    (ordered : (ps.map Procedure.method).Sublist Method.all) :
    (add root merge segments ps).IsRoot ∧
      (add root merge segments ps).Within segments.length := by
  -- the root was within a bound that the segments reach, and stays within their number
  have hwithin := within.mono long
  cases segments with
  | nil =>
    exact ⟨Record.isRoot_append_procedures hroot hwithin ps,
      Record.forall_branch_append_procedures hwithin ps⟩
  | cons key rest =>
    have hchain := Record.isChain_chain rest nonempty ordered
    have hdepth := Record.depth_chain rest ps
    have hopen : (root.addBranch key (Record.chain rest ps)).IsRoot ∧
        (root.addBranch key (Record.chain rest ps)).Within (rest.length + 1) :=
      ⟨Record.isRoot_addBranch hroot key hchain,
        Record.forall_branch_addBranch hwithin key
          (List.forall_mem_singleton.mpr (hdepth.trans_lt (Nat.lt_succ_self _)))⟩
    cases merge with
    | false => exact hopen
    | true =>
      cases hadd : Record.addToLast? key (Record.chain rest ps) root with
      | none => simpa [add, hadd] using hopen
      | some root' =>
        have hjoin := Record.isRoot_addToLast? hroot hwithin hchain (by rw [hdepth]; rfl) hadd
        rw [hdepth] at hjoin
        simpa [add, hadd] using hjoin

/-- A visit keeps the shape. -/
lemma isRoot_visit {bound : ℕ} {s : State} (hroot : s.root.IsRoot)
    (within : s.root.Within bound) (index : ReferenceIndex) (path : List Segment × PathItem)
    (long : bound ≤ path.1.length) :
    (visit index s path).root.IsRoot ∧ (visit index s path).root.Within path.1.length := by
  obtain ⟨segments, item⟩ := path
  have hmethods := Record.methods_ofItem index item
  unfold visit
  cases hps : Procedure.ofItem index item with
  | nil => simpa [hps] using ⟨hroot, within.mono long⟩
  | cons p ps =>
    rw [hps] at hmethods
    simpa [hps] using isRoot_add hroot within long _ (List.cons_ne_nil p ps) hmethods

/-- A run that visits paths with no fewer segments than those before keeps the shape. -/
lemma isRoot_foldl_visit {bound : ℕ} {s : State} (hroot : s.root.IsRoot)
    (within : s.root.Within bound) (index : ReferenceIndex)
    {paths : List (List Segment × PathItem)} (long : ∀ path ∈ paths, bound ≤ path.1.length)
    (sorted : paths.Pairwise fun p q => p.1.length ≤ q.1.length) :
    (paths.foldl (visit index) s).root.IsRoot := by
  induction paths generalizing s bound with
  | nil => exact hroot
  | cons path paths ih =>
    obtain ⟨hlong, hsorted⟩ := List.pairwise_cons.mp sorted
    obtain ⟨hroot', hwithin'⟩ :=
      isRoot_visit hroot within index path (long path List.mem_cons_self)
    exact ih hroot' hwithin' hlong hsorted

/-- The root of the tree holds its procedures before its branches.  Each branch has a record; its
records are chains of single branches down to the procedures of a path, in the fixed order of the
methods; and no record of a branch is shallower than one before it. -/
theorem isRoot_build (index : ReferenceIndex) (paths : List (String × PathItem)) :
    (build index paths).IsRoot := by
  have hempty : Record.IsRoot [] := ⟨List.Pairwise.nil, fun _ _ h => by cases h⟩
  have hwithin : Record.Within 0 [] := fun _ _ h => by cases h
  exact isRoot_foldl_visit hempty hwithin index (fun _ _ => Nat.zero_le _)
    (visited_isStableSort paths).sorted

end Tree

end TypedRouter.Router
