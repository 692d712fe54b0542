import TypedRouter.Proofs.Router.Grouping
import TypedRouter.Proofs.Router.Leaves

/-!
# Which paths share a branch of the root

A path joins a branch if the path just before it starts with the same segment.  So one would expect
that only neighbours share a branch: that all paths between two paths of one branch start with the
segment of the branch, and that the leaves of the tree stand in the order in which the paths are
visited.

A path without operations spoils this.  It counts as the path just before the next one but opens no
branch of its own, so the next path joins a branch from before, whatever was visited since.  This is
the only way: neighbours alone share branches if and only if the first path that comes back to a
segment is live, whenever any of the paths that stay with the segment then is.  In particular it
holds if every path declares an operation.
-/

namespace TypedRouter.Router.Grouping

open OpenApi

section Positions

variable (es : List Visit)

/-- Between two paths that have their records in one branch, all paths start with the segment that
both start with. -/
def GroupsNeighbours : Prop :=
  ∀ o, ∀ i ∈ members es o, ∀ j ∈ members es o, ∀ k, i < k → k < j →
    first? es k = first? es i ∧ first? es k = first? es j

/-- After a path that starts otherwise, the first path that comes back to the segment of an earlier
live path is live, provided that some path is live before the segment is left again. -/
def ReturnsLive : Prop :=
  ∀ key i p j, isLiveAt es key i = true → i < p → first? es p ≠ some key → p < j →
    (∀ k, p < k → k ≤ j → first? es k = some key) → isLiveAt es key j = true →
      isLiveAt es key (p + 1) = true

/-- The members of a branch are the live paths that have its opener. -/
lemma mem_members_iff {o i : ℕ} :
    i ∈ members es o ↔ ∃ key, isLiveAt es key i = true ∧ opener es i = o := by
  rw [members, List.mem_filter, List.mem_range, Bool.and_eq_true, beq_iff_eq, Option.any_eq_true]
  constructor
  · rintro ⟨-, ⟨e, he, hadds⟩, hopener⟩
    obtain ⟨hlive, hsegments⟩ := (Bool.and_eq_true _ _).mp hadds
    obtain ⟨key, rest, hkey⟩ := List.exists_cons_of_ne_nil
      (by simpa using hsegments : e.1 ≠ [])
    exact ⟨key, (isLiveAt_iff es).mpr ⟨e, he, hlive, by rw [hkey]; rfl⟩, hopener⟩
  · rintro ⟨key, hlive, hopener⟩
    obtain ⟨e, he, hlive, hkey⟩ := (isLiveAt_iff es).mp hlive
    obtain ⟨rest, hrest⟩ := List.head?_eq_some_iff.mp hkey
    refine ⟨(List.getElem?_eq_some_iff.mp he).1, ⟨e, he, ?_⟩, hopener⟩
    simp [Visit.addsRecord, hlive, hrest]

/-- The opener of a live path starts with the same segment. -/
lemma first?_opener {key : Segment} {i : ℕ} (h : isLiveAt es key i = true) :
    first? es (opener es i) = some key :=
  first?_of_isLiveAt es (isLiveAt_opener es h).1

variable {es}

/-! ## Sufficiency -/

/-- If paths return live, all paths between a live path and the one it joins start with its
segment. -/
lemma first?_between_joined (h : ReturnsLive es) {key : Segment} {i j : ℕ}
    (hlive : isLiveAt es key j = true) (hjoin : joined? es j = some i) :
    ∀ k, i < k → k ≤ j → first? es k = some key := by
  obtain ⟨p, k, rfl, hk, hp, hlatest⟩ := (joined?_eq_some_iff es).mp hjoin
  obtain rfl : k = key := Option.some.inj (hk.symm.trans (first?_of_isLiveAt es hlive))
  obtain ⟨hij, hi, hbetween⟩ := latest?_eq_some es hlatest
  -- downwards from the joining path: a path that starts otherwise would make the next one live,
  -- but no path between the two is live
  have hdown (m : ℕ) : ∀ q, i < q → p + 1 - m ≤ q → q ≤ p + 1 → first? es q = some k := by
    induction m with
    | zero =>
      intro q _ hlow hhigh
      obtain rfl : q = p + 1 := by omega
      exact hk
    | succ m ih =>
      intro q hiq hlow hhigh
      rcases Nat.lt_or_ge q (p + 1 - m) with hq | hq
      · by_contra hother
        have hqp : q ≠ p := fun hqp => hother (hqp ▸ hp)
        have hreturn := h k i q (p + 1) hi hiq hother (by omega)
          (fun r hqr hr => ih r (by omega) (by omega) hr) hlive
        rw [hbetween (q + 1) (by omega) (by omega)] at hreturn
        cases hreturn
      · exact ih q hiq hq hhigh
  exact fun q hiq hq => hdown (p + 1) q hiq (by omega) hq

/-- If paths return live, all paths between two live paths of one branch start with its segment. -/
lemma first?_between (h : ReturnsLive es) {key : Segment} {i j : ℕ} (hij : i < j)
    (hi : isLiveAt es key i = true) (hj : isLiveAt es key j = true)
    (hopener : opener es i = opener es j) :
    ∀ k, i < k → k < j → first? es k = some key := by
  induction j using Nat.strong_induction_on with
  | _ j ih =>
    cases hjoin : joined? es j with
    | none =>
      have hle := opener_le es i
      rw [hopener, opener_of_joined_eq_none es hjoin] at hle
      omega
    | some l =>
      obtain ⟨p, k, -, hk, -, hlatest⟩ := (joined?_eq_some_iff es).mp hjoin
      obtain rfl : k = key := Option.some.inj (hk.symm.trans (first?_of_isLiveAt es hj))
      obtain ⟨hlj, hl, hbetween⟩ := latest?_eq_some es hlatest
      have hil : i ≤ l := by
        by_contra hli
        rw [hbetween i (not_le.mp hli) hij] at hi
        cases hi
      intro q hiq hqj
      rcases lt_trichotomy q l with hql | rfl | hlq
      · exact ih l hlj (hiq.trans hql) hl (hopener.trans (opener_of_joined es hjoin)) q hiq hql
      · exact first?_of_isLiveAt es hl
      · exact first?_between_joined h hj hjoin q hlq hqj.le

/-- If each return to a segment is live where it has to be, neighbours are grouped and no others. -/
lemma groupsNeighbours_of_returnsLive (h : ReturnsLive es) : GroupsNeighbours es := by
  intro o i hi j hj k hik hkj
  obtain ⟨key, hlive, hopener⟩ := (mem_members_iff es).mp hi
  obtain ⟨key', hlive', hopener'⟩ := (mem_members_iff es).mp hj
  have hkey : some key = some key' := by
    rw [← first?_opener es hlive, ← first?_opener es hlive', hopener, hopener']
  obtain rfl := Option.some.inj hkey
  have hbetween := first?_between h (hik.trans hkj) hlive hlive' (hopener.trans hopener'.symm) k
    hik hkj
  rw [hbetween, first?_of_isLiveAt es hlive, first?_of_isLiveAt es hlive']
  exact ⟨rfl, rfl⟩

/-! ## Necessity -/

/-- If neighbours alone share branches, paths return live. -/
lemma returnsLive_of_groupsNeighbours (h : GroupsNeighbours es) : ReturnsLive es := by
  intro key i p j hi hip hother hpj hstay hj
  -- the induction is on the live path `j`: as long as it joins a path after `p`, that one will do
  induction j using Nat.strong_induction_on with
  | _ j ih =>
    rcases Nat.lt_or_ge (p + 1) j with hj' | hj'
    · obtain ⟨q, rfl⟩ : ∃ q, j = q + 1 := ⟨j - 1, by omega⟩
      cases hlatest : latest? es key (q + 1) with
      | none =>
        have hnone := latest?_eq_none es hlatest i (by omega)
        rw [hi] at hnone
        cases hnone
      | some l =>
        obtain ⟨hlj, hl, -⟩ := latest?_eq_some es hlatest
        have hjoin : joined? es (q + 1) = some l := (joined?_eq_some_iff es).mpr
          ⟨q, key, rfl, hstay _ hpj le_rfl, hstay q (by omega) (by omega), hlatest⟩
        rcases lt_trichotomy l p with hlp | rfl | hpl
        · -- otherwise `p` stands between two paths of one branch
          have hbetween := (h (opener es l) l ((mem_members_iff es).mpr ⟨key, hl, rfl⟩) (q + 1)
            ((mem_members_iff es).mpr ⟨key, hj, opener_of_joined es hjoin⟩) p hlp hpj).1
          exact absurd (hbetween.trans (first?_of_isLiveAt es hl)) hother
        · exact absurd (first?_of_isLiveAt es hl) hother
        · exact ih l hlj hpl (fun k hpk hkl => hstay k hpk (hkl.trans hlj.le)) hl
    · obtain rfl : j = p + 1 := by omega
      exact hj

/-- If every path declares an operation, paths return live. -/
lemma returnsLive_of_isLive (h : ∀ e ∈ es, e.isLive = true) : ReturnsLive es := by
  intro key i p j _ _ _ hpj hstay _
  have hkey := hstay (p + 1) (Nat.lt_succ_self p) hpj
  obtain ⟨e, he, hhead⟩ := Option.bind_eq_some_iff.mp hkey
  exact (isLiveAt_iff es).mpr ⟨e, he, h e (List.mem_of_getElem? he), hhead⟩

end Positions

/-! ## The order of the leaves -/

section Leaves

variable (index : ReferenceIndex) {es : List Visit} {e : Visit}

/-- Leaving out the last path does not change how paths return. -/
lemma ReturnsLive.of_append (h : ReturnsLive (es ++ [e])) : ReturnsLive es := by
  intro key i p j hi hip hother hpj hstay hj
  obtain ⟨a, ha, -⟩ := (isLiveAt_iff es).mp hj
  have hjn : j < es.length := (List.getElem?_eq_some_iff.mp ha).1
  rw [← isLiveAt_append es e key (by omega)] at hi hj ⊢
  rw [← first?_append es e (by omega)] at hother
  refine h key i p j hi hip hother hpj (fun k hpk hkj => ?_) hj
  rw [first?_append es e (by omega)]
  exact hstay k hpk hkj

/-- The record of a path has its procedures below all segments but the first. -/
lemma leaves_record {key : Segment} (hkey : e.1.head? = some key) :
    ((e.record index).leaves).map (Leaf.below key) = pathLeaves index e := by
  obtain ⟨rest, hrest⟩ := List.head?_eq_some_iff.mp hkey
  rw [Visit.record, Record.leaves_chain, List.map_map, pathLeaves, hrest]
  rfl

/-- A record that joins the last entry adds its leaves at the end. -/
lemma leaves_join (before : Record) (key : Segment) (records : List Record) (record : Record) :
    Record.leaves (before ++ [.branch key (records ++ [record])]) =
      Record.leaves (before ++ [.branch key records]) ++
        (Record.leaves record).map (Leaf.below key) := by
  simp

/-- If paths return live, the branch that the last path joins is the last entry of the root. -/
lemma exists_root_eq (h : ReturnsLive (es ++ [e])) {key : Segment} {j : ℕ}
    (hlive : isLiveAt (es ++ [e]) key es.length = true)
    (hjoin : joined? (es ++ [e]) es.length = some j) (hlatest : latest? es key es.length = some j) :
    ∃ before records, root index es = before ++ [.branch key records] := by
  obtain ⟨hjn, hlivej, -⟩ := latest?_eq_some es hlatest
  obtain ⟨hopenLive, hopen⟩ := isLiveAt_opener es hlivej
  have ho : opener es j < es.length := (opener_le es j).trans_lt hjn
  have hopener : opener (es ++ [e]) (opener es j) = opener (es ++ [e]) es.length := by
    rw [opener_append es e ho, opener_of_joined_eq_none es hopen, opener_of_joined _ hjoin,
      opener_append es e hjn]
  have hafter : ∀ i ∈ List.range' (opener es j + 1) (es.length - opener es j - 1),
      entriesAt index es i = [] := by
    intro i hi
    obtain ⟨hoi, hin⟩ : opener es j < i ∧ i < es.length := by
      have := List.mem_range'_1.mp hi
      omega
    have hkey := first?_between h ho ((isLiveAt_append es e key ho).trans hopenLive) hlive hopener
      i hoi hin
    rw [first?_append es e hin] at hkey
    cases hi : isLiveAt es key i with
    | true =>
      obtain ⟨l, hl⟩ := Option.ne_none_iff_exists'.mp
        (joined?_ne_none_of_opener_lt es hlatest hoi hin hi)
      exact entriesAt_of_joined index es hkey hl
    | false =>
      obtain ⟨⟨segments, item⟩, hget, hhead⟩ := Option.bind_eq_some_iff.mp hkey
      obtain ⟨rest, rfl⟩ := List.head?_eq_some_iff.mp hhead
      have hdead : Visit.isLive (key :: rest, item) = false := by
        simpa [isLiveAt, first?, hget] using hi
      simp [entriesAt, hget, hdead]
  refine ⟨(List.range (opener es j)).flatMap (entriesAt index es),
    records index es (opener es j), ?_⟩
  rw [root, range_split ho, List.flatMap_append, List.flatMap_cons, List.flatMap_congr hafter,
    entriesAt_of_opens index es hopenLive hopen]
  simp

/-- If paths return live, the last path adds its leaves at the end. -/
lemma leaves_root_append (h : ReturnsLive (es ++ [e])) :
    (root index (es ++ [e])).leaves = (root index es).leaves ++ pathLeaves index e := by
  obtain ⟨segments, item⟩ := e
  cases segments with
  | nil =>
    rw [root_append_of_not_joined index es _ fun hadds => by simp [Visit.addsRecord] at hadds,
      Record.leaves_append]
    congr 1
    simp only [entriesAt, List.getElem?_concat_length, Record.leaves_procedures, pathLeaves]
  | cons key rest =>
    cases hdead : Visit.isLive (key :: rest, item) with
    | false =>
      have hnil := (Visit.ofItem_eq_nil_iff index (key :: rest, item)).mpr hdead
      rw [root_append_of_not_joined index es _ fun hadds => by
        simp [Visit.addsRecord, hdead] at hadds]
      simp [entriesAt, hdead, pathLeaves, hnil]
    | true =>
      have hlive : isLiveAt (es ++ [(key :: rest, item)]) key es.length = true :=
        (isLiveAt_iff _).mpr ⟨(key :: rest, item), by simp, hdead, rfl⟩
      cases hjoin : joined? (es ++ [(key :: rest, item)]) es.length with
      | none =>
        rw [root_append_of_not_joined index es _ fun _ => hjoin, Record.leaves_append,
          entriesAt_of_opens index _ hlive hjoin, records_append,
          opener_of_joined_eq_none _ hjoin, records_length, ← leaves_record index rfl]
        have hadds : Visit.addsRecord (key :: rest, item) = true := by
          simpa [Visit.addsRecord] using hdead
        rw [hadds, beq_self_eq_true, Bool.and_self, if_pos rfl, List.nil_append,
          Record.leaves_branch]
      | some j =>
        have hlast := joined?_last es key rest item
        rw [hjoin] at hlast
        have hlatest : latest? es key es.length = some j := by
          split_ifs at hlast
          exact hlast.symm
        have hadd := addToLast?_root index es rfl hdead hjoin hlatest
        obtain ⟨before, records, hroot⟩ := exists_root_eq index h hlive hjoin hlatest
        rw [hroot, Record.addToLast?_append before records (by simp), Option.some_inj] at hadd
        rw [← hadd, hroot, leaves_join, leaves_record index rfl]

/-- If paths return live, the leaves of the root stand in visiting order. -/
lemma leaves_root (h : ReturnsLive es) :
    (root index es).leaves = es.flatMap (pathLeaves index) := by
  induction es using List.reverseRecOn with
  | nil => rfl
  | append_singleton es e ih =>
    rw [leaves_root_append index h, ih h.of_append, List.flatMap_append, List.flatMap_singleton]

end Leaves

/-- In the branches of the tree, neighbours alone are grouped if and only if the first path that
comes back to a segment is live whenever any of those that stay with it is; and then the leaves of
the tree stand in visiting order.  It is so if every path declares an operation. -/
theorem groupsNeighbours_build_iff (index : ReferenceIndex) (paths : List (String × PathItem)) :
    Tree.build index paths = root index (Tree.visited paths) ∧
      (GroupsNeighbours (Tree.visited paths) ↔ ReturnsLive (Tree.visited paths)) ∧
      (ReturnsLive (Tree.visited paths) → (Tree.build index paths).leaves =
        (Tree.visited paths).flatMap (pathLeaves index)) ∧
      ((∀ e ∈ Tree.visited paths, Visit.isLive e = true) → ReturnsLive (Tree.visited paths)) := by
  have hbuild : Tree.build index paths = root index (Tree.visited paths) := by
    rw [Tree.build, foldl_visit_root]
  refine ⟨hbuild, ⟨returnsLive_of_groupsNeighbours, groupsNeighbours_of_returnsLive⟩, fun h => ?_,
    returnsLive_of_isLive⟩
  rw [hbuild, leaves_root index h]

/-- The paths of a store.  One user declares no operation of its own. -/
def storePaths : List (String × PathItem) :=
  [("/users", { get := some {} }), ("/pets", { get := some {} }), ("/users/\x7bid\x7d", {}),
    ("/users/\x7bid\x7d/posts", { get := some {} })]

/-- The paths of the store are visited in their own order. -/
lemma visited_storePaths :
    Tree.visited storePaths = storePaths.map fun (pattern, item) => (segments pattern, item) :=
  List.mergeSort_of_pairwise (by decide +kernel)

/-- The posts of a user are grouped with the users across the pets, and so the pets come last. -/
theorem storePaths_grouped_across :
    ¬ GroupsNeighbours (Tree.visited storePaths) ∧
      (Tree.build {} storePaths).leaves ≠ (Tree.visited storePaths).flatMap (pathLeaves {}) := by
  rw [Tree.build, visited_storePaths]
  constructor
  · intro h
    have hstay : ∀ k, 1 < k → k ≤ 3 →
        first? (storePaths.map fun (pattern, item) => (segments pattern, item)) k =
          some (.literal "users") := by
      intro k hk hk'
      obtain rfl | rfl : k = 2 ∨ k = 3 := by omega
      · decide +kernel
      · decide +kernel
    have hreturn := returnsLive_of_groupsNeighbours h (.literal "users") 0 1 3 (by decide +kernel)
      (by decide) (by decide +kernel) (by decide) hstay (by decide +kernel)
    exact absurd hreturn (by decide +kernel)
  · intro h
    exact absurd (congrArg (List.map Prod.fst) h) (by decide +kernel)

end TypedRouter.Router.Grouping
