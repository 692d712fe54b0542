import TypedRouter.Proofs.Router.Tree
import Mathlib.Data.List.Induction

/-!
# Groups of paths at the root

Which branch of the root a path adds its record to, told from the paths alone.

Positions count the paths in visiting order.  A path is live if it declares an operation.  A live
path with segments *joins* the latest live path before it that starts with the same segment,
provided that the path just before it, live or not, starts with that segment too; otherwise it
opens a branch.  Following the paths that are joined leads back to the one that opened the branch,
the *opener*.  So the root is known position by position: a path without segments adds its
procedures, and a path that opens a branch adds it with the records of all paths that it is the
opener of, in visiting order.

The tree is built without positions: a record is added to the last branch of its key.  This is the
branch of the right opener, since the paths between the opener and the latest live path of a
segment open no branch of that segment.
-/

namespace TypedRouter.Router

open OpenApi

/-- A path as it is visited: its segments and its operations. -/
abbrev Visit := List Segment × PathItem

namespace Visit

/-- Whether a path declares an operation. -/
def isLive (e : Visit) : Bool := !e.2.operations.isEmpty

/-- Whether a path adds a record below its first segment. -/
def addsRecord (e : Visit) : Bool := e.isLive && !e.1.isEmpty

/-- The record that a path adds below its first segment. -/
def record (index : ReferenceIndex) (e : Visit) : Record :=
  Record.chain e.1.tail (Procedure.ofItem index e.2)

/-- A path that is not live has no procedures. -/
@[simp] lemma ofItem_eq_nil_iff (index : ReferenceIndex) (e : Visit) :
    Procedure.ofItem index e.2 = [] ↔ e.isLive = false := by
  simp [Procedure.ofItem, isLive]

end Visit

namespace Grouping

/-! ## Joining and opening -/

section Positions

variable (es : List Visit)

/-- The first segment of the path at a position. -/
def first? (i : ℕ) : Option Segment := es[i]?.bind fun e => e.1.head?

/-- Whether the path at a position is live and starts with a segment. -/
def isLiveAt (key : Segment) (i : ℕ) : Bool := es[i]?.any Visit.isLive && first? es i == some key

/-- The latest position before `i` of a live path that starts with a segment. -/
def latest? (key : Segment) : ℕ → Option ℕ
  | 0 => none
  | i + 1 => if isLiveAt es key i then some i else latest? key i

/-- The position of the path that the path at a position joins. -/
def joined? : ℕ → Option ℕ
  | 0 => none
  | i + 1 =>
    (first? es (i + 1)).bind fun key =>
      if first? es i = some key then latest? es key (i + 1) else none

/-- A path that is live at a segment is there, is live, and starts with the segment. -/
lemma isLiveAt_iff {key : Segment} {i : ℕ} :
    isLiveAt es key i = true ↔
      ∃ e, es[i]? = some e ∧ e.isLive = true ∧ e.1.head? = some key := by
  cases h : es[i]? with
  | none => simp [isLiveAt, h]
  | some e => simp [isLiveAt, first?, h]

/-- A path that is live at a segment starts with it. -/
lemma first?_of_isLiveAt {key : Segment} {i : ℕ} (h : isLiveAt es key i = true) :
    first? es i = some key := by
  simp only [isLiveAt, Bool.and_eq_true, beq_iff_eq] at h
  exact h.2

/-- The latest live path of a segment is live, starts with the segment, and no such path follows
it. -/
lemma latest?_eq_some {key : Segment} {i j : ℕ} (h : latest? es key i = some j) :
    j < i ∧ isLiveAt es key j = true ∧ ∀ k, j < k → k < i → isLiveAt es key k = false := by
  induction i with
  | zero => cases h
  | succ i ih =>
    by_cases hlive : isLiveAt es key i = true
    · obtain rfl : i = j := by simpa [latest?, hlive] using h
      exact ⟨Nat.lt_succ_self i, hlive, fun k hik hki => by omega⟩
    · obtain ⟨hji, hj, hbetween⟩ := ih (by simpa [latest?, hlive] using h)
      refine ⟨Nat.lt_succ_of_lt hji, hj, fun k hjk hki => ?_⟩
      rcases Nat.lt_succ_iff_lt_or_eq.mp hki with hk | rfl
      · exact hbetween k hjk hk
      · simpa using hlive

/-- Without a latest live path of a segment there is no such path at all. -/
lemma latest?_eq_none {key : Segment} {i : ℕ} (h : latest? es key i = none) :
    ∀ k < i, isLiveAt es key k = false := by
  induction i with
  | zero => exact fun k hk => absurd hk (Nat.not_lt_zero k)
  | succ i ih =>
    by_cases hlive : isLiveAt es key i = true
    · simp [latest?, hlive] at h
    · intro k hk
      rcases Nat.lt_succ_iff_lt_or_eq.mp hk with hk | rfl
      · exact ih (by simpa [latest?, hlive] using h) k hk
      · simpa using hlive

/-- The latest live path of a segment, told by what lies between. -/
lemma latest?_eq_some_iff {key : Segment} {i j : ℕ} :
    latest? es key i = some j ↔
      j < i ∧ isLiveAt es key j = true ∧ ∀ k, j < k → k < i → isLiveAt es key k = false := by
  refine ⟨latest?_eq_some es, ?_⟩
  rintro ⟨hji, hj, hbetween⟩
  cases h : latest? es key i with
  | none =>
    rw [latest?_eq_none es h j hji] at hj
    cases hj
  | some k =>
    obtain ⟨hki, hk, hafter⟩ := latest?_eq_some es h
    rcases lt_trichotomy j k with hjk | rfl | hkj
    · rw [hbetween k hjk hki] at hk
      cases hk
    · rfl
    · rw [hafter j hkj hji] at hj
      cases hj

/-- A path joins the latest live path of its first segment, if the path just before it starts
with that segment. -/
lemma joined?_eq_some_iff {i j : ℕ} :
    joined? es i = some j ↔
      ∃ p key, i = p + 1 ∧ first? es i = some key ∧ first? es p = some key ∧
        latest? es key i = some j := by
  cases i with
  | zero => simp [joined?]
  | succ p =>
    simp only [joined?, Option.bind_eq_some_iff]
    constructor
    · rintro ⟨key, hkey, h⟩
      by_cases hp : first? es p = some key
      · exact ⟨p, key, rfl, hkey, hp, by simpa [hp] using h⟩
      · simp [hp] at h
    · rintro ⟨q, key, hq, hkey, hp, h⟩
      obtain rfl : p = q := by omega
      exact ⟨key, hkey, by simp [hp, h]⟩

/-- A path joins an earlier one. -/
lemma joined?_lt {i j : ℕ} (h : joined? es i = some j) : j < i := by
  obtain ⟨p, key, -, -, -, hlatest⟩ := (joined?_eq_some_iff es).mp h
  exact (latest?_eq_some es hlatest).1

/-- The position of the path that opened the branch of the path at a position. -/
def opener (i : ℕ) : ℕ :=
  match _h : joined? es i with
  | some j => opener j
  | none => i
termination_by i
decreasing_by exact joined?_lt es _h

/-- A path that joins another shares its opener. -/
lemma opener_of_joined {i j : ℕ} (h : joined? es i = some j) : opener es i = opener es j := by
  rw [opener]
  split
  · next k hk => rw [Option.some.inj (hk.symm.trans h)]
  · next hk => rw [hk] at h; cases h

/-- A path that joins no other is its own opener. -/
lemma opener_of_joined_eq_none {i : ℕ} (h : joined? es i = none) : opener es i = i := by
  rw [opener]
  split
  · next k hk => rw [hk] at h; cases h
  · rfl

/-- The opener of a path is no later than the path. -/
lemma opener_le (i : ℕ) : opener es i ≤ i := by
  induction i using Nat.strong_induction_on with
  | _ i ih =>
    cases hj : joined? es i with
    | none => exact (opener_of_joined_eq_none es hj).le
    | some j =>
      have hji := joined?_lt es hj
      rw [opener_of_joined es hj]
      exact (ih j hji).trans hji.le

/-- The opener of a live path is a live path of the same segment that joins no other. -/
lemma isLiveAt_opener {key : Segment} {i : ℕ} (h : isLiveAt es key i = true) :
    isLiveAt es key (opener es i) = true ∧ joined? es (opener es i) = none := by
  induction i using Nat.strong_induction_on with
  | _ i ih =>
    cases hj : joined? es i with
    | none =>
      rw [opener_of_joined_eq_none es hj]
      exact ⟨h, hj⟩
    | some j =>
      rw [opener_of_joined es hj]
      obtain ⟨p, k, -, hk, -, hlatest⟩ := (joined?_eq_some_iff es).mp hj
      obtain ⟨hji, hlive, -⟩ := latest?_eq_some es hlatest
      obtain rfl : k = key := Option.some.inj (hk.symm.trans (first?_of_isLiveAt es h))
      exact ih j hji hlive

/-- After the opener of the latest live path of a segment, no path opens a branch of that
segment. -/
lemma joined?_ne_none_of_opener_lt {key : Segment} {n i j : ℕ}
    (hlatest : latest? es key n = some j) (hi : opener es j < i) (hin : i < n)
    (hlive : isLiveAt es key i = true) : joined? es i ≠ none := by
  induction n using Nat.strong_induction_on generalizing j with
  | _ n ih =>
    obtain ⟨hjn, hj, hbetween⟩ := latest?_eq_some es hlatest
    have hij : i ≤ j := by
      by_contra hji
      rw [hbetween i (not_le.mp hji) hin] at hlive
      cases hlive
    cases hjoin : joined? es j with
    | none =>
      rw [opener_of_joined_eq_none es hjoin] at hi
      omega
    | some j' =>
      rcases hij.lt_or_eq with hij | rfl
      · rw [opener_of_joined es hjoin] at hi
        obtain ⟨p, k, -, hk, -, hlatest'⟩ := (joined?_eq_some_iff es).mp hjoin
        obtain rfl : k = key := Option.some.inj (hk.symm.trans (first?_of_isLiveAt es hj))
        exact ih j hjn hlatest' hi hij
      · simp [hjoin]

end Positions

/-! ## The root, position by position -/

section Root

variable (index : ReferenceIndex) (es : List Visit)

/-- The positions of the paths whose records are in the branch opened at a position. -/
def members (o : ℕ) : List ℕ :=
  (List.range es.length).filter fun i => es[i]?.any Visit.addsRecord && opener es i == o

/-- The records of the branch opened at a position, in visiting order. -/
def records (o : ℕ) : List Record :=
  (members es o).filterMap fun i => es[i]?.map (Visit.record index)

/-- What the path at a position adds to the entries of the root: its procedures if it has no
segments, and the branch that it opens if it joins no other path. -/
def entriesAt (i : ℕ) : Record :=
  match es[i]? with
  | none => []
  | some ([], item) => (Procedure.ofItem index item).map .procedure
  | some (key :: rest, item) =>
    if Visit.isLive (key :: rest, item) && (joined? es i).isNone then
      [.branch key (records index es i)]
    else []

/-- The entries of the root. -/
def root : Record := (List.range es.length).flatMap (entriesAt index es)

/-- A live path that joins no other opens the branch of its first segment. -/
lemma entriesAt_of_opens {key : Segment} {i : ℕ} (hlive : isLiveAt es key i = true)
    (hopen : joined? es i = none) :
    entriesAt index es i = [.branch key (records index es i)] := by
  obtain ⟨⟨segments, item⟩, hget, hlive, hkey⟩ := (isLiveAt_iff es).mp hlive
  obtain ⟨rest, rfl⟩ := List.head?_eq_some_iff.mp hkey
  simp [entriesAt, hget, hlive, hopen]

/-- A path that joins another adds no entry. -/
lemma entriesAt_of_joined {key : Segment} {i j : ℕ} (hkey : first? es i = some key)
    (hjoin : joined? es i = some j) : entriesAt index es i = [] := by
  obtain ⟨⟨segments, item⟩, hget, hhead⟩ := Option.bind_eq_some_iff.mp hkey
  obtain ⟨rest, rfl⟩ := List.head?_eq_some_iff.mp hhead
  simp [entriesAt, hget, hjoin]

/-- A branch of the root at a position is that of a live path of its key. -/
lemma not_hasKey_of_not_isLiveAt {key : Segment} {i : ℕ}
    (h : isLiveAt es key i = true → joined? es i ≠ none) :
    ∀ entry ∈ entriesAt index es i, ¬ entry.HasKey key := by
  intro entry hentry hkey
  unfold entriesAt at hentry
  split at hentry
  · cases hentry
  · obtain ⟨p, -, rfl⟩ := List.mem_map.mp hentry
    exact hkey
  · next k rest item hi =>
    split_ifs at hentry with hopens
    · obtain rfl := List.mem_singleton.mp hentry
      obtain rfl : k = key := hkey
      rw [Bool.and_eq_true, Option.isNone_iff_eq_none] at hopens
      exact h ((isLiveAt_iff es).mpr ⟨_, hi, hopens.1, rfl⟩) hopens.2
    · cases hentry

end Root

/-! ## One more path -/

section Append

variable (index : ReferenceIndex) (es : List Visit) (e : Visit)

/-- The first segment of an earlier path does not change. -/
@[simp] lemma first?_append {i : ℕ} (hi : i < es.length) :
    first? (es ++ [e]) i = first? es i := by
  rw [first?, first?, List.getElem?_append_left hi]

/-- Whether an earlier path is live at a segment does not change. -/
@[simp] lemma isLiveAt_append (key : Segment) {i : ℕ} (hi : i < es.length) :
    isLiveAt (es ++ [e]) key i = isLiveAt es key i := by
  rw [isLiveAt, isLiveAt, first?_append es e hi, List.getElem?_append_left hi]

/-- The latest live path before an earlier position does not change. -/
@[simp] lemma latest?_append (key : Segment) {i : ℕ} (hi : i ≤ es.length) :
    latest? (es ++ [e]) key i = latest? es key i := by
  induction i with
  | zero => rfl
  | succ i ih =>
    rw [latest?, latest?, isLiveAt_append es e key hi, ih (Nat.le_of_succ_le hi)]

/-- What an earlier path joins does not change. -/
@[simp] lemma joined?_append {i : ℕ} (hi : i < es.length) :
    joined? (es ++ [e]) i = joined? es i := by
  cases i with
  | zero => rfl
  | succ i =>
    rw [joined?, joined?, first?_append es e hi]
    refine Option.bind_congr fun key _ => ?_
    rw [first?_append es e (Nat.lt_of_succ_lt hi), latest?_append es e key hi.le]

/-- The opener of an earlier path does not change. -/
@[simp] lemma opener_append {i : ℕ} (hi : i < es.length) :
    opener (es ++ [e]) i = opener es i := by
  induction i using Nat.strong_induction_on with
  | _ i ih =>
    cases hj : joined? es i with
    | none =>
      have hj' : joined? (es ++ [e]) i = none := by simpa [hi] using hj
      rw [opener_of_joined_eq_none es hj, opener_of_joined_eq_none (es ++ [e]) hj']
    | some j =>
      have hji := joined?_lt es hj
      have hj' : joined? (es ++ [e]) i = some j := by simpa [hi] using hj
      rw [opener_of_joined es hj, opener_of_joined (es ++ [e]) hj']
      exact ih j hji (hji.trans hi)

/-- The last path adds its record to the branch of its opener, and no other branch changes. -/
lemma records_append (o : ℕ) :
    records index (es ++ [e]) o =
      if e.addsRecord && opener (es ++ [e]) es.length == o then
        records index es o ++ [e.record index]
      else records index es o := by
  have hmembers : members (es ++ [e]) o = members es o ++
      if e.addsRecord && opener (es ++ [e]) es.length == o then [es.length] else [] := by
    have hold : (List.range es.length).filter (fun i =>
        (es ++ [e])[i]?.any Visit.addsRecord && opener (es ++ [e]) i == o) = members es o := by
      refine List.filter_congr fun i hi => ?_
      have hi' := List.mem_range.mp hi
      rw [List.getElem?_append_left hi', opener_append es e hi']
    rw [members, List.length_append, List.length_singleton, List.range_succ, List.filter_append,
      hold]
    simp [List.filter_cons]
  have hold : (members es o).filterMap (fun i => (es ++ [e])[i]?.map (Visit.record index)) =
      records index es o := by
    refine List.filterMap_congr fun i hi => ?_
    rw [List.getElem?_append_left (List.mem_range.mp (List.mem_of_mem_filter hi))]
  rw [records, hmembers, List.filterMap_append, hold]
  split_ifs <;> simp

/-- The records of a branch that no path has opened yet. -/
lemma records_length : records index es es.length = [] := by
  have hmembers : members es es.length = [] := by
    refine List.filter_eq_nil_iff.mpr fun i hi => ?_
    have hlt := (opener_le es i).trans_lt (List.mem_range.mp hi)
    simp [hlt.ne]
  rw [records, hmembers]
  rfl

/-- The entries at an earlier position change only if the last path adds its record there. -/
lemma entriesAt_append {i : ℕ} (hi : i < es.length)
    (h : ¬ (e.addsRecord = true ∧ opener (es ++ [e]) es.length = i)) :
    entriesAt index (es ++ [e]) i = entriesAt index es i := by
  have hrecords : records index (es ++ [e]) i = records index es i := by
    rw [records_append, if_neg (by simpa using h)]
  rw [entriesAt, entriesAt, List.getElem?_append_left hi, joined?_append es e hi, hrecords]

/-- The last path comes after all others. -/
lemma root_append :
    root index (es ++ [e]) =
      (List.range es.length).flatMap (entriesAt index (es ++ [e])) ++
        entriesAt index (es ++ [e]) es.length := by
  rw [root, List.length_append, List.length_singleton, List.range_succ, List.flatMap_append,
    List.flatMap_singleton]

/-- A path that joins no other only adds entries at the end. -/
lemma root_append_of_not_joined
    (h : e.addsRecord = true → joined? (es ++ [e]) es.length = none) :
    root index (es ++ [e]) = root index es ++ entriesAt index (es ++ [e]) es.length := by
  rw [root_append]
  congr 1
  refine List.flatMap_congr fun i hi => ?_
  have hi' := List.mem_range.mp hi
  refine entriesAt_append index es e hi' ?_
  rintro ⟨hadds, hopener⟩
  rw [opener_of_joined_eq_none _ (h hadds)] at hopener
  omega

end Append

/-! ## The tree is the root -/

section Build

variable (index : ReferenceIndex) (es : List Visit)

/-- The first segment of the path that was visited last. -/
def lastFirst? : Option Segment := es.getLast?.bind fun e => e.1.head?

/-- What the last path joins, from the path before it. -/
lemma joined?_last (key : Segment) (rest : List Segment) (item : PathItem) :
    joined? (es ++ [(key :: rest, item)]) es.length =
      if lastFirst? es = some key then latest? es key es.length else none := by
  have hfirst : first? (es ++ [(key :: rest, item)]) es.length = some key := by
    simp [first?]
  rw [lastFirst?, List.getLast?_eq_getElem?]
  cases hn : es.length with
  | zero => simp [joined?, List.eq_nil_of_length_eq_zero hn]
  | succ p =>
    have hp : p < es.length := by omega
    rw [hn] at hfirst
    rw [joined?, hfirst, Option.bind_some, first?_append es _ hp,
      latest?_append es _ key hn.ge]
    rfl

/-- Before the first live path of a segment, the root has no branch of that segment. -/
lemma root_not_hasKey {key : Segment} (h : latest? es key es.length = none) :
    ∀ entry ∈ root index es, ¬ entry.HasKey key := by
  intro entry hentry
  obtain ⟨i, hi, hentry⟩ := List.mem_flatMap.mp hentry
  have hlive := latest?_eq_none es h i (List.mem_range.mp hi)
  exact not_hasKey_of_not_isLiveAt index es (fun h => by simp [hlive] at h) entry hentry

/-- The positions before one position, the position, and those after it. -/
lemma range_split {n o : ℕ} (h : o < n) :
    List.range n = List.range o ++ o :: List.range' (o + 1) (n - o - 1) := by
  obtain ⟨m, rfl⟩ : ∃ m, n = o + (m + 1) := ⟨n - o - 1, by omega⟩
  rw [List.range_eq_range', List.range_eq_range', ← List.range'_append_1, Nat.zero_add,
    List.range'_succ]
  congr 3
  omega

/-- A record that joins the latest live path of its segment goes to the last branch of the
segment. -/
lemma addToLast?_root {key : Segment} {e : Visit} {j : ℕ} (hkey : e.1.head? = some key)
    (hlive : e.isLive = true) (hjoin : joined? (es ++ [e]) es.length = some j)
    (hlatest : latest? es key es.length = some j) :
    Record.addToLast? key (e.record index) (root index es) = some (root index (es ++ [e])) := by
  obtain ⟨hjn, hlivej, -⟩ := latest?_eq_some es hlatest
  obtain ⟨hopenLive, hopen⟩ := isLiveAt_opener es hlivej
  have ho : opener es j < es.length := (opener_le es j).trans_lt hjn
  have hopener : opener (es ++ [e]) es.length = opener es j := by
    rw [opener_of_joined _ hjoin, opener_append es e hjn]
  have hold : ∀ i < es.length, i ≠ opener es j →
      entriesAt index (es ++ [e]) i = entriesAt index es i :=
    fun i hi hne => entriesAt_append index es e hi fun h => hne (h.2.symm.trans hopener)
  have hbranch := entriesAt_of_opens index es hopenLive hopen
  have hbranch' := entriesAt_of_opens index (es ++ [e])
    ((isLiveAt_append es e key ho).trans hopenLive) ((joined?_append es e ho).trans hopen)
  have hlast : entriesAt index (es ++ [e]) es.length = [] :=
    entriesAt_of_joined index (es ++ [e]) (by simpa [first?] using hkey) hjoin
  have hadds : e.addsRecord = true := by
    obtain ⟨rest, hrest⟩ := List.head?_eq_some_iff.mp hkey
    simp [Visit.addsRecord, hlive, hrest]
  have hbefore : ∀ i ∈ List.range (opener es j),
      entriesAt index (es ++ [e]) i = entriesAt index es i := by
    intro i hi
    have hi := List.mem_range.mp hi
    exact hold i (hi.trans ho) hi.ne
  have hmem : ∀ i ∈ List.range' (opener es j + 1) (es.length - opener es j - 1),
      opener es j < i ∧ i < es.length := by
    intro i hi
    have := List.mem_range'_1.mp hi
    omega
  have hafter : ∀ i ∈ List.range' (opener es j + 1) (es.length - opener es j - 1),
      entriesAt index (es ++ [e]) i = entriesAt index es i :=
    fun i hi => hold i (hmem i hi).2 (hmem i hi).1.ne'
  -- the opener divides the root: before it and after it the last path changes nothing
  rw [root_append, hlast, List.append_nil, root, range_split ho]
  simp only [List.flatMap_append, List.flatMap_cons, List.flatMap_congr hbefore,
    List.flatMap_congr hafter, hbranch, hbranch', records_append, hadds, hopener, beq_self_eq_true,
    Bool.and_self, if_true, List.singleton_append]
  refine Record.addToLast?_append _ _ fun entry hentry => ?_
  obtain ⟨i, hi, hentry⟩ := List.mem_flatMap.mp hentry
  obtain ⟨hoi, hin⟩ := hmem i hi
  exact not_hasKey_of_not_isLiveAt index es (joined?_ne_none_of_opener_lt es hlatest hoi hin)
    entry hentry

/-- Adding a live path with segments to the root is one more position. -/
lemma add_root {key : Segment} {rest : List Segment} {item : PathItem}
    (hlive : Visit.isLive (key :: rest, item) = true) :
    Tree.add (root index es) (lastFirst? es == some key) (key :: rest)
        (Procedure.ofItem index item) =
      root index (es ++ [(key :: rest, item)]) := by
  set e : Visit := (key :: rest, item) with he
  have hjoined := joined?_last es key rest item
  rw [← he] at hjoined
  have hopens : joined? (es ++ [e]) es.length = none →
      (root index es).addBranch key (e.record index) = root index (es ++ [e]) := by
    intro hnone
    have hliveAt : isLiveAt (es ++ [e]) key es.length = true :=
      (isLiveAt_iff _).mpr ⟨e, by simp, hlive, rfl⟩
    have hadds : e.addsRecord = true := by simpa [Visit.addsRecord, he] using hlive
    rw [root_append_of_not_joined index es e fun _ => hnone,
      entriesAt_of_opens index (es ++ [e]) hliveAt hnone, records_append,
      opener_of_joined_eq_none _ hnone, records_length]
    simp [hadds, Record.addBranch]
  have hrecord : Record.chain rest (Procedure.ofItem index item) = e.record index := rfl
  -- the path opens a branch unless the path before it has its key and there is a branch to join
  by_cases hmerge : lastFirst? es = some key
  · rw [if_pos hmerge] at hjoined
    cases hlatest : latest? es key es.length with
    | none =>
      have hnone : Record.addToLast? key (e.record index) (root index es) = none :=
        Record.addToLast?_eq_none (root_not_hasKey index es hlatest)
      simp [Tree.add, hmerge, hrecord, hnone, hopens (hjoined.trans hlatest)]
    | some j =>
      have hsome := addToLast?_root index es rfl hlive (hjoined.trans hlatest) hlatest
      simp [Tree.add, hmerge, hrecord, hsome]
  · rw [if_neg hmerge] at hjoined
    simp [Tree.add, hmerge, hrecord, hopens hjoined]

/-- A visit is one more position. -/
lemma visit_root (e : Visit) :
    Tree.visit index ⟨root index es, lastFirst? es⟩ e =
      ⟨root index (es ++ [e]), lastFirst? (es ++ [e])⟩ := by
  obtain ⟨segments, item⟩ := e
  have hlast : lastFirst? (es ++ [(segments, item)]) = segments.head? := by simp [lastFirst?]
  rw [hlast]
  cases hlive : Visit.isLive (segments, item) with
  | false =>
    have hnil : Procedure.ofItem index item = [] :=
      (Visit.ofItem_eq_nil_iff index (segments, item)).mpr hlive
    have hroot := root_append_of_not_joined index es (segments, item)
      (fun h => by simp [Visit.addsRecord, hlive] at h)
    have hentries : entriesAt index (es ++ [(segments, item)]) es.length = [] := by
      cases segments with
      | nil => simp [entriesAt, hnil]
      | cons key rest => simp [entriesAt, hlive]
    rw [hroot, hentries, List.append_nil]
    simp [Tree.visit, hnil]
  | true =>
    have hps : Procedure.ofItem index item ≠ [] := fun h => by
      rw [Visit.ofItem_eq_nil_iff index (segments, item), hlive] at h
      cases h
    cases segments with
    | nil =>
      have hroot := root_append_of_not_joined index es ([], item)
        (fun h => by simp [Visit.addsRecord] at h)
      have hentries : entriesAt index (es ++ [([], item)]) es.length =
          (Procedure.ofItem index item).map .procedure := by
        simp [entriesAt]
      rw [hroot, hentries]
      obtain ⟨p, ps, hcons⟩ := List.exists_cons_of_ne_nil hps
      simp [Tree.visit, Tree.add, hcons]
    | cons key rest =>
      rw [← add_root index es hlive]
      obtain ⟨p, ps, hcons⟩ := List.exists_cons_of_ne_nil hps
      simp [Tree.visit, hcons, Bool.beq_comm]

/-- A run visits the paths position by position. -/
lemma foldl_visit_root :
    es.foldl (Tree.visit index) {} = ⟨root index es, lastFirst? es⟩ := by
  induction es using List.reverseRecOn with
  | nil => rfl
  | append_singleton es e ih =>
    rw [List.foldl_append, List.foldl_cons, List.foldl_nil, ih, visit_root]

end Build

/-- The entries of the root are known position by position, for the paths in the stable order of
their numbers of segments.  A path joins the latest live path before it that starts with the same
segment, exactly if the path just before it starts with that segment as well; it has its opener in
common with the path that it joins, and is its own opener if it joins none.  A live path with
segments has its record in exactly one branch, that of its opener, which is a live path of the same
first segment that joins no other. -/
theorem build_grouping (index : ReferenceIndex) (paths : List (String × PathItem)) :
    let es := Tree.visited paths
    IsStableSort (fun e => e.1.length)
        (paths.map fun (pattern, item) => (segments pattern, item)) es ∧
      (∀ i j, joined? es i = some j ↔
        ∃ p key, i = p + 1 ∧ first? es i = some key ∧ first? es p = some key ∧
          j < i ∧ isLiveAt es key j = true ∧
          ∀ k, j < k → k < i → isLiveAt es key k = false) ∧
      (∀ i j, joined? es i = some j → opener es i = opener es j) ∧
      (∀ i, joined? es i = none → opener es i = i) ∧
      (∀ key i, isLiveAt es key i = true →
        opener es i ≤ i ∧ isLiveAt es key (opener es i) = true ∧
          joined? es (opener es i) = none) ∧
      Tree.build index paths = root index es := by
  intro es
  refine ⟨Tree.visited_isStableSort paths, fun i j => ?_, fun i j => opener_of_joined es,
    fun i => opener_of_joined_eq_none es, fun key i hlive => ?_, ?_⟩
  · simp only [joined?_eq_some_iff, latest?_eq_some_iff]
  · exact ⟨opener_le es i, isLiveAt_opener es hlive⟩
  · rw [Tree.build, foldl_visit_root]

end Grouping

end TypedRouter.Router
