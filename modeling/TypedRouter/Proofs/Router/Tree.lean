import TypedRouter.Router.Tree
import Mathlib.Data.List.Sort

/-!
# The steps of the router tree

What the tree is built from, one operation at a time.

A record that is added to the last branch of a key goes to the end of that branch, and everything
before and after the branch stays.  The visiting order is the stable sort of the paths by their
number of segments: it rearranges the paths, the numbers of segments never fall, and paths with
equally many segments keep their own order.
-/

namespace TypedRouter.Router

open OpenApi

/-! ## The last branch of a key -/

/-- An entry is a branch of a key. -/
def Entry.HasKey (key : Segment) : Entry → Prop
  | .branch k _ => k = key
  | .procedure _ => False

namespace Record

/-- A branch has its own key. -/
@[simp] lemma hasKey_branch (key k : Segment) (records : List Record) :
    Entry.HasKey key (.branch k records) ↔ k = key := Iff.rfl

/-- A procedure has no key. -/
@[simp] lemma not_hasKey_procedure (key : Segment) (p : Procedure) :
    ¬ Entry.HasKey key (.procedure p) := id

/-- A record without a branch of a key has no last one. -/
lemma addToLast?_eq_none {key : Segment} {record root : Record}
    (h : ∀ e ∈ root, ¬ e.HasKey key) : addToLast? key record root = none := by
  induction root with
  | nil => rfl
  | cons e rest ih =>
    have hrest : addToLast? key record rest = none :=
      ih fun e' he' => h e' (List.mem_cons_of_mem e he')
    have he : ¬ e.HasKey key := h e List.mem_cons_self
    cases e with
    | procedure p => simp [addToLast?, hrest]
    | branch k records => simpa [addToLast?, hrest] using he

/-- The record goes to the end of the last branch of its key. -/
lemma addToLast?_append {key : Segment} {record : Record} (before : Record)
    (records : List Record) {after : Record} (h : ∀ e ∈ after, ¬ e.HasKey key) :
    addToLast? key record (before ++ .branch key records :: after) =
      some (before ++ .branch key (records ++ [record]) :: after) := by
  induction before with
  | nil => simp [addToLast?, addToLast?_eq_none h]
  | cons e before ih => simp [addToLast?, ih]

/-- A record has no branch of a key, or it has a last one. -/
lemma exists_last_branch (key : Segment) (root : Record) :
    (∀ e ∈ root, ¬ e.HasKey key) ∨
      ∃ before records after, root = before ++ .branch key records :: after ∧
        ∀ e ∈ after, ¬ e.HasKey key := by
  induction root with
  | nil => exact .inl (by simp)
  | cons e rest ih =>
    rcases ih with hrest | ⟨before, records, after, rfl, hafter⟩
    · by_cases he : e.HasKey key
      · cases e with
        | procedure p => exact absurd he (not_hasKey_procedure key p)
        | branch k records =>
          obtain rfl : k = key := he
          exact .inr ⟨[], records, rest, rfl, hrest⟩
      · exact .inl (List.forall_mem_cons.mpr ⟨he, hrest⟩)
    · exact .inr ⟨e :: before, records, after, rfl, hafter⟩

end Record

/-! ## The visiting order -/

/-- A list is the stable sort of another by a measure. -/
structure IsStableSort {α : Type} (measure : α → ℕ) (xs ys : List α) : Prop where
  /-- The items are the same. -/
  perm : ys.Perm xs
  /-- The measure never falls. -/
  sorted : ys.Pairwise fun a b => measure a ≤ measure b
  /-- Items of equal measure keep their order. -/
  stable : ∀ n, ys.filter (fun a => measure a = n) = xs.filter fun a => measure a = n

/-- Merge sort by a measure is a stable sort. -/
theorem isStableSort_mergeSort {α : Type} (measure : α → ℕ) (xs : List α) :
    IsStableSort measure xs (xs.mergeSort fun a b => decide (measure a ≤ measure b)) := by
  have hperm := List.mergeSort_perm xs fun a b => decide (measure a ≤ measure b)
  have htrans : ∀ a b c : α, decide (measure a ≤ measure b) = true →
      decide (measure b ≤ measure c) = true → decide (measure a ≤ measure c) = true := by
    intro a b c hab hbc
    simp only [decide_eq_true_eq] at hab hbc ⊢
    exact le_trans hab hbc
  have htotal : ∀ a b : α,
      (decide (measure a ≤ measure b) || decide (measure b ≤ measure a)) = true := by
    intro a b
    simpa using le_total (measure a) (measure b)
  refine ⟨hperm, ?_, fun n => ?_⟩
  · exact (List.pairwise_mergeSort htrans htotal xs).imp fun h => of_decide_eq_true h
  · -- the items of measure `n` are sorted already, so they stand in the sorted list in this order
    have hsorted : (xs.filter fun a => measure a = n).Pairwise
        fun a b => decide (measure a ≤ measure b) = true := by
      refine List.pairwise_of_forall_mem_list ?_
      intro a ha b hb
      have ha' : measure a = n := by simpa using (List.mem_filter.mp ha).2
      have hb' : measure b = n := by simpa using (List.mem_filter.mp hb).2
      simp [ha', hb']
    have hsub := (List.sublist_mergeSort htrans htotal hsorted
      List.filter_sublist).filter fun a => decide (measure a = n)
    rw [List.filter_filter] at hsub
    simp only [Bool.and_self] at hsub
    exact (hsub.eq_of_length (hperm.filter _).length_eq.symm).symm

namespace Tree

/-- The paths are visited in the stable order of their numbers of segments. -/
theorem visited_isStableSort (paths : List (String × PathItem)) :
    IsStableSort (fun e => e.1.length)
      (paths.map fun (pattern, item) => (segments pattern, item)) (visited paths) :=
  isStableSort_mergeSort _ _

end Tree

end TypedRouter.Router
