import TypedRouter.Text.Blank
import Mathlib.Data.List.DropRight

/-!
# Trimming

Trimming a text takes characters of a class away at its two ends and leaves nothing of the class
there.  These two facts determine what is left, so a trimmed text can be put between any characters
of the class and is found again.
-/

namespace TypedRouter.Text

variable {p : Char → Bool} {cs before after : List Char}

/-- A text that neither begins nor ends with a character of a class. -/
structure IsTrimmed (p : Char → Bool) (cs : List Char) : Prop where
  head : ∀ c, cs.head? = some c → p c = false
  last : ∀ c, cs.getLast? = some c → p c = false

/-- Trimming leaves out a front of the text and then an end of what is left. -/
lemma trimBy_eq_rdropWhile (p : Char → Bool) (cs : List Char) :
    trimBy p cs = (cs.dropWhile p).rdropWhile p := rfl

/-- What is left of a text, without the front that is left out, starts with another character. -/
lemma head?_dropWhile {c : Char} (h : (cs.dropWhile p).head? = some c) : p c = false := by
  have hhead := List.head?_dropWhile_not p cs
  rw [h] at hhead
  exact hhead

/-- Trimming leaves nothing of the class at the ends. -/
theorem isTrimmed_trimBy (p : Char → Bool) (cs : List Char) : IsTrimmed p (trimBy p cs) := by
  rw [trimBy_eq_rdropWhile]
  constructor
  · intro c h
    have hprefix : (cs.dropWhile p).rdropWhile p <+: cs.dropWhile p :=
      List.rdropWhile_prefix p _
    obtain ⟨rest, hrest⟩ := hprefix
    have hhead : (cs.dropWhile p).head? = some c := by
      rw [← hrest, List.head?_append, h]
      rfl
    exact head?_dropWhile hhead
  · intro c h
    rw [List.rdropWhile, List.getLast?_reverse] at h
    exact head?_dropWhile h

/-- Trimming takes away nothing but characters of the class, at the ends. -/
theorem exists_append_trimBy (p : Char → Bool) (cs : List Char) :
    ∃ before after, cs = before ++ trimBy p cs ++ after ∧
      (∀ c ∈ before, p c = true) ∧ ∀ c ∈ after, p c = true := by
  let after := ((cs.dropWhile p).reverse.takeWhile p).reverse
  have hend : cs.dropWhile p = trimBy p cs ++ after := by
    rw [trimBy, ← List.reverse_append, List.takeWhile_append_dropWhile, List.reverse_reverse]
  have hafter : ∀ c ∈ after, p c = true := by
    intro c hc
    exact List.mem_takeWhile_imp (List.mem_reverse.mp hc)
  refine ⟨cs.takeWhile p, after, ?_, fun c hc => List.mem_takeWhile_imp hc, hafter⟩
  rw [List.append_assoc, ← hend, List.takeWhile_append_dropWhile]

/-- A trimmed text is what is left of it between characters of the class. -/
theorem trimBy_append (h : IsTrimmed p cs) (hbefore : ∀ c ∈ before, p c = true)
    (hafter : ∀ c ∈ after, p c = true) : trimBy p (before ++ cs ++ after) = cs := by
  rw [trimBy, List.append_assoc, List.dropWhile_append_of_pos hbefore]
  cases cs with
  | nil =>
    have hnil : after.dropWhile p = [] := List.dropWhile_eq_nil_iff.mpr hafter
    rw [List.nil_append, hnil]
    rfl
  | cons c cs =>
    have hfirst : p c = false := h.head c rfl
    have hafter' : ∀ d ∈ after.reverse, p d = true :=
      fun d hd => hafter d (List.mem_reverse.mp hd)
    rw [List.cons_append, List.dropWhile_cons_of_neg (by simp [hfirst]), ← List.cons_append,
      List.reverse_append, List.dropWhile_append_of_pos hafter']
    cases hreverse : (c :: cs).reverse with
    | nil => simp at hreverse
    | cons d ds =>
      have hlast : p d = false := h.last d (by rw [List.getLast?_eq_head?_reverse, hreverse]; rfl)
      rw [List.dropWhile_cons_of_neg (by simp [hlast]), ← hreverse, List.reverse_reverse]

end TypedRouter.Text
