import TypedRouter.Text.Digits
import Mathlib.Data.List.Induction
import Mathlib.Data.List.TakeWhile
import Mathlib.Tactic.Common

/-!
# Numerals

Digits denote a number: they are its decimal numeral, perhaps with zeros before it.  There is no
bound on the number or on the zeros.  Every row of digits that is not empty denotes one number, its
value.

A text begins with a numeral of a number if the longest row of digits at its front denotes it.  So
what follows the numeral does not begin with a digit.
-/

namespace TypedRouter.Text

variable {ds cs : List Char} {c : Char} {n : ℕ}

/-- Digits that denote a number: its decimal numeral after any zeros. -/
def Denotes (ds : List Char) (n : ℕ) : Prop :=
  ∃ zeros, ds = List.replicate zeros '0' ++ Nat.toDigits 10 n

/-- A text with a numeral at its front that ends before the first character that is no digit. -/
def BeginsWith (n : ℕ) (cs : List Char) : Prop :=
  ∃ ds rest, cs = ds ++ rest ∧ Denotes ds n ∧ ∀ c ∈ rest.head?, c.isDigit = false

/-! ## Values -/

/-- A further digit makes ten times the value and adds its own. -/
@[simp] lemma digitsValue_concat (ds : List Char) (c : Char) :
    digitsValue (ds ++ [c]) = digitsValue ds * 10 + (c.toNat - '0'.toNat) := by
  rw [digitsValue, List.foldl_append]
  rfl

/-- Digits have the value that the core library gives them. -/
lemma digitsValue_eq_ofDigitChars (ds : List Char) :
    digitsValue ds = Nat.ofDigitChars 10 ds 0 := by
  induction ds using List.reverseRecOn with
  | nil => rfl
  | append_singleton ds c ih =>
    rw [digitsValue_concat, ih, Nat.ofDigitChars_append, Nat.ofDigitChars_cons,
      Nat.ofDigitChars_nil, Nat.mul_comm]

/-- Zeros before a numeral do not count. -/
@[simp] lemma digitsValue_zeros (zeros : ℕ) (ds : List Char) :
    digitsValue (List.replicate zeros '0' ++ ds) = digitsValue ds := by
  induction zeros with
  | zero => rfl
  | succ zeros ih =>
    rw [List.replicate_succ, List.cons_append]
    exact ih

/-- The value of digits that denote a number is this number. -/
lemma Denotes.digitsValue_eq (h : Denotes ds n) : digitsValue ds = n := by
  obtain ⟨zeros, rfl⟩ := h
  rw [digitsValue_zeros, digitsValue_eq_ofDigitChars]
  exact Nat.ofDigitChars_toDigits (by decide) (by decide)

/-- What denotes a number consists of digits. -/
lemma Denotes.isDigit (h : Denotes ds n) (hc : c ∈ ds) : c.isDigit = true := by
  obtain ⟨zeros, rfl⟩ := h
  rcases List.mem_append.mp hc with hzero | hnumeral
  · rw [List.eq_of_mem_replicate hzero]
    rfl
  · exact Nat.isDigit_of_mem_toDigits (by decide) (by decide) hnumeral

/-- What denotes a number is not empty. -/
lemma Denotes.ne_nil (h : Denotes ds n) : ds ≠ [] := by
  obtain ⟨zeros, rfl⟩ := h
  exact List.append_ne_nil_of_right_ne_nil _ Nat.toDigits_ne_nil

/-- A digit is the numeral of its own value, which is less than ten. -/
lemma toDigits_of_isDigit (h : c.isDigit = true) :
    c.toNat - '0'.toNat < 10 ∧ Nat.toDigits 10 (c.toNat - '0'.toNat) = [c] := by
  obtain ⟨hlow, hhigh⟩ := Char.isDigit_iff_toNat.mp h
  have hzero : '0'.toNat = 48 := rfl
  have hnine : '9'.toNat = 57 := rfl
  have hlt : c.toNat - '0'.toNat < 10 := by omega
  refine ⟨hlt, ?_⟩
  rw [Nat.toDigits_of_lt_base hlt, List.singleton_inj, ← Char.toNat_inj,
    Nat.toNat_digitChar_of_lt_ten hlt]
  omega

/-- The value of a decimal digit. -/
lemma digitValue?_of_isDigit (h : c.isDigit = true) :
    digitValue? 10 c = some (c.toNat - '0'.toNat) := by
  obtain ⟨hlt, -⟩ := toDigits_of_isDigit h
  rw [digitValue?, hexValue?, if_pos h]
  exact if_pos hlt

/-- A further digit makes a numeral of ten times the number and the value of the digit. -/
lemma Denotes.concat (h : Denotes ds n) (hc : c.isDigit = true) :
    Denotes (ds ++ [c]) (n * 10 + (c.toNat - '0'.toNat)) := by
  obtain ⟨zeros, rfl⟩ := h
  obtain ⟨hlt, hdigit⟩ := toDigits_of_isDigit hc
  rcases Nat.eq_zero_or_pos n with rfl | hpos
  · -- the numeral of zero is one more zero before the digit
    refine ⟨zeros + 1, ?_⟩
    rw [Nat.toDigits_zero, Nat.zero_mul, Nat.zero_add, hdigit, List.replicate_succ']
  · refine ⟨zeros, ?_⟩
    rw [Nat.mul_comm, ← Nat.toDigits_append_toDigits (by decide) hpos hlt, hdigit,
      List.append_assoc]

/-- Digits denote their value. -/
theorem denotes_digitsValue (hne : ds ≠ []) (h : ∀ c ∈ ds, c.isDigit = true) :
    Denotes ds (digitsValue ds) := by
  induction ds using List.reverseRecOn with
  | nil => exact absurd rfl hne
  | append_singleton ds c ih =>
    have hc : c.isDigit = true := h c (List.mem_append_right _ (List.mem_singleton_self c))
    rw [digitsValue_concat]
    by_cases hnil : ds = []
    · subst hnil
      obtain ⟨-, hdigit⟩ := toDigits_of_isDigit hc
      refine ⟨0, ?_⟩
      show [c] = Nat.toDigits 10 (0 * 10 + (c.toNat - '0'.toNat))
      rw [Nat.zero_mul, Nat.zero_add, hdigit]
    · exact (ih hnil fun d hd => h d (List.mem_append_left _ hd)).concat hc

/-! ## Numerals at the front of a text -/

/-- A text begins with a numeral of a number exactly if its leading digits have it as their
value. -/
theorem beginsWith_iff :
    BeginsWith n cs ↔ cs.takeWhile Char.isDigit ≠ [] ∧
      digitsValue (cs.takeWhile Char.isDigit) = n := by
  constructor
  · rintro ⟨ds, rest, rfl, hds, hrest⟩
    have hleading : (ds ++ rest).takeWhile Char.isDigit = ds := by
      rw [List.takeWhile_append_of_pos fun c hc => hds.isDigit hc]
      cases rest with
      | nil => rw [List.takeWhile_nil, List.append_nil]
      | cons c rest => rw [List.takeWhile_cons_of_neg (by simp [hrest c rfl]), List.append_nil]
    rw [hleading]
    exact ⟨hds.ne_nil, hds.digitsValue_eq⟩
  · rintro ⟨hne, rfl⟩
    refine ⟨cs.takeWhile Char.isDigit, cs.dropWhile Char.isDigit,
      List.takeWhile_append_dropWhile.symm,
      denotes_digitsValue hne fun c hc => List.mem_takeWhile_imp hc, fun c hc => ?_⟩
    have hhead := List.head?_dropWhile_not Char.isDigit cs
    rw [Option.mem_def.mp hc] at hhead
    exact hhead

end TypedRouter.Text
