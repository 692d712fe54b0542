import TypedRouter.Proofs.Text.Identifier
import TypedRouter.TypeScript.Type
import Mathlib.Tactic.IntervalCases

/-!
# Words in the text of a type

A word is a longest run of word characters: those of identifiers and the few others that numbers are
written with.  No character that separates the parts of a type is one of them.  So where a text
starts with a word and the word is followed by a separator, the word and the rest can be told from
the text.

A number is a word that is no identifier, since it starts with a digit or a minus sign.
-/

namespace TypedRouter.TypeScript

open Text

/-! ## Word characters -/

/-- A character of a word: one of an identifier or one of a number. -/
def isWordChar (c : Char) : Bool :=
  Identifier.canContinue c || c == '-' || c == '+' || c == '.'

/-- The characters that separate words. -/
def separators : List Char := [' ', ';', ',', '<', '>', '\x27', '?', ':', '[', '\x7b']

/-- No separator is a word character. -/
lemma isWordChar_of_mem_separators {c : Char} (h : c ∈ separators) : isWordChar c = false := by
  have hall : separators.all (fun d => !isWordChar d) = true := by decide +kernel
  simpa using List.all_eq_true.mp hall c h

/-- A text that does not go on with the word before it. -/
def Stops (rest : List Char) : Prop := ∀ c ∈ rest.head?, isWordChar c = false

/-- A separator ends a word. -/
lemma stops_cons {c : Char} {rest : List Char} (h : c ∈ separators) : Stops (c :: rest) := by
  intro d hd
  obtain rfl : c = d := by simpa using hd
  exact isWordChar_of_mem_separators h

/-- A word is what is taken from the front of a text as far as word characters go. -/
lemma takeWhile_of_stops {word rest : List Char} (hword : word.all isWordChar = true)
    (hrest : Stops rest) : (word ++ rest).takeWhile isWordChar = word := by
  rw [List.takeWhile_append_of_pos (List.all_eq_true.mp hword)]
  cases rest with
  | nil => simp
  | cons c rest => simp [hrest c rfl]

/-- The word at the front of a text and what follows it can be told from the text. -/
lemma word_append_inj {v w r s : List Char} (hv : v.all isWordChar = true)
    (hw : w.all isWordChar = true) (hr : Stops r) (hs : Stops s) (h : v ++ r = w ++ s) :
    v = w ∧ r = s := by
  have hword : v = w := by rw [← takeWhile_of_stops hv hr, h, takeWhile_of_stops hw hs]
  subst hword
  exact ⟨rfl, List.append_cancel_left h⟩

/-- What may stand inside an identifier is a word character. -/
lemma isWordChar_of_canContinue {c : Char} (h : Identifier.canContinue c = true) :
    isWordChar c = true := by
  simp [isWordChar, h]

/-- An identifier is a word. -/
lemma all_isWordChar_of_isIdentifierChars {cs : List Char}
    (h : Identifier.isIdentifierChars cs = true) : cs.all isWordChar = true :=
  List.all_eq_true.mpr fun _ hc => isWordChar_of_canContinue (Identifier.canContinue_of_mem h hc)

/-! ## Numbers -/

/-- The decimal digits. -/
def digits : List Char := ['0', '1', '2', '3', '4', '5', '6', '7', '8', '9']

/-- There are ten digits. -/
lemma mem_digits_of_isDigit {c : Char} (h : c.isDigit = true) : c ∈ digits := by
  have hcode : 48 ≤ c.toNat ∧ c.toNat ≤ 57 := by
    rw [Char.isDigit, Bool.and_eq_true, decide_eq_true_eq, decide_eq_true_eq] at h
    exact h
  rw [← Char.ofNat_toNat c]
  obtain ⟨hlow, hhigh⟩ := hcode
  generalize c.toNat = n at hlow hhigh
  interval_cases n <;> decide

/-- A digit is a word character. -/
lemma isWordChar_of_isDigit {c : Char} (h : c.isDigit = true) : isWordChar c = true := by
  have hall : digits.all isWordChar = true := by decide +kernel
  exact List.all_eq_true.mp hall c (mem_digits_of_isDigit h)

/-- No digit may lead an identifier. -/
lemma canStart_of_isDigit {c : Char} (h : c.isDigit = true) : Identifier.canStart c = false := by
  have hall : digits.all (fun d => !Identifier.canStart d) = true := by decide +kernel
  simpa using List.all_eq_true.mp hall c (mem_digits_of_isDigit h)

/-- The beginning of a number: a minus sign or a digit. -/
def StartsNumber (cs : List Char) : Prop :=
  ∃ c rest, cs = c :: rest ∧ (c = '-' ∨ c.isDigit = true)

/-- What starts like a number is no identifier. -/
lemma StartsNumber.isIdentifierChars {cs : List Char} (h : StartsNumber cs) :
    Identifier.isIdentifierChars cs = false := by
  obtain ⟨c, rest, rfl, hc⟩ := h
  have hstart : Identifier.canStart c = false := by
    rcases hc with rfl | hdigit
    · decide +kernel
    · exact canStart_of_isDigit hdigit
  rw [Identifier.isIdentifierChars, hstart, Bool.false_and]

/-- What starts like a number is not empty. -/
lemma StartsNumber.ne_nil {cs : List Char} (h : StartsNumber cs) : cs ≠ [] := by
  obtain ⟨c, rest, rfl, -⟩ := h
  exact List.cons_ne_nil c rest

/-- What starts like a number does so whatever follows. -/
lemma StartsNumber.append {cs : List Char} (h : StartsNumber cs) (rest : List Char) :
    StartsNumber (cs ++ rest) := by
  obtain ⟨c, cs, rfl, hc⟩ := h
  exact ⟨c, cs ++ rest, rfl, hc⟩

/-- A number with a sign before it, or none, starts like a number. -/
lemma StartsNumber.sign {cs : List Char} (negative : Bool) (h : StartsNumber cs) :
    StartsNumber ((if negative then ['-'] else []) ++ cs) := by
  cases negative with
  | false => exact h
  | true => exact ⟨'-', cs, rfl, .inl rfl⟩

section Numbers

open Json.Number

/-- The digits of a number are word characters. -/
lemma all_isWordChar_digitChars (n : ℕ) : (digitChars n).all isWordChar = true := by
  refine List.all_eq_true.mpr fun c hc => ?_
  exact isWordChar_of_isDigit (Nat.isDigit_of_mem_toDigits (by decide) (by decide) hc)

/-- The digits of a number start like a number. -/
lemma startsNumber_digitChars (n : ℕ) : StartsNumber (digitChars n) := by
  cases h : digitChars n with
  | nil => exact absurd h Nat.toDigits_ne_nil
  | cons c rest =>
    have hc : c ∈ digitChars n := h ▸ List.mem_cons_self
    exact ⟨c, rest, rfl, .inr (Nat.isDigit_of_mem_toDigits (by decide) (by decide) hc)⟩

/-- A double is a word. -/
lemma all_isWordChar_floatChars (x : Binary64) : (floatChars x).all isWordChar = true := by
  have hdot : isWordChar '.' = true := by decide +kernel
  have hzero : isWordChar '0' = true := by decide +kernel
  have hmarks : isWordChar 'e' = true ∧ isWordChar '-' = true ∧ isWordChar '+' = true := by
    decide +kernel
  unfold floatChars
  extract_lets sign d ds n top mantissa power
  have hsign : sign.all isWordChar = true := by
    unfold sign
    cases x.negative
    · rfl
    · simp [hmarks]
  have hds : ds.all isWordChar = true := all_isWordChar_digitChars _
  have hzeros (k : ℕ) : (List.replicate k '0').all isWordChar = true := by simp [hzero]
  have htake (k : ℕ) : (ds.take k).all isWordChar = true :=
    List.all_eq_true.mpr fun c hc => List.all_eq_true.mp hds c (List.mem_of_mem_take hc)
  have hdrop (k : ℕ) : (ds.drop k).all isWordChar = true :=
    List.all_eq_true.mpr fun c hc => List.all_eq_true.mp hds c (List.mem_of_mem_drop hc)
  have hmantissa : mantissa.all isWordChar = true := by
    unfold mantissa
    generalize ds = cs at hds
    match cs with
    | [] => rfl
    | [c] => exact hds
    | c :: c' :: rest => simpa [hdot] using hds
  have hpower : power.all isWordChar = true := by
    unfold power
    split <;> simp [all_isWordChar_digitChars, hmarks]
  split
  · simp [hsign, hzero, hdot]
  · split
    · simp [hsign, hzero, hdot, hzeros, hds]
    · split
      · split
        · simp [hsign, hds, hzeros, hdot, hzero]
        · simp [hsign, htake, hdrop, hdot]
      · simp [hsign, hmantissa, hpower, hmarks]

/-- A double starts like a number. -/
lemma startsNumber_floatChars (x : Binary64) : StartsNumber (floatChars x) := by
  unfold floatChars
  extract_lets sign d ds n top mantissa power
  have hds : StartsNumber ds := startsNumber_digitChars _
  have hzero (rest : List Char) : StartsNumber ('0' :: rest) := ⟨'0', rest, rfl, .inr rfl⟩
  split
  · exact .sign _ (hzero _)
  · split
    · exact .sign _ (hzero _)
    · split
      · next htop =>
        split
        · rw [List.append_assoc, List.append_assoc]
          exact .sign _ (hds.append _)
        · obtain ⟨c, rest, hcons, hc⟩ := hds
          obtain ⟨k, hk⟩ : ∃ k, (top + 1).toNat = k + 1 := ⟨top.toNat, by omega⟩
          rw [List.append_assoc, hk, hcons, List.take_succ_cons]
          exact .sign _ ⟨c, _, rfl, hc⟩
      · rw [List.append_assoc]
        refine .sign _ (StartsNumber.append ?_ _)
        unfold mantissa
        obtain ⟨c, rest, hcons, hc⟩ := hds
        rw [hcons]
        cases rest with
        | nil => exact ⟨c, [], rfl, hc⟩
        | cons c' rest => exact ⟨c, _, rfl, hc⟩

/-- A number is a word. -/
lemma all_isWordChar_number (n : Json.Number) : n.chars.all isWordChar = true := by
  have hminus : isWordChar '-' = true := by decide +kernel
  cases n with
  | int i =>
    simp only [chars]
    split
    · rw [List.all_cons, hminus, all_isWordChar_digitChars, Bool.and_self]
    · exact all_isWordChar_digitChars _
  | float x => exact all_isWordChar_floatChars x

/-- A number starts like one. -/
lemma startsNumber_number (n : Json.Number) : StartsNumber n.chars := by
  cases n with
  | int i =>
    simp only [chars]
    split
    · exact ⟨'-', _, rfl, .inl rfl⟩
    · exact startsNumber_digitChars _
  | float x => exact startsNumber_floatChars x

/-- A number is no identifier. -/
lemma isIdentifierChars_number (n : Json.Number) :
    Identifier.isIdentifierChars n.chars = false :=
  (startsNumber_number n).isIdentifierChars

end Numbers

end TypedRouter.TypeScript
