import TypedRouter.Proofs.Text.Utf8
import TypedRouter.Url.Percent

/-!
# Percent-encoding there and back

A text in which at least the percent sign is encoded can be read again, whatever else is encoded:
every percent sign in it leads the two digits of a byte, and all other characters stand for
themselves.  So it spells the bytes of the text it was made from.  A mark that is encoded does not
occur in it, unless it is a percent sign or one of the digits.
-/

namespace TypedRouter.Url.Percent

open Text

/-! ## Bytes -/

/-- A hexadecimal digit has the value that it was written for. -/
lemma hexValue?_hexDigit {n : ℕ} (hn : n < 16) : hexValue? (hexDigit n) = some n := by
  interval_cases n <;> decide

/-- A byte is read as it was written. -/
lemma decode_escapeByte (b : UInt8) (rest : List Char) :
    decode (escapeByte b ++ rest) = b :: decode rest := by
  have hb : b.toNat < 256 := b.toNat_lt
  have hvalue : b.toNat / 16 * 16 + b.toNat % 16 = b.toNat := Nat.div_add_mod' _ _
  simp only [escapeByte, List.cons_append, List.nil_append, decode,
    hexValue?_hexDigit (show b.toNat / 16 < 16 by omega),
    hexValue?_hexDigit (show b.toNat % 16 < 16 by omega), hvalue, UInt8.ofNat_toNat]

/-- Escaped bytes are read as they were. -/
lemma decode_flatMap_escapeByte (bytes : List UInt8) (rest : List Char) :
    decode (bytes.flatMap escapeByte ++ rest) = bytes ++ decode rest := by
  induction bytes with
  | nil => rfl
  | cons b bytes ih =>
    rw [List.flatMap_cons, List.append_assoc, decode_escapeByte, ih, List.cons_append]

/-! ## Characters -/

/-- A character is read as it was written. -/
lemma decode_escapeChar (c : Char) (rest : List Char) :
    decode (escapeChar c ++ rest) = String.utf8EncodeChar c ++ decode rest :=
  decode_flatMap_escapeByte _ rest

/-- A character other than a percent sign stands for itself. -/
lemma decode_cons_of_ne {c : Char} (hc : c ≠ '%') (rest : List Char) :
    decode (c :: rest) = String.utf8EncodeChar c ++ decode rest := by
  rw [decode]
  intro _ _ _ h
  exact absurd h hc

/-- The marks that a text gets when characters are encoded. -/
def marks : List Char :=
  ['%', '0', '1', '2', '3', '4', '5', '6', '7', '8', '9', 'A', 'B', 'C', 'D', 'E', 'F']

/-- Hexadecimal digits are among the marks that escapes consist of. -/
lemma hexDigit_mem_marks {n : ℕ} (hn : n < 16) : hexDigit n ∈ marks := by
  interval_cases n <;> decide

/-- An encoded character has no other marks. -/
lemma escapeChar_subset_marks (c : Char) : escapeChar c ⊆ marks := by
  intro d hd
  obtain ⟨b, -, hb⟩ := List.mem_flatMap.mp hd
  have hlt : b.toNat < 256 := b.toNat_lt
  simp only [escapeByte, List.mem_cons, List.not_mem_nil, or_false] at hb
  rcases hb with rfl | rfl | rfl
  · decide
  · exact hexDigit_mem_marks (by omega)
  · exact hexDigit_mem_marks (by omega)

/-! ## Texts -/

section Texts

variable {escaped : Char → Bool}

/-- A text is encoded character by character. -/
@[simp] lemma encode_cons (c : Char) (cs : List Char) :
    encode escaped (c :: cs) = (if escaped c then escapeChar c else [c]) ++ encode escaped cs := rfl

/-- A text is read as it was written, if percent signs are encoded. -/
@[simp] theorem decode_encode (hpercent : escaped '%' = true) (cs : List Char) :
    decode (encode escaped cs) = Utf8.encode cs := by
  induction cs with
  | nil => rfl
  | cons c cs ih =>
    rw [encode_cons, Utf8.encode_cons]
    split_ifs with hc
    · rw [decode_escapeChar, ih]
    · have hne : c ≠ '%' := fun h => hc (h ▸ hpercent)
      rw [List.singleton_append, decode_cons_of_ne hne, ih]

/-- Different texts are written differently, if percent signs are encoded. -/
lemma encode_injective (hpercent : escaped '%' = true) : Function.Injective (encode escaped) := by
  intro cs ds h
  refine Utf8.encode_injective ?_
  rw [← decode_encode hpercent cs, ← decode_encode hpercent ds, h]

/-- A character that is encoded does not occur, unless it is one of the marks that spell bytes. -/
lemma notMem_encode {c : Char} (hescaped : escaped c = true) (hmark : c ∉ marks) (cs : List Char) :
    c ∉ encode escaped cs := by
  intro hmem
  obtain ⟨d, -, hd⟩ := List.mem_flatMap.mp hmem
  split_ifs at hd with hesc
  · exact hmark (escapeChar_subset_marks d hd)
  · obtain rfl := List.mem_singleton.mp hd
    exact hesc hescaped

/-- A text of which no character is encoded stays as it is. -/
lemma encode_eq_self {cs : List Char} (h : ∀ c ∈ cs, escaped c = false) :
    encode escaped cs = cs := by
  induction cs with
  | nil => rfl
  | cons c cs ih =>
    obtain ⟨hc, hcs⟩ := List.forall_mem_cons.mp h
    rw [encode_cons, hc, ih hcs]
    rfl

end Texts

/-- A letter stands for itself in a segment. -/
lemma specialSegment_of_isAlpha {c : Char} (h : c.isAlpha = true) : specialSegment c = false := by
  have hletters : ∀ n < 123, (Char.ofNat n).isAlpha = true →
      specialSegment (Char.ofNat n) = false := by decide +kernel
  have hlt : c.toNat < 123 := by
    obtain hupper | hlower := Bool.or_eq_true_iff.mp h
    · have hle : c.val ≤ 90 := (of_decide_eq_true hupper).2
      exact (UInt32.le_iff_toNat_le.mp hle).trans_lt (by decide)
    · have hbounds : (decide (97 ≤ c.val) && decide (c.val ≤ 122)) = true := hlower
      have hle : c.val ≤ 122 := of_decide_eq_true (Bool.and_eq_true_iff.mp hbounds).2
      exact (UInt32.le_iff_toNat_le.mp hle).trans_lt (by decide)
  rw [← Char.ofNat_toNat c] at h ⊢
  exact hletters c.toNat hlt h

end TypedRouter.Url.Percent
