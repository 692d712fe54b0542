import TypedRouter.Text.Utf8
import Mathlib.Tactic.IntervalCases

/-!
# UTF-8 there and back

The bytes of a text spell that text, and no other bytes do.

A character has one to four bytes.  The first byte says how many are to come and begins the value of
the character, and each byte after it adds six binary digits.  Only the bounds of the second byte
depend on more than that: they leave out the longer spellings of a character, which the bytes of a
character are not, and the halves of surrogate pairs, which are no characters.

The other way round, bytes that are read without a fault are taken apart into characters.  A
character that has begun keeps what its bytes so far say, and a code point that agrees with it and
stays within its bounds has exactly the bytes that lead to the end of the character.
-/

namespace TypedRouter.Text.Utf8

variable {p : Pending} {n : ℕ}

/-! ## One byte at a time -/

/-- A byte within the bounds ends the character that waits for no more than this byte. -/
lemma pieces_last (hmore : p.more = 0) (hn : n < 64) (hlow : p.low ≤ n + 128)
    (hhigh : n + 128 ≤ p.high) (rest : List UInt8) :
    pieces (some p) (UInt8.ofNat (n + 128) :: rest) =
      some (Char.ofNat (p.value * 64 + n)) :: pieces none rest := by
  have hbyte : (UInt8.ofNat (n + 128)).toNat = n + 128 := UInt8.toNat_ofNat_of_lt' (by
    show n + 128 < 256
    omega)
  simp only [pieces, hbyte, hlow, hhigh, and_self, if_true, hmore, Nat.add_sub_cancel]

/-- A byte within the bounds is added to the character that waits for more. -/
lemma pieces_next {more : ℕ} (hmore : p.more = more + 1) (hn : n < 64) (hlow : p.low ≤ n + 128)
    (hhigh : n + 128 ≤ p.high) (rest : List UInt8) :
    pieces (some p) (UInt8.ofNat (n + 128) :: rest) =
      pieces (some ⟨p.value * 64 + n, more, 0x80, 0xBF⟩) rest := by
  have hbyte : (UInt8.ofNat (n + 128)).toNat = n + 128 := UInt8.toNat_ofNat_of_lt' (by
    show n + 128 < 256
    omega)
  simp only [pieces, hbyte, hlow, hhigh, and_self, if_true, hmore, Nat.add_sub_cancel]

/-- A first byte begins a character. -/
lemma pieces_lead {b : UInt8} (h : opening b = .lead p) (rest : List UInt8) :
    pieces none (b :: rest) = pieces (some p) rest := by
  simp only [pieces, h]

/-- The first of two bytes. -/
lemma opening_two (hn : 2 ≤ n) (hn' : n < 32) :
    opening (UInt8.ofNat (n + 192)) = .lead ⟨n, 0, 0x80, 0xBF⟩ := by
  interval_cases n <;> rfl

/-- The first of three bytes. -/
lemma opening_three (hn : n < 16) :
    opening (UInt8.ofNat (n + 224)) =
      .lead ⟨n, 1, if n = 0 then 0xA0 else 0x80, if n = 0xD then 0x9F else 0xBF⟩ := by
  interval_cases n <;> rfl

/-- The first of four bytes. -/
lemma opening_four (hn : n < 5) :
    opening (UInt8.ofNat (n + 240)) =
      .lead ⟨n, 2, if n = 0 then 0x90 else 0x80, if n = 4 then 0x8F else 0xBF⟩ := by
  interval_cases n <;> rfl

/-! ## Characters -/

section Characters

variable {v : ℕ} (rest : List UInt8)

/-- One byte is read as the character that it was written for. -/
lemma pieces_one (hv : v < 0x80) :
    pieces none (UInt8.ofNat v :: rest) = some (Char.ofNat v) :: pieces none rest := by
  have hbyte : (UInt8.ofNat v).toNat = v := UInt8.toNat_ofNat_of_lt' (by
    show v < 256
    omega)
  simp only [pieces, opening, hbyte, hv, if_true]

/-- Two bytes are. -/
lemma pieces_two (hlow : 0x80 ≤ v) (hhigh : v < 0x800) :
    pieces none (UInt8.ofNat (v / 64 % 32 + 192) :: UInt8.ofNat (v % 64 + 128) :: rest) =
      some (Char.ofNat v) :: pieces none rest := by
  have hvalue : v / 64 % 32 * 64 + v % 64 = v := by omega
  rw [pieces_lead (opening_two (by omega) (by omega)),
    pieces_last rfl (by omega) (Nat.le_add_left _ _) (by show _ ≤ 0xBF; omega), hvalue]

/-- Three bytes are, if they are not those of half of a surrogate pair. -/
lemma pieces_three (hlow : 0x800 ≤ v) (hhigh : v < 0x10000)
    (hvalid : v < 0xD800 ∨ 0xDFFF < v) :
    pieces none (UInt8.ofNat (v / 4096 % 16 + 224) :: UInt8.ofNat (v / 64 % 64 + 128) ::
        UInt8.ofNat (v % 64 + 128) :: rest) =
      some (Char.ofNat v) :: pieces none rest := by
  have hvalue : (v / 4096 % 16 * 64 + v / 64 % 64) * 64 + v % 64 = v := by omega
  rw [pieces_lead (opening_three (by omega)),
    pieces_next rfl (by omega) (by dsimp only; split_ifs <;> omega)
      (by dsimp only; split_ifs <;> omega),
    pieces_last rfl (by omega) (Nat.le_add_left _ _) (by show _ ≤ 0xBF; omega), hvalue]

/-- Four bytes are. -/
lemma pieces_four (hlow : 0x10000 ≤ v) (hhigh : v < 0x110000) :
    pieces none (UInt8.ofNat (v / 262144 % 8 + 240) :: UInt8.ofNat (v / 4096 % 64 + 128) ::
        UInt8.ofNat (v / 64 % 64 + 128) :: UInt8.ofNat (v % 64 + 128) :: rest) =
      some (Char.ofNat v) :: pieces none rest := by
  have hvalue : ((v / 262144 % 8 * 64 + v / 4096 % 64) * 64 + v / 64 % 64) * 64 + v % 64 = v := by
    omega
  rw [pieces_lead (opening_four (by omega)),
    pieces_next rfl (by omega) (by dsimp only; split_ifs <;> omega)
      (by dsimp only; split_ifs <;> omega),
    pieces_next rfl (by omega) (Nat.le_add_left _ _) (by show _ ≤ 0xBF; omega),
    pieces_last rfl (by omega) (Nat.le_add_left _ _) (by show _ ≤ 0xBF; omega), hvalue]

/-- The bytes of a character spell it. -/
lemma pieces_utf8EncodeChar (c : Char) :
    pieces none (String.utf8EncodeChar c ++ rest) = some c :: pieces none rest := by
  have hvalid : c.val.toNat < 0xD800 ∨ 0xDFFF < c.val.toNat ∧ c.val.toNat < 0x110000 := c.valid
  have hchar : Char.ofNat c.val.toNat = c := Char.ofNat_toNat c
  unfold String.utf8EncodeChar
  dsimp only
  split_ifs with h1 h2 h3
  · rw [List.cons_append, List.nil_append, pieces_one rest (by omega), hchar]
  · rw [List.cons_append, List.cons_append, List.nil_append,
      pieces_two rest (by omega) (by omega), hchar]
  · rw [List.cons_append, List.cons_append, List.cons_append, List.nil_append,
      pieces_three rest (by omega) (by omega) (by omega), hchar]
  · rw [List.cons_append, List.cons_append, List.cons_append, List.cons_append, List.nil_append,
      pieces_four rest (by omega) (by omega), hchar]

end Characters

/-! ## Texts -/

/-- A text is encoded character by character. -/
@[simp] lemma encode_cons (c : Char) (cs : List Char) :
    encode (c :: cs) = String.utf8EncodeChar c ++ encode cs := rfl

/-- The bytes of a text are read as its characters, without a fault. -/
lemma pieces_encode (cs : List Char) : pieces none (encode cs) = cs.map some := by
  induction cs with
  | nil => rfl
  | cons c cs ih => rw [encode_cons, pieces_utf8EncodeChar, ih, List.map_cons]

/-- The bytes of a text spell it. -/
@[simp] theorem decode?_encode (cs : List Char) : decode? (encode cs) = some cs := by
  rw [decode?, pieces_encode]
  induction cs with
  | nil => rfl
  | cons c cs ih => simp [ih]

/-- Nothing in the bytes of a text is malformed. -/
@[simp] theorem decodeLossy_encode (cs : List Char) : decodeLossy (encode cs) = cs := by
  rw [decodeLossy, pieces_encode, List.map_map]
  exact List.map_id cs

/-- Different texts have different bytes. -/
lemma encode_injective : Function.Injective encode :=
  Function.LeftInverse.injective decodeLossy_encode

/-! ## Bytes that spell a text -/

/-- The bounds of a byte within a character are not wider than they have to be. -/
structure Pending.IsBounded (p : Pending) : Prop where
  low : 0x80 ≤ p.low
  high : p.high ≤ 0xBF

/-- The bytes of a code point after its first one, of which there is one more than this number. -/
def laterBytes : ℕ → ℕ → List UInt8
  | 0, v => [UInt8.ofNat (v % 64 + 128)]
  | more + 1, v => UInt8.ofNat (v / 64 ^ (more + 1) % 64 + 128) :: laterBytes more v

/-- A code point that begins as a pending character has begun and goes on within its bounds. -/
structure Pending.Completes (p : Pending) (v : ℕ) : Prop where
  value : v / 64 ^ (p.more + 1) = p.value
  low : p.low ≤ v / 64 ^ p.more % 64 + 128
  high : v / 64 ^ p.more % 64 + 128 ≤ p.high

section Pending

variable {c : Char} {ps : List (Option Char)} {bytes : List UInt8}

/-- A pending character that is read without a fault goes on with a byte within its bounds. -/
lemma exists_next_byte (hp : p.IsBounded) (h : pieces (some p) bytes = some c :: ps) :
    ∃ n rest, n < 64 ∧ p.low ≤ n + 128 ∧ n + 128 ≤ p.high ∧
      bytes = UInt8.ofNat (n + 128) :: rest := by
  have hlow := hp.low
  have hhigh := hp.high
  cases bytes with
  | nil => simp [pieces] at h
  | cons b bytes =>
    by_cases hbounds : p.low ≤ b.toNat ∧ b.toNat ≤ p.high
    · have hn : b.toNat - 128 + 128 = b.toNat := by omega
      refine ⟨b.toNat - 128, bytes, by omega, by omega, by omega, ?_⟩
      rw [hn, UInt8.ofNat_toNat]
    · simp only [pieces, if_neg hbounds] at h
      cases hb : opening b with
      | whole d => simp [hb] at h
      | lead q => simp [hb] at h
      | malformed => simp [hb] at h

/-- A pending character that is read without a fault ends with the bytes of a code point that
completes it. -/
lemma exists_of_pieces_some (hp : p.IsBounded) (h : pieces (some p) bytes = some c :: ps) :
    ∃ v rest, p.Completes v ∧ c = Char.ofNat v ∧ bytes = laterBytes p.more v ++ rest ∧
      pieces none rest = ps := by
  obtain ⟨value, more, low, high⟩ := p
  -- the induction is on how many bytes are to come; each one moves into the value that is kept
  induction more generalizing value low high bytes with
  | zero =>
    obtain ⟨n, rest, hn, hlow, hhigh, rfl⟩ := exists_next_byte hp h
    rw [pieces_last rfl hn hlow hhigh] at h
    obtain ⟨hc, hps⟩ := List.cons.inj h
    have hmod : (value * 64 + n) % 64 = n := by omega
    refine ⟨value * 64 + n, rest, ⟨?_, ?_, ?_⟩, (Option.some.inj hc).symm, ?_, hps⟩
    · dsimp only
      omega
    · simpa [hmod] using hlow
    · simpa [hmod] using hhigh
    · rw [laterBytes, hmod, List.singleton_append]
  | succ more ih =>
    obtain ⟨n, rest, hn, hlow, hhigh, rfl⟩ := exists_next_byte hp h
    rw [pieces_next rfl hn hlow hhigh] at h
    obtain ⟨v, rest, ⟨hvalue, -, -⟩, hc, rfl, hps⟩ := ih _ _ _ ⟨le_rfl, le_rfl⟩ h
    have hdiv : v / 64 ^ (more + 1 + 1) = value := by
      rw [pow_succ, ← Nat.div_div_eq_div_mul, hvalue]
      dsimp only
      omega
    have hmod : v / 64 ^ (more + 1) % 64 = n := by
      rw [hvalue]
      dsimp only
      omega
    refine ⟨v, rest, ⟨hdiv, ?_, ?_⟩, hc, ?_, hps⟩
    · rwa [hmod]
    · rwa [hmod]
    · rw [laterBytes, hmod, List.cons_append]

/-- A character that has begun leads to something. -/
lemma pieces_some_ne_nil : pieces (some p) bytes ≠ [] := by
  obtain ⟨value, more, low, high⟩ := p
  induction bytes generalizing value more low high with
  | nil => simp [pieces]
  | cons b bytes ih =>
    unfold pieces
    split_ifs with hbounds
    · cases more with
      | zero => simp
      | succ more => exact ih _ _ _ _
    · cases opening b with
      | _ => simp

end Pending

section Lead

variable {v : ℕ}

/-- A code point that is no half of a surrogate pair is that of a character. -/
lemma toNat_val_ofNat (h : v < 0xD800 ∨ 0xDFFF < v ∧ v < 0x110000) :
    (Char.ofNat v).val.toNat = v := by
  have hchar : Char.ofNat v = Char.ofNatAux v h := dif_pos h
  rw [hchar]
  rfl

/-- A code point of seven bits is written as one byte. -/
lemma utf8EncodeChar_one (h : v < 0x80) :
    String.utf8EncodeChar (Char.ofNat v) = [UInt8.ofNat v] := by
  have hval := toNat_val_ofNat (v := v) (by omega)
  unfold String.utf8EncodeChar
  dsimp only
  rw [hval, if_pos (by omega)]

/-- One of up to eleven bits is written as a first byte and one more. -/
lemma utf8EncodeChar_two (hlow : 0x80 ≤ v) (hhigh : v < 0x800) :
    String.utf8EncodeChar (Char.ofNat v) = UInt8.ofNat (v / 64 % 32 + 192) :: laterBytes 0 v := by
  have hval := toNat_val_ofNat (v := v) (by omega)
  unfold String.utf8EncodeChar
  dsimp only
  rw [hval, if_neg (by omega), if_pos (by omega)]
  rfl

/-- One of up to sixteen bits is written as a first byte and two more. -/
lemma utf8EncodeChar_three (hlow : 0x800 ≤ v) (hhigh : v < 0x10000)
    (hvalid : v < 0xD800 ∨ 0xDFFF < v) :
    String.utf8EncodeChar (Char.ofNat v) = UInt8.ofNat (v / 4096 % 16 + 224) :: laterBytes 1 v := by
  have hval := toNat_val_ofNat (v := v) (by omega)
  unfold String.utf8EncodeChar
  dsimp only
  rw [hval, if_neg (by omega), if_neg (by omega), if_pos (by omega)]
  rfl

/-- Any other is written as a first byte and three more. -/
lemma utf8EncodeChar_four (hlow : 0x10000 ≤ v) (hhigh : v < 0x110000) :
    String.utf8EncodeChar (Char.ofNat v) =
      UInt8.ofNat (v / 262144 % 8 + 240) :: laterBytes 2 v := by
  have hval := toNat_val_ofNat (v := v) (by omega)
  unfold String.utf8EncodeChar
  dsimp only
  rw [hval, if_neg (by omega), if_neg (by omega), if_neg (by omega)]
  rfl

/-- A byte is told by its value. -/
lemma eq_ofNat_of_toNat_eq {b : UInt8} {n : ℕ} (h : b.toNat = n) : b = UInt8.ofNat n := by
  rw [← h, UInt8.ofNat_toNat]

/-- A byte that is a character of its own is all there is of this character. -/
lemma utf8EncodeChar_of_whole {b : UInt8} {c : Char} (h : opening b = .whole c) :
    String.utf8EncodeChar c = [b] := by
  unfold opening at h
  dsimp only at h
  split_ifs at h with hb
  obtain rfl := Opening.whole.inj h
  rw [utf8EncodeChar_one hb, UInt8.ofNat_toNat]

/-- A byte that begins a character is the first of two, three or four bytes. -/
lemma opening_lead_cases {b : UInt8} {p : Pending} (h : opening b = .lead p) :
    (∃ n, 2 ≤ n ∧ n < 32 ∧ b = UInt8.ofNat (n + 192) ∧ p = ⟨n, 0, 0x80, 0xBF⟩) ∨
    (∃ n < 16, b = UInt8.ofNat (n + 224) ∧
      p = ⟨n, 1, if n = 0 then 0xA0 else 0x80, if n = 0xD then 0x9F else 0xBF⟩) ∨
    (∃ n < 5, b = UInt8.ofNat (n + 240) ∧
      p = ⟨n, 2, if n = 0 then 0x90 else 0x80, if n = 4 then 0x8F else 0xBF⟩) := by
  have hlead : 0xC2 ≤ b.toNat ∧ b.toNat ≤ 0xF4 := by
    unfold opening at h
    dsimp only at h
    split_ifs at h <;> omega
  by_cases h2 : b.toNat < 0xE0
  · have hb : b = UInt8.ofNat (b.toNat - 192 + 192) := eq_ofNat_of_toNat_eq (by omega)
    rw [hb, opening_two (by omega) (by omega)] at h
    exact .inl ⟨b.toNat - 192, by omega, by omega, hb, (Opening.lead.inj h).symm⟩
  by_cases h3 : b.toNat < 0xF0
  · have hb : b = UInt8.ofNat (b.toNat - 224 + 224) := eq_ofNat_of_toNat_eq (by omega)
    rw [hb, opening_three (by omega)] at h
    exact .inr (.inl ⟨b.toNat - 224, by omega, hb, (Opening.lead.inj h).symm⟩)
  · have hb : b = UInt8.ofNat (b.toNat - 240 + 240) := eq_ofNat_of_toNat_eq (by omega)
    rw [hb, opening_four (by omega)] at h
    exact .inr (.inr ⟨b.toNat - 240, by omega, hb, (Opening.lead.inj h).symm⟩)

/-- What a first byte begins is bounded, and a code point that completes it is a character with this
first byte. -/
lemma utf8EncodeChar_of_lead {b : UInt8} {p : Pending} (h : opening b = .lead p) :
    p.IsBounded ∧ ∀ v, p.Completes v →
      String.utf8EncodeChar (Char.ofNat v) = b :: laterBytes p.more v := by
  rcases opening_lead_cases h with
    ⟨n, hn, hn', rfl, rfl⟩ | ⟨n, hn, rfl, rfl⟩ | ⟨n, hn, rfl, rfl⟩
  · refine ⟨⟨le_rfl, le_rfl⟩, fun v ⟨hvalue, hlow, hhigh⟩ => ?_⟩
    norm_num at hvalue hlow hhigh
    have hfirst : v / 64 % 32 = n := by omega
    rw [utf8EncodeChar_two (by omega) (by omega), hfirst]
  · refine ⟨⟨?_, ?_⟩, fun v ⟨hvalue, hlow, hhigh⟩ => ?_⟩
    · dsimp only
      split_ifs <;> omega
    · dsimp only
      split_ifs <;> omega
    · norm_num at hvalue hlow hhigh
      have hfirst : v / 4096 % 16 = n := by omega
      have hlong : 0x800 ≤ v := by
        split_ifs at hlow <;> omega
      have hvalid : v < 0xD800 ∨ 0xDFFF < v := by
        split_ifs at hhigh <;> omega
      rw [utf8EncodeChar_three hlong (by omega) hvalid, hfirst]
  · refine ⟨⟨?_, ?_⟩, fun v ⟨hvalue, hlow, hhigh⟩ => ?_⟩
    · dsimp only
      split_ifs <;> omega
    · dsimp only
      split_ifs <;> omega
    · norm_num at hvalue hlow hhigh
      have hfirst : v / 262144 % 8 = n := by omega
      have hlong : 0x10000 ≤ v := by
        split_ifs at hlow <;> omega
      have hlast : v < 0x110000 := by
        split_ifs at hhigh <;> omega
      rw [utf8EncodeChar_four hlong hlast, hfirst]

end Lead

/-- Bytes that are read without a fault are those of the characters that are read. -/
lemma eq_encode_of_pieces {bytes : List UInt8} {cs : List Char}
    (h : pieces none bytes = cs.map some) : bytes = encode cs := by
  induction cs generalizing bytes with
  | nil =>
    cases bytes with
    | nil => rfl
    | cons b bytes =>
      simp only [pieces] at h
      cases hb : opening b with
      | whole c => simp [hb] at h
      | lead p => exact absurd (by simpa [hb] using h) (pieces_some_ne_nil (p := p))
      | malformed => simp [hb] at h
  | cons c cs ih =>
    rw [List.map_cons] at h
    rw [encode_cons]
    cases bytes with
    | nil => cases h
    | cons b bytes =>
      cases hb : opening b with
      | whole d =>
        simp only [pieces, hb] at h
        obtain ⟨hc, hps⟩ := List.cons.inj h
        obtain rfl := Option.some.inj hc
        rw [utf8EncodeChar_of_whole hb, ih hps, List.singleton_append]
      | lead p =>
        rw [pieces_lead hb] at h
        obtain ⟨hbounded, hcompletes⟩ := utf8EncodeChar_of_lead hb
        obtain ⟨v, rest, hv, rfl, rfl, hps⟩ := exists_of_pieces_some hbounded h
        rw [hcompletes v hv, ih hps, List.cons_append]
      | malformed => simp [pieces, hb] at h

/-- Bytes spell a text exactly if they are its bytes. -/
theorem decode?_eq_some_iff {bytes : List UInt8} {cs : List Char} :
    decode? bytes = some cs ↔ bytes = encode cs := by
  have hpieces {l : List (Option Char)} (h : l.mapM id = some cs) : l = cs.map some := by
    induction l generalizing cs with
    | nil =>
      cases h
      rfl
    | cons x l ih =>
      rw [List.mapM_cons] at h
      obtain ⟨c, hc, h⟩ := Option.bind_eq_some_iff.mp h
      obtain ⟨cs', hcs, h⟩ := Option.bind_eq_some_iff.mp h
      obtain rfl := Option.some.inj h
      rw [ih hcs, List.map_cons]
      exact congrArg (· :: _) hc
  constructor
  · exact fun h => eq_encode_of_pieces (hpieces h)
  · rintro rfl
    exact decode?_encode cs

end TypedRouter.Text.Utf8
