/-!
# UTF-8

Bytes are read as UTF-8 one after the other.  A byte that cannot go on with the character before
it ends that character as malformed, and starts the next one; so as few bytes as possible are
given up at each fault.
-/

namespace TypedRouter.Text.Utf8

/-- The bytes of a text. -/
def encode (cs : List Char) : List UInt8 :=
  cs.flatMap String.utf8EncodeChar

/-- A character of which some bytes are still to come. -/
structure Pending where
  /-- What the bytes so far say. -/
  value : Nat
  /-- How many bytes are to come after the next one. -/
  more : Nat
  /-- The least value of the next byte. -/
  low : Nat
  /-- The greatest value of the next byte. -/
  high : Nat
  deriving DecidableEq, Repr

/-- What a byte says that does not go on with a character. -/
inductive Opening where
  /-- A character of its own. -/
  | whole (c : Char)
  /-- The first byte of a character. -/
  | lead (pending : Pending)
  /-- Nothing that may stand there. -/
  | malformed
  deriving Repr

/-- What a byte says that does not go on with a character.  The bounds of the second byte leave
out longer spellings of a character, halves of surrogate pairs and what is beyond the last code
point. -/
def opening (b : UInt8) : Opening :=
  let n := b.toNat
  if n < 0x80 then .whole (Char.ofNat n)
  else if n < 0xC2 then .malformed
  else if n < 0xE0 then .lead ⟨n - 0xC0, 0, 0x80, 0xBF⟩
  else if n = 0xE0 then .lead ⟨0, 1, 0xA0, 0xBF⟩
  else if n = 0xED then .lead ⟨0xD, 1, 0x80, 0x9F⟩
  else if n < 0xF0 then .lead ⟨n - 0xE0, 1, 0x80, 0xBF⟩
  else if n = 0xF0 then .lead ⟨0, 2, 0x90, 0xBF⟩
  else if n < 0xF4 then .lead ⟨n - 0xF0, 2, 0x80, 0xBF⟩
  else if n = 0xF4 then .lead ⟨4, 2, 0x80, 0x8F⟩
  else .malformed

/-- The characters of a text, with `none` for each fault.  The first argument is the character
that the bytes before have begun. -/
def pieces : Option Pending → List UInt8 → List (Option Char)
  | none, [] => []
  | some _, [] => [none]
  | none, b :: rest =>
    match opening b with
    | .whole c => some c :: pieces none rest
    | .lead p => pieces (some p) rest
    | .malformed => none :: pieces none rest
  | some p, b :: rest =>
    if p.low ≤ b.toNat ∧ b.toNat ≤ p.high then
      let value := p.value * 64 + (b.toNat - 0x80)
      match p.more with
      | 0 => some (Char.ofNat value) :: pieces none rest
      | more + 1 => pieces (some ⟨value, more, 0x80, 0xBF⟩) rest
    else
      match opening b with
      | .whole c => none :: some c :: pieces none rest
      | .lead p => none :: pieces (some p) rest
      | .malformed => none :: none :: pieces none rest

/-- The text that some bytes spell. -/
def decode? (bytes : List UInt8) : Option (List Char) :=
  (pieces none bytes).mapM id

/-- The text that some bytes spell, with a replacement character for each fault. -/
def decodeLossy (bytes : List UInt8) : List Char :=
  (pieces none bytes).map (·.getD '\uFFFD')

end TypedRouter.Text.Utf8
