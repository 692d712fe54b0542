import TypedRouter.Proofs.Text.Alphabet

/-!
# Identifiers

The letters and the parts of words that the library knows are an alphabet: a character that may lead
an identifier may also stand inside one, and `_` may do both.  These two facts about the table are
all that is needed.  So a text that was made an identifier is one, and an identifier is made itself.

Different texts can be made one identifier, but only where a `_` was written for something else.  An
identifier without a `_` is therefore made of no other text.
-/

namespace TypedRouter.Text.Identifier

/-- The alphabet of the library. -/
def unicode : Alphabet where
  isLetter := isLetter
  isPart := isPart
  isPart_of_isLetter c h := by rw [isPart, h, Bool.true_or]
  isPart_underscore := by decide +kernel

/-- The alphabet of Unicode has the characters that may lead an identifier. -/
lemma unicode_canStart (c : Char) : unicode.canStart c = canStart c := by
  rw [Alphabet.canStart, canStart, unicode]

/-- It has the characters that may stand inside one. -/
lemma unicode_canContinue : unicode.canContinue = canContinue := by
  funext c
  rw [Alphabet.canContinue, canContinue, unicode]

/-- Its identifiers are the identifiers of the program. -/
lemma unicode_isIdentifierChars (cs : List Char) :
    unicode.isIdentifierChars cs = isIdentifierChars cs := by
  cases cs with
  | nil => rfl
  | cons c rest =>
    rw [Alphabet.isIdentifierChars, isIdentifierChars, unicode_canStart, unicode_canContinue]

/-- It changes characters as the program does. -/
lemma unicode_sanitizeChars (cs : List Char) :
    unicode.sanitizeChars cs = sanitizeChars cs := by
  have hkeep : unicode.keepOrUnderscore = keepOrUnderscore := by
    funext c
    rw [Alphabet.keepOrUnderscore, keepOrUnderscore, unicode_canContinue]
  rw [Alphabet.sanitizeChars, sanitizeChars, unicode_isIdentifierChars, hkeep]
  cases cs.map keepOrUnderscore with
  | nil => rfl
  | cons c rest => simp only [unicode_canStart]

/-- The same for the names that are identifiers. -/
lemma unicode_isIdentifier : unicode.isIdentifier = isIdentifier :=
  funext fun name => unicode_isIdentifierChars name.toList

/-- The same for names. -/
lemma unicode_sanitize : unicode.sanitize = sanitize :=
  funext fun name => congrArg String.ofList (unicode_sanitizeChars name.toList)

/-- All characters of an identifier may stand inside one. -/
lemma canContinue_of_mem {cs : List Char} (h : isIdentifierChars cs = true) {c : Char}
    (hc : c ∈ cs) : canContinue c = true := by
  rw [← unicode_isIdentifierChars] at h
  rw [← unicode_canContinue]
  exact Alphabet.canContinue_of_mem h hc

/-- A text that is made an identifier is one. -/
lemma isIdentifierChars_sanitizeChars (cs : List Char) :
    isIdentifierChars (sanitizeChars cs) = true := by
  rw [← unicode_isIdentifierChars, ← unicode_sanitizeChars]
  exact Alphabet.isIdentifierChars_sanitizeChars cs

/-- An identifier is made itself. -/
lemma sanitizeChars_of_isIdentifierChars {cs : List Char} (h : isIdentifierChars cs = true) :
    sanitizeChars cs = cs := if_pos h

/-- An identifier without a `_` is made of no text but itself. -/
lemma sanitize_eq_iff {name word : String} (hword : isIdentifier word = true)
    (hplain : '_' ∉ word.toList) : sanitize name = word ↔ name = word := by
  rw [isIdentifier, ← unicode_isIdentifierChars] at hword
  rw [sanitize, ← unicode_sanitizeChars, ← String.toList_inj, String.toList_ofList,
    Alphabet.sanitizeChars_eq_iff hword hplain, String.toList_inj]

/-- A sanitized name is an identifier. -/
lemma isIdentifier_sanitize (name : String) : isIdentifier (sanitize name) = true := by
  rw [isIdentifier, sanitize, String.toList_ofList]
  exact isIdentifierChars_sanitizeChars name.toList

/-- Making identifiers of texts is normal, for the characters that the library knows and for every
other alphabet: what is made is an identifier, identifiers and no other texts stay as they are, and
so does what was made before.  What is made of a text is its image, in which the characters that no
identifier may hold are replaced by `_`, and one more `_` stands before it exactly if the image is
empty or its first character may not lead. -/
theorem sanitize_normalizes :
    unicode.Normalizes isIdentifier sanitize ∧
      ∀ A : Alphabet, A.Normalizes A.isIdentifier A.sanitize := by
  refine ⟨?_, Alphabet.normalizes_sanitize⟩
  rw [← unicode_isIdentifier, ← unicode_sanitize]
  exact Alphabet.normalizes_sanitize unicode

/-- A digit may not lead, and a character that no identifier may hold may. -/
example : sanitize "2fa" = "_2fa" ∧ sanitize "-fa" = "_fa" ∧ sanitize "" = "_" := by
  decide +kernel

end TypedRouter.Text.Identifier
