import TypedRouter.Text.Identifier
import Mathlib.Data.List.Basic
import Mathlib.Tactic.Common

/-!
# Identifiers over any alphabet

Which characters are letters and which may follow them changes from one version of Unicode to the
next.  Two facts stay: a letter may also stand inside an identifier, and so may `_`.  An alphabet is
any two classes of characters for which these hold.  The alphabet of the library is one of them, and
identifiers and what is made of a text are defined in the same way over each.

Over every alphabet, a text that was made an identifier is one, and an identifier is made itself.
The reason is that an identifier is its own image, character by character, and that its first
character may lead.
-/

namespace TypedRouter.Text.Identifier

/-- Two classes of characters that identifiers can be made of. -/
structure Alphabet where
  /-- Whether a character has the property `XID_Start`. -/
  isLetter : Char → Bool
  /-- Whether a character has the property `XID_Continue`. -/
  isPart : Char → Bool
  isPart_of_isLetter : ∀ c, isLetter c = true → isPart c = true
  isPart_underscore : isPart '_' = true

namespace Alphabet

section Definitions

variable (A : Alphabet)

/-- Whether a character may lead an identifier. -/
def canStart (c : Char) : Bool :=
  c == '$' || c == '_' || A.isLetter c

/-- Whether a character may stand anywhere after the first. -/
def canContinue (c : Char) : Bool :=
  c == '$' || A.isPart c

/-- Whether a text is an identifier. -/
def isIdentifierChars : List Char → Bool
  | [] => false
  | c :: rest => A.canStart c && rest.all A.canContinue

/-- The character itself if an identifier may hold it, and otherwise `_`. -/
def keepOrUnderscore (c : Char) : Char :=
  if A.canContinue c then c else '_'

/-- A text made an identifier; one that is an identifier stays as it is. -/
def sanitizeChars (cs : List Char) : List Char :=
  if A.isIdentifierChars cs then cs
  else
    match cs.map A.keepOrUnderscore with
    | [] => ['_']
    | c :: rest => if A.canStart c then c :: rest else '_' :: c :: rest

/-- Whether a text is an identifier. -/
def isIdentifier (name : String) : Bool :=
  A.isIdentifierChars name.toList

/-- A text made an identifier; one that is an identifier stays as it is. -/
def sanitize (name : String) : String :=
  String.ofList (A.sanitizeChars name.toList)

/-- A text without a first character that may lead an identifier. -/
def LacksStart (cs : List Char) : Prop :=
  cs = [] ∨ ∃ c ∈ cs.head?, A.canStart c = false

/-- What it means for a function to make identifiers: it changes the texts that are none, and makes
of every text its image, character by character, with a `_` before it where that lacks a start. -/
structure Normalizes (isIdentifier : String → Bool) (sanitize : String → String) : Prop where
  isIdentifier_sanitize : ∀ name, isIdentifier (sanitize name) = true
  eq_self_iff : ∀ name, sanitize name = name ↔ isIdentifier name = true
  idempotent : ∀ name, sanitize (sanitize name) = sanitize name
  of_lacksStart : ∀ name, A.LacksStart (name.toList.map A.keepOrUnderscore) →
    (sanitize name).toList = '_' :: name.toList.map A.keepOrUnderscore
  of_not_lacksStart : ∀ name, ¬ A.LacksStart (name.toList.map A.keepOrUnderscore) →
    (sanitize name).toList = name.toList.map A.keepOrUnderscore

end Definitions

variable {A : Alphabet} {cs : List Char} {c : Char}

/-! ## Characters -/

/-- The `_` may lead an identifier of every alphabet. -/
@[simp] lemma canStart_underscore : A.canStart '_' = true := rfl

/-- It may also stand inside one. -/
lemma canContinue_underscore : A.canContinue '_' = true := by
  rw [canContinue, A.isPart_underscore, Bool.or_true]

/-- What may lead an identifier may stand inside it. -/
lemma canContinue_of_canStart (h : A.canStart c = true) : A.canContinue c = true := by
  unfold canStart at h
  rw [Bool.or_eq_true, Bool.or_eq_true, beq_iff_eq, beq_iff_eq] at h
  rcases h with (rfl | rfl) | hletter
  · rfl
  · exact canContinue_underscore
  · rw [canContinue, A.isPart_of_isLetter c hletter, Bool.or_true]

/-- The image of a character may stand inside an identifier. -/
lemma canContinue_keepOrUnderscore (c : Char) :
    A.canContinue (A.keepOrUnderscore c) = true := by
  unfold keepOrUnderscore
  split
  · next h => exact h
  · exact canContinue_underscore

/-- A character that is not replaced by `_` is kept. -/
lemma keepOrUnderscore_eq_self (h : A.keepOrUnderscore c ≠ '_') :
    A.keepOrUnderscore c = c := by
  unfold keepOrUnderscore at h ⊢
  split
  · rfl
  · next hc => exact absurd (if_neg hc) h

/-! ## Texts -/

/-- All characters of an identifier may stand inside one. -/
lemma canContinue_of_mem (h : A.isIdentifierChars cs = true) (hc : c ∈ cs) :
    A.canContinue c = true := by
  cases cs with
  | nil => cases hc
  | cons first rest =>
    rw [isIdentifierChars, Bool.and_eq_true, List.all_eq_true] at h
    rcases List.mem_cons.mp hc with rfl | hrest
    · exact canContinue_of_canStart h.1
    · exact h.2 c hrest

/-- An identifier is its own image. -/
lemma map_keepOrUnderscore (h : A.isIdentifierChars cs = true) :
    cs.map A.keepOrUnderscore = cs :=
  (List.map_congr_left fun _ hc => if_pos (canContinue_of_mem h hc)).trans (List.map_id cs)

/-- The characters of an identifier do not lack a start. -/
lemma not_lacksStart (h : A.isIdentifierChars cs = true) : ¬ A.LacksStart cs := by
  cases cs with
  | nil => cases h
  | cons c rest =>
    rw [isIdentifierChars, Bool.and_eq_true] at h
    simp [LacksStart, h.1]

/-- An image is an identifier exactly if it does not lack a start. -/
lemma isIdentifierChars_map (h : ¬ A.LacksStart (cs.map A.keepOrUnderscore)) :
    A.isIdentifierChars (cs.map A.keepOrUnderscore) = true := by
  cases cs with
  | nil => exact absurd (.inl rfl) h
  | cons c rest =>
    have hstart : A.canStart (A.keepOrUnderscore c) = true := by
      simpa [LacksStart] using h
    rw [List.map_cons, isIdentifierChars, hstart, List.all_map, Bool.true_and, List.all_eq_true]
    exact fun d _ => canContinue_keepOrUnderscore d

/-- A `_` before an image makes an identifier. -/
lemma isIdentifierChars_underscore_map (cs : List Char) :
    A.isIdentifierChars ('_' :: cs.map A.keepOrUnderscore) = true := by
  rw [isIdentifierChars, canStart_underscore, List.all_map, Bool.true_and, List.all_eq_true]
  exact fun c _ => canContinue_keepOrUnderscore c

/-- An identifier is made itself. -/
lemma sanitizeChars_of_isIdentifierChars (h : A.isIdentifierChars cs = true) :
    A.sanitizeChars cs = cs := if_pos h

/-- Where the image lacks a start, a `_` is put before it. -/
lemma sanitizeChars_of_lacksStart (h : A.LacksStart (cs.map A.keepOrUnderscore)) :
    A.sanitizeChars cs = '_' :: cs.map A.keepOrUnderscore := by
  have hnot : ¬ A.isIdentifierChars cs = true := by
    intro hid
    rw [map_keepOrUnderscore hid] at h
    exact not_lacksStart hid h
  rw [sanitizeChars, if_neg hnot]
  rcases h with hnil | ⟨c, hc, hstart⟩
  · rw [hnil]
  · obtain ⟨rest, hmap⟩ : ∃ rest, cs.map A.keepOrUnderscore = c :: rest :=
      List.head?_eq_some_iff.mp hc
    simp only [hmap, hstart]
    rfl

/-- Otherwise the image is what is made of a text. -/
lemma sanitizeChars_of_not_lacksStart (h : ¬ A.LacksStart (cs.map A.keepOrUnderscore)) :
    A.sanitizeChars cs = cs.map A.keepOrUnderscore := by
  by_cases hid : A.isIdentifierChars cs = true
  · rw [sanitizeChars_of_isIdentifierChars hid, map_keepOrUnderscore hid]
  · rw [sanitizeChars, if_neg hid]
    cases hmap : cs.map A.keepOrUnderscore with
    | nil => exact absurd (.inl hmap) h
    | cons c rest =>
      have hstart : A.canStart c = true := by
        simpa [LacksStart, hmap] using h
      exact if_pos hstart

/-- A text that is made an identifier is one. -/
lemma isIdentifierChars_sanitizeChars (cs : List Char) :
    A.isIdentifierChars (A.sanitizeChars cs) = true := by
  by_cases h : A.LacksStart (cs.map A.keepOrUnderscore)
  · rw [sanitizeChars_of_lacksStart h]
    exact isIdentifierChars_underscore_map cs
  · rw [sanitizeChars_of_not_lacksStart h]
    exact isIdentifierChars_map h

/-- Only identifiers stay as they are. -/
@[simp] lemma sanitizeChars_eq_self_iff : A.sanitizeChars cs = cs ↔ A.isIdentifierChars cs = true :=
  ⟨fun h => h ▸ isIdentifierChars_sanitizeChars cs, sanitizeChars_of_isIdentifierChars⟩

/-- An identifier without a `_` is made of no text but itself. -/
lemma sanitizeChars_eq_iff {word : List Char} (hword : A.isIdentifierChars word = true)
    (hplain : '_' ∉ word) : A.sanitizeChars cs = word ↔ cs = word := by
  constructor
  · intro h
    by_cases hstart : A.LacksStart (cs.map A.keepOrUnderscore)
    · rw [sanitizeChars_of_lacksStart hstart] at h
      exact absurd (h ▸ List.mem_cons_self) hplain
    · -- no character was replaced, so the text is its own image
      rw [sanitizeChars_of_not_lacksStart hstart] at h
      have hkept : cs.map A.keepOrUnderscore = cs := by
        refine (List.map_congr_left fun c hc => ?_).trans (List.map_id cs)
        have hmem : A.keepOrUnderscore c ∈ word := h ▸ List.mem_map_of_mem hc
        exact keepOrUnderscore_eq_self fun hunderscore => hplain (hunderscore ▸ hmem)
      rw [← hkept, h]
  · rintro rfl
    exact sanitizeChars_of_isIdentifierChars hword

/-- What is made of texts over an alphabet is normal. -/
lemma normalizes_sanitize (A : Alphabet) : A.Normalizes A.isIdentifier A.sanitize := by
  have hidentifier (name : String) : A.isIdentifier (A.sanitize name) = true := by
    rw [isIdentifier, sanitize, String.toList_ofList]
    exact isIdentifierChars_sanitizeChars name.toList
  have hself (name : String) : A.sanitize name = name ↔ A.isIdentifier name = true := by
    rw [sanitize, ← String.toList_inj, String.toList_ofList]
    exact sanitizeChars_eq_self_iff
  refine ⟨hidentifier, hself, fun name => ?_, fun name h => ?_, fun name h => ?_⟩
  · exact (hself (A.sanitize name)).mpr (hidentifier name)
  · rw [sanitize, String.toList_ofList, sanitizeChars_of_lacksStart h]
  · rw [sanitize, String.toList_ofList, sanitizeChars_of_not_lacksStart h]

end Alphabet

end TypedRouter.Text.Identifier
