import TypedRouter.Proofs.TypeScript.Word
import Mathlib.Data.Set.Function

/-!
# Readable types

Two types may share their text: a name that is a keyword looks like the keyword, a union with one
member like the member, and a union in a union like its members.  The readable types are those
without such parts.  Different numbers might be written alike, so the numbers come from a set where
they are not.

The text of a simple type, one that is neither a union nor an intersection, is a word followed by
its back, and either may be empty.  The word tells names, keywords and numbers from each other.  The
first character of the back is a quotation mark, an angle bracket or a brace, none of which may
follow a type, so it tells what kind of simple type it is.
-/

namespace TypedRouter.TypeScript

open Text

/-! ## Readable types -/

/-- The words that the language has for types. -/
def keywords : List String := ["string", "number", "boolean", "null", "unknown", "void"]

/-- The words that no type may be named by: the keywords and the truth values. -/
def reserved : List String := keywords ++ ["true", "false"]

/-- The type of a member. -/
def Member.type {α : Type} : Member α → α
  | .property _ _ t => t
  | .indexed _ t => t

namespace Ty

/-- A type that is neither a union nor an intersection. -/
def IsSimple : Ty → Prop
  | .union _ => False
  | .intersection _ => False
  | _ => True

/-- The types that are written as one word. -/
inductive IsWord (numbers : Set Json.Number) : Ty → Prop
  | keyword {word : String} (mem : word ∈ keywords) : IsWord numbers (.keyword word)
  | bool (value : Bool) : IsWord numbers (.literal (.bool value))
  | number {n : Json.Number} (mem : n ∈ numbers) : IsWord numbers (.literal (.number n))
  | name {name : String} (identifier : Identifier.isIdentifier name = true)
      (free : name ∉ reserved) : IsWord numbers (.named name [])

/-- The types that are determined by their texts. -/
inductive Readable (numbers : Set Json.Number) : Ty → Prop
  | word {t : Ty} (word : IsWord numbers t) : Readable numbers t
  | string (value : String) : Readable numbers (.literal (.string value))
  | application {name : String} {arg : Ty} {args : List Ty}
      (identifier : Identifier.isIdentifier name = true)
      (arguments : ∀ a ∈ arg :: args, Readable numbers a) :
      Readable numbers (.named name (arg :: args))
  | object {members : List (Member Ty)}
      (labels : ∀ label t, .indexed label t ∈ members → Identifier.isIdentifier label = true)
      (types : ∀ m ∈ members, Readable numbers m.type) : Readable numbers (.object members)
  | union {t u : Ty} {ts : List Ty} (simple : ∀ m ∈ t :: u :: ts, m.IsSimple)
      (members : ∀ m ∈ t :: u :: ts, Readable numbers m) : Readable numbers (.union (t :: u :: ts))
  | intersection {t u : Ty} {ts : List Ty} (simple : ∀ m ∈ t :: u :: ts, m.IsSimple)
      (members : ∀ m ∈ t :: u :: ts, Readable numbers m) :
      Readable numbers (.intersection (t :: u :: ts))

variable {numbers : Set Json.Number} {t u : Ty} {r s : List Char} {indent : ℕ}

/-! ## Words -/

/-- The word that the text of a simple type starts with; it may be empty. -/
def front : Ty → List Char
  | .keyword word => word.toList
  | .literal (.number n) => n.chars
  | .literal (.bool value) => (Literal.bool value).chars
  | .named name _ => nameChars name
  | _ => []

/-- The type that an identifier is the word of. -/
def ofIdentifier (word : String) : Ty :=
  if word ∈ keywords then .keyword word
  else if word = "true" then .literal (.bool true)
  else if word = "false" then .literal (.bool false)
  else .named word []

/-- A name that is an identifier is written as it is. -/
lemma nameChars_of_isIdentifier {name : String} (h : Identifier.isIdentifier name = true) :
    nameChars name = name.toList := Identifier.sanitizeChars_of_isIdentifierChars h

/-- A type that is a word is a number, or it can be read back from an identifier. -/
lemma IsWord.number_or_identifier (h : IsWord numbers t) :
    (∃ n ∈ numbers, t = .literal (.number n)) ∨
      Identifier.isIdentifierChars t.front = true ∧ ofIdentifier (String.ofList t.front) = t := by
  -- keywords and truth values have the form of an identifier, so only `reserved` sets them apart
  have hkeywords : ∀ word ∈ keywords, Identifier.isIdentifier word = true := by decide +kernel
  have hbools : ∀ b : Bool, Identifier.isIdentifierChars (Literal.bool b).chars = true ∧
      ofIdentifier (String.ofList (Literal.bool b).chars) = .literal (.bool b) := by
    intro b
    cases b
    · exact ⟨by decide +kernel, rfl⟩
    · exact ⟨by decide +kernel, rfl⟩
  cases h with
  | keyword mem =>
    refine .inr ⟨hkeywords _ mem, ?_⟩
    rw [front, String.ofList_toList, ofIdentifier, if_pos mem]
  | bool b => exact .inr (hbools b)
  | number mem => exact .inl ⟨_, mem, rfl⟩
  | @name name identifier free =>
    right
    rw [front, nameChars_of_isIdentifier identifier]
    refine ⟨identifier, ?_⟩
    have hkeyword : name ∉ keywords := fun hmem => free (List.mem_append_left _ hmem)
    have htrue : name ≠ "true" := by
      rintro rfl
      exact free (by decide)
    have hfalse : name ≠ "false" := by
      rintro rfl
      exact free (by decide)
    rw [String.ofList_toList, ofIdentifier, if_neg hkeyword, if_neg htrue, if_neg hfalse]

/-- Types that are the same word are equal. -/
lemma IsWord.eq_of_front (distinct : numbers.InjOn Json.Number.chars) (ht : IsWord numbers t)
    (hu : IsWord numbers u) (h : t.front = u.front) : t = u := by
  rcases ht.number_or_identifier with ⟨n, hn, rfl⟩ | ⟨hid, ht⟩
  · rcases hu.number_or_identifier with ⟨m, hm, rfl⟩ | ⟨hid, -⟩
    · obtain rfl := distinct hn hm h
      rfl
    · rw [← h, front, isIdentifierChars_number] at hid
      cases hid
  · rcases hu.number_or_identifier with ⟨m, hm, rfl⟩ | ⟨-, hu⟩
    · rw [h, front, isIdentifierChars_number] at hid
      cases hid
    · rw [← ht, ← hu, h]

/-! ## Fronts and backs -/

/-- What may follow a type: the end of a member, of an argument or of all arguments. -/
def Ends (rest : List Char) : Prop := ∀ c ∈ rest.head?, c ∈ [';', ',', '>']

/-- What may follow a simple type: what may follow a type, or a further member of the same type. -/
def EndsSimple (rest : List Char) : Prop := ∀ c ∈ rest.head?, c ∈ [' ', ';', ',', '>']

/-- What may follow a type may follow a simple one. -/
lemma Ends.endsSimple (h : Ends r) : EndsSimple r := fun c hc => List.mem_cons_of_mem _ (h c hc)

/-- The text of a simple type after its front. -/
def back (indent : ℕ) : Ty → List Char
  | .literal (.string value) => Quoted.encode value.toList
  | .named _ args => argumentChars (listChars indent args)
  | .object members =>
    '\x7b' :: '\n' :: (memberLines (indent + 2) members ++ (margin indent ++ ['\x7d']))
  | _ => []

/-- A simple type is written as its front and then its back. -/
lemma chars_of_isSimple (h : t.IsSimple) : t.chars indent = t.front ++ t.back indent := by
  cases t with
  | keyword word => simp [front, back]
  | literal value => cases value <;> simp [front, back, Literal.chars]
  | named name args => simp [front, back]
  | object members => simp [front, back]
  | union members => exact h.elim
  | intersection members => exact h.elim

/-- The kinds of simple types. -/
inductive Kind where
  | word
  | quoted
  | applied
  | braced
  deriving DecidableEq

/-- The kind of a simple type. -/
def kind : Ty → Kind
  | .literal (.string _) => .quoted
  | .named _ (_ :: _) => .applied
  | .object _ => .braced
  | _ => .word

/-- A word is simple. -/
lemma IsWord.isSimple (h : IsWord numbers t) : t.IsSimple := by
  cases h <;> trivial

/-- It is of the kind of words. -/
lemma IsWord.kind_eq (h : IsWord numbers t) : t.kind = .word := by
  cases h <;> rfl

/-- It has no back. -/
lemma IsWord.back_eq (h : IsWord numbers t) : t.back indent = [] := by
  cases h <;> rfl

/-- A simple readable type of the kind of words is one. -/
lemma Readable.isWord (h : Readable numbers t) (simple : t.IsSimple) (hkind : t.kind = .word) :
    IsWord numbers t := by
  cases h with
  | word word => exact word
  | string => cases hkind
  | application => cases hkind
  | object => cases hkind
  | union => exact simple.elim
  | intersection => exact simple.elim

/-- A readable type in quotation marks is a string. -/
lemma Readable.string_of_kind (h : Readable numbers t) (hkind : t.kind = .quoted) :
    ∃ value, t = .literal (.string value) := by
  cases h with
  | word word => cases word.kind_eq.symm.trans hkind
  | string value => exact ⟨value, rfl⟩
  | _ => cases hkind

/-- A readable type with arguments is a name applied to them. -/
lemma Readable.application_of_kind (h : Readable numbers t) (hkind : t.kind = .applied) :
    ∃ name arg args, t = .named name (arg :: args) ∧ Identifier.isIdentifier name = true ∧
      ∀ a ∈ arg :: args, Readable numbers a := by
  cases h with
  | word word => cases word.kind_eq.symm.trans hkind
  | application identifier arguments => exact ⟨_, _, _, rfl, identifier, arguments⟩
  | _ => cases hkind

/-- A readable type in braces is an object. -/
lemma Readable.object_of_kind (h : Readable numbers t) (hkind : t.kind = .braced) :
    ∃ members, t = .object members ∧
      (∀ label t, .indexed label t ∈ members → Identifier.isIdentifier label = true) ∧
        ∀ m ∈ members, Readable numbers m.type := by
  cases h with
  | word word => cases word.kind_eq.symm.trans hkind
  | object labels types => exact ⟨_, rfl, labels, types⟩
  | _ => cases hkind

/-- The first character of the back of a type of some kind. -/
def Kind.mark? : Kind → Option Char
  | .word => none
  | .quoted => some Quoted.mark
  | .applied => some '<'
  | .braced => some '\x7b'

/-- The characters that a back may start with separate words, and no type is followed by one. -/
lemma Kind.mark_mem_separators {k : Kind} {c : Char} (h : k.mark? = some c) :
    c ∈ separators ∧ c ∉ [' ', ';', ',', '>'] := by
  cases k with
  | word => cases h
  | quoted =>
    obtain rfl := Option.some.inj h
    decide
  | applied =>
    obtain rfl := Option.some.inj h
    decide
  | braced =>
    obtain rfl := Option.some.inj h
    decide

/-- The back of a type starts with the mark of its kind. -/
lemma head?_back (t : Ty) (indent : ℕ) : (t.back indent).head? = t.kind.mark? := by
  cases t with
  | literal value => cases value <;> rfl
  | named name args => cases args <;> rfl
  | _ => rfl

/-- Nothing that may follow a simple type starts like the back of one. -/
lemma EndsSimple.head?_ne (hr : EndsSimple r) {k : Kind} {c : Char} (hk : k.mark? = some c) :
    r.head? ≠ some c :=
  fun hc => (Kind.mark_mem_separators hk).2 (hr c hc)

/-- The marks tell the kinds apart. -/
lemma Kind.eq_of_mark?_eq {k l : Kind} (h : k.mark? = l.mark?) : k = l := by
  cases k <;> cases l <;> first | rfl | exact absurd h (by decide)

/-- The kind of a simple type can be told from its back and what follows it. -/
lemma kind_eq_of_back (hr : EndsSimple r) (hs : EndsSimple s)
    (h : t.back indent ++ r = u.back indent ++ s) : t.kind = u.kind := by
  have hhead := congrArg List.head? h
  rw [List.head?_append, List.head?_append, head?_back, head?_back] at hhead
  refine Kind.eq_of_mark?_eq ?_
  -- if only one of the backs is empty, what follows it starts like a back
  cases ht : t.kind.mark? with
  | none =>
    cases hu : u.kind.mark? with
    | none => rfl
    | some d =>
      rw [ht, hu, Option.none_or, Option.some_or] at hhead
      exact absurd hhead (hr.head?_ne hu)
  | some c =>
    cases hu : u.kind.mark? with
    | none =>
      rw [ht, hu, Option.none_or, Option.some_or] at hhead
      exact absurd hhead.symm (hs.head?_ne ht)
    | some d => rwa [ht, hu, Option.some_or, Option.some_or] at hhead

/-- What may follow a simple type ends a word. -/
lemma stops_of_endsSimple (h : EndsSimple r) : Stops r := by
  intro c hc
  have hsub : c ∈ separators := by
    have hmem := h c hc
    simp only [List.mem_cons, List.not_mem_nil, or_false] at hmem
    rcases hmem with rfl | rfl | rfl | rfl <;> decide
  exact isWordChar_of_mem_separators hsub

/-- The front of a simple type ends where its back begins. -/
lemma stops_back (t : Ty) (hr : EndsSimple r) : Stops (t.back indent ++ r) := by
  intro c hc
  rw [List.head?_append, head?_back] at hc
  cases hk : t.kind.mark? with
  | none =>
    rw [hk, Option.none_or] at hc
    exact stops_of_endsSimple hr c hc
  | some d =>
    rw [hk, Option.some_or] at hc
    obtain rfl := Option.some.inj hc
    exact isWordChar_of_mem_separators (Kind.mark_mem_separators hk).1

/-- The front of a word consists of word characters. -/
lemma IsWord.all_isWordChar_front (h : IsWord numbers t) : t.front.all isWordChar = true := by
  rcases h.number_or_identifier with ⟨n, -, rfl⟩ | ⟨hid, -⟩
  · exact all_isWordChar_number n
  · exact all_isWordChar_of_isIdentifierChars hid

/-- So does the front of every readable type. -/
lemma Readable.all_isWordChar_front (h : Readable numbers t) :
    t.front.all isWordChar = true := by
  cases h with
  | word word => exact word.all_isWordChar_front
  | application identifier =>
    rw [front, nameChars_of_isIdentifier identifier]
    exact all_isWordChar_of_isIdentifierChars identifier
  | _ => rfl

/-- The texts of two simple types have equal fronts, and equal backs with what follows. -/
lemma front_eq_and_back_eq (ht : Readable numbers t) (hu : Readable numbers u)
    (simple : t.IsSimple) (simple' : u.IsSimple) (hr : EndsSimple r) (hs : EndsSimple s)
    (h : t.chars indent ++ r = u.chars indent ++ s) :
    t.front = u.front ∧ t.back indent ++ r = u.back indent ++ s := by
  rw [chars_of_isSimple simple, chars_of_isSimple simple', List.append_assoc,
    List.append_assoc] at h
  exact word_append_inj ht.all_isWordChar_front hu.all_isWordChar_front (stops_back t hr)
    (stops_back u hs) h

end Ty

end TypedRouter.TypeScript
