import TypedRouter.Proofs.TypeScript.Comments
import TypedRouter.Proofs.TypeScript.Tokens
import Mathlib.Data.List.Forall2

/-!
# The string literals of a module

A module quotes texts from outside: strings that are the only value of a type, and names of members
that are no identifiers.  Read without its comments, a module has one string literal for each of
these, and no other.

A string literal carries the string that is read from it.  No quotation mark without a backslash
before it stands between its first and its last character, and with the backslashes undone it gives
the string back, whatever the string is.  Quotation marks and backslashes are all that is escaped,
though.  A line break in a string stands in its literal as it is, and a literal has to be on one
line, so the literals of a module are well-formed if and only if no string that it quotes has a line
break.
-/

namespace TypedRouter.TypeScript

open Router Text

/-! ## String literals -/

/-- What stands between the quotation marks of a string literal, and the string that is read from
it. -/
inductive Spells : List Char → List Char → Prop
  | nil : Spells [] []
  | plain {c : Char} {cs value : List Char} (backslash : c ≠ '\\') (mark : c ≠ Quoted.mark)
      (rest : Spells cs value) : Spells (c :: cs) (c :: value)
  | escaped {c : Char} {cs value : List Char} (escapes : c = '\\' ∨ c = Quoted.mark)
      (rest : Spells cs value) : Spells ('\\' :: c :: cs) (c :: value)

/-- A literal that ends at the first quotation mark without a backslash, and from which a string is
read. -/
def Carries (literal value : List Char) : Prop :=
  ∃ inner, literal = Quoted.mark :: (inner ++ [Quoted.mark]) ∧ Spells inner value

/-- A text without line breaks. -/
def IsOneLine (cs : List Char) : Prop := '\n' ∉ cs ∧ '\r' ∉ cs

/-- A well-formed string literal and its string. -/
structure IsLiteral (literal value : List Char) : Prop where
  oneLine : IsOneLine literal
  carries : Carries literal value

/-- A character that needs no escape spells itself. -/
lemma spells_plain_iff {c : Char} (backslash : c ≠ '\\') (mark : c ≠ Quoted.mark)
    {cs value : List Char} :
    Spells (c :: cs) value ↔ ∃ rest, value = c :: rest ∧ Spells cs rest := by
  constructor
  · intro h
    cases h with
    | plain _ _ rest => exact ⟨_, rfl, rest⟩
    | escaped => exact absurd rfl backslash
  · rintro ⟨rest, rfl, h⟩
    exact .plain backslash mark h

/-- A character after a backslash spells itself. -/
lemma spells_escaped_iff {c : Char} (escapes : c = '\\' ∨ c = Quoted.mark)
    {cs value : List Char} :
    Spells ('\\' :: c :: cs) value ↔ ∃ rest, value = c :: rest ∧ Spells cs rest := by
  constructor
  · intro h
    cases h with
    | plain backslash => exact absurd rfl backslash
    | escaped _ rest => exact ⟨_, rfl, rest⟩
  · rintro ⟨rest, rfl, h⟩
    exact .escaped escapes h

/-- From what is escaped, the string and nothing else is read. -/
@[simp]
lemma spells_escape_iff {cs value : List Char} : Spells (Quoted.escape cs) value ↔ value = cs := by
  induction cs generalizing value with
  | nil =>
    rw [Quoted.escape_nil]
    constructor
    · rintro ⟨⟩
      rfl
    · rintro rfl
      exact .nil
  | cons c cs ih =>
    have hcons : Spells (Quoted.escape (c :: cs)) value ↔
        ∃ rest, value = c :: rest ∧ Spells (Quoted.escape cs) rest := by
      by_cases hc : c = '\\' ∨ c = Quoted.mark
      · rw [Quoted.escape_cons_of_special hc, spells_escaped_iff hc]
      · obtain ⟨hbackslash, hmark⟩ := not_or.mp hc
        rw [Quoted.escape_cons_of_plain hc, spells_plain_iff hbackslash hmark]
    rw [hcons]
    constructor
    · rintro ⟨rest, rfl, h⟩
      rw [ih.mp h]
    · rintro rfl
      exact ⟨cs, rfl, ih.mpr rfl⟩

/-- A literal carries the value that it was written for, and no other. -/
@[simp] lemma carries_encode_iff {cs value : List Char} :
    Carries (Quoted.encode cs) value ↔ value = cs := by
  rw [← spells_escape_iff]
  constructor
  · rintro ⟨inner, heq, hspells⟩
    rw [Quoted.encode, List.cons_inj_right, List.append_cancel_right_eq] at heq
    rwa [heq]
  · exact fun h => ⟨_, rfl, h⟩

/-- Escaping adds and takes away nothing but backslashes. -/
lemma mem_escape_iff {c : Char} (hc : c ≠ '\\') {cs : List Char} :
    c ∈ Quoted.escape cs ↔ c ∈ cs := by
  induction cs with
  | nil => simp
  | cons d cs ih =>
    by_cases hd : d = '\\' ∨ d = Quoted.mark
    · simp [hd, hc, ih]
    · simp [hd, ih]

/-- A literal stands in one line if its value does. -/
@[simp]
lemma isOneLine_encode_iff {cs : List Char} : IsOneLine (Quoted.encode cs) ↔ IsOneLine cs := by
  have hmem {c : Char} (hc : c ≠ '\\') (hmark : c ≠ Quoted.mark) :
      c ∈ Quoted.encode cs ↔ c ∈ cs := by
    rw [Quoted.encode, List.mem_cons, List.mem_append, List.mem_singleton, mem_escape_iff hc]
    simp [hmark]
  rw [IsOneLine, IsOneLine, hmem (by decide) (by decide), hmem (by decide) (by decide)]

/-! ## The literals among tokens -/

/-- The text of a token that is a string literal. -/
def Token.literal? : Token → Option (List Char)
  | .quoted cs => some cs
  | _ => none

/-- The string literals among some tokens. -/
def literalsOf (ts : List Token) : List (List Char) := ts.filterMap Token.literal?

/-- The string literals of a text, read without its comments. -/
def literals (cs : List Char) : List (List Char) :=
  literalsOf (readText (withoutComments .code cs))

/-- The literals of some strings. -/
def encodeAll (strings : List String) : List (List Char) :=
  strings.map fun s => Quoted.encode s.toList

section LiteralsOf

variable (ts us : List Token)

/-- No tokens have no literals. -/
@[simp] lemma literalsOf_nil : literalsOf [] = [] := rfl

/-- Tokens that follow others add their literals. -/
@[simp] lemma literalsOf_append : literalsOf (ts ++ us) = literalsOf ts ++ literalsOf us :=
  List.filterMap_append

/-- A mark is no literal. -/
@[simp] lemma literalsOf_mark (c : Char) : literalsOf (.mark c :: ts) = literalsOf ts := rfl

/-- Neither is a word or a number. -/
@[simp] lemma literalsOf_ofRun (cs : List Char) : literalsOf (.ofRun cs :: ts) = literalsOf ts := by
  unfold Token.ofRun
  split
  · rfl
  · rfl

/-- The literals of groups of tokens, one group after the other. -/
@[simp] lemma literalsOf_flatMap {α : Type} (f : α → List Token) (xs : List α) :
    literalsOf (xs.flatMap f) = xs.flatMap fun x => literalsOf (f x) :=
  List.filterMap_flatMap

/-- Marks between items are no literals. -/
@[simp] lemma literalsOf_intercalate {α : Type} (c : Char) (f : α → List Token) (xs : List α) :
    literalsOf (List.intercalate [.mark c] (xs.map f)) = xs.flatMap fun x => literalsOf (f x) := by
  cases xs with
  | nil => rfl
  | cons x xs =>
    rw [intercalate_map_cons, literalsOf_append, literalsOf_flatMap, List.flatMap_cons]
    rfl

/-- The literals of arguments, one argument after the other. -/
@[simp] lemma literalsOf_argumentTokens {α : Type} (f : α → List Token) (xs : List α) :
    literalsOf (argumentTokens (xs.map f)) = xs.flatMap fun x => literalsOf (f x) := by
  cases xs with
  | nil => rfl
  | cons x xs =>
    have htokens : argumentTokens ((x :: xs).map f) =
        .mark '<' :: (List.intercalate [.mark ','] ((x :: xs).map f) ++ [.mark '>']) := rfl
    rw [htokens, literalsOf_mark, literalsOf_append, literalsOf_intercalate]
    exact List.append_nil _

end LiteralsOf

/-! ## The strings of a type -/

/-- What a member with this name quotes for it. -/
def keyStrings (name : String) : List String :=
  if Identifier.isIdentifier name then [] else [name]

namespace Ty

mutual

/-- The strings that a type quotes. -/
def strings : Ty → List String
  | .keyword _ => []
  | .literal (.string s) => [s]
  | .literal _ => []
  | .named _ arguments => listStrings arguments
  | .union members => listStrings members
  | .intersection members => listStrings members
  | .object members => membersStrings members
termination_by structural t => t

/-- The strings that some types quote. -/
def listStrings : List Ty → List String
  | [] => []
  | t :: rest => strings t ++ listStrings rest
termination_by structural ts => ts

/-- The strings that the members of an object type quote. -/
def membersStrings : List (Member Ty) → List String
  | [] => []
  | m :: rest => memberStrings m ++ membersStrings rest
termination_by structural ms => ms

/-- The strings that a member of an object type quotes. -/
def memberStrings : Member Ty → List String
  | .property name _ t => keyStrings name ++ strings t
  | .indexed _ t => strings t
termination_by structural m => m

end

/-- The strings of types, one type after the other. -/
@[simp] lemma listStrings_eq_flatMap (ts : List Ty) : listStrings ts = ts.flatMap strings := by
  induction ts with
  | nil => rfl
  | cons t ts ih => rw [listStrings, ih, List.flatMap_cons]

/-- The strings of members, one member after the other. -/
@[simp] lemma membersStrings_eq_flatMap (ms : List (Member Ty)) :
    membersStrings ms = ms.flatMap memberStrings := by
  induction ms with
  | nil => rfl
  | cons m ms ih => rw [membersStrings, ih, List.flatMap_cons]

end Ty

/-- Strings that follow others add their literals. -/
@[simp] lemma encodeAll_append (ss ts : List String) :
    encodeAll (ss ++ ts) = encodeAll ss ++ encodeAll ts :=
  List.map_append

/-- The literals of groups of strings, one group after the other. -/
@[simp] lemma encodeAll_flatMap {α : Type} (f : α → List String) (xs : List α) :
    encodeAll (xs.flatMap f) = xs.flatMap fun x => encodeAll (f x) :=
  List.map_flatMap

/-- A key is a literal if it is no identifier. -/
@[simp] lemma literalsOf_keyToken (name : String) (ts : List Token) :
    literalsOf (keyToken name :: ts) = encodeAll (keyStrings name) ++ literalsOf ts := by
  unfold keyToken keyStrings
  split
  · exact literalsOf_ofRun ts _
  · rfl

namespace Ty

/-- The literals of a member are those of its key and of its type. -/
lemma literalsOf_memberTokens {m : Member Ty}
    (h : literalsOf m.type.tokens = encodeAll m.type.strings) :
    literalsOf (memberTokens m) = encodeAll (memberStrings m) := by
  cases m with
  | property name mayLack t =>
    have hmarks : literalsOf (propertyMarks mayLack) = [] := by cases mayLack <;> rfl
    have htype : literalsOf t.tokens = encodeAll t.strings := h
    simp [memberTokens, memberStrings, hmarks, htype]
  | indexed label t =>
    have htype : literalsOf t.tokens = encodeAll t.strings := h
    simp [memberTokens, memberStrings, indexTokens, htype]

/-- The literals in the text of a type are those of the strings that it quotes. -/
lemma literalsOf_tokens {t : Ty} (h : Printable t) :
    literalsOf t.tokens = encodeAll t.strings := by
  induction h with
  | @intro t keyword parts ih =>
    cases t with
    | keyword word => exact literalsOf_ofRun [] _
    | literal value =>
      cases value with
      | string s => rfl
      | number n => exact literalsOf_ofRun [] _
      | bool b => exact literalsOf_ofRun [] _
    | named name args => simpa [strings, Ty.parts] using List.flatMap_congr ih
    | union members => simpa [strings, Ty.parts] using List.flatMap_congr ih
    | intersection members => simpa [strings, Ty.parts] using List.flatMap_congr ih
    | object members =>
      have hmembers : ∀ m ∈ members, literalsOf (memberTokens m) = encodeAll (memberStrings m) :=
        fun m hm => literalsOf_memberTokens (ih m.type (List.mem_map_of_mem hm))
      simpa [strings] using List.flatMap_congr hmembers

end Ty

/-! ## The literals of a module -/

/-- The tokens of an alias. -/
def Alias.tokens (a : Alias) : List Token :=
  .ofRun "export".toList :: .ofRun "type".toList :: .ofRun (nameChars a.name) :: .mark '=' ::
    (a.type.tokens ++ [.mark ';'])

/-- The code of an alias has its tokens, whatever follows. -/
lemma Alias.hasClosedTokens_code {a : Alias} (h : a.type.Printable) :
    HasClosedTokens readText a.code a.tokens := by
  have hspace : HasClosedTokens readText [' '] [] := hasClosedTokens_delimiters (by decide)
  have hequals : HasClosedTokens readText [' ', '=', ' '] [.mark '='] :=
    hasClosedTokens_delimiters (by decide)
  have hend : HasClosedTokens readText [';', '\n'] [.mark ';'] :=
    hasClosedTokens_delimiters (by decide)
  have hexport : HasTokens readText "export".toList [.ofRun "export".toList] :=
    hasTokens_identifier (by decide +kernel)
  have htype : HasTokens readText "type".toList [.ofRun "type".toList] :=
    hasTokens_identifier (by decide +kernel)
  have hright := (hasTokens_nameChars a.name).close (by decide)
    (hequals.append ((Ty.hasTokens_chars h 0).close (by decide) hend))
  exact (hexport.close (by decide) hspace).append
    ((htype.close (by decide) hspace).append hright)

/-- The literals of an alias are those of the strings of its type. -/
lemma Alias.literalsOf_tokens {a : Alias} (h : a.type.Printable) :
    literalsOf a.tokens = encodeAll a.type.strings := by
  simp [tokens, Ty.literalsOf_tokens h]

namespace Module

/-- The types of the aliases of a module are printable. -/
lemma printable_of_mem_aliases {spec : Spec} {a : Alias} (h : a ∈ aliases spec) :
    a.type.Printable := by
  rcases List.mem_append.mp h with hdeclared | hrouter
  · obtain ⟨d, -, rfl⟩ := List.mem_map.mp hdeclared
    exact Ty.printable_ofExpr d.type
  · obtain rfl := List.mem_singleton.mp hrouter
    exact printable_routerType spec.root

/-- The strings that the module of a specification quotes, in order. -/
def strings (spec : Spec) : List String := (aliases spec).flatMap fun a => a.type.strings

/-- A module has a literal for each string that it quotes, and no others. -/
lemma literals_body {spec : Spec} {text : String} (h : body spec = .ok text) :
    literals text.toList = encodeAll (strings spec) := by
  have hbreak : HasClosedTokens readText ['\n'] [] := hasClosedTokens_delimiters (by decide)
  have hcode : HasClosedTokens readText ((aliases spec).flatMap Alias.code)
      ((aliases spec).flatMap Alias.tokens) :=
    hasClosedTokens_flatMap fun a ha => Alias.hasClosedTokens_code (printable_of_mem_aliases ha)
  -- a module begins with a line break, which is no token
  have htokens := (hbreak.append hcode).hasTokens.read_eq rfl
  rw [literals, withoutComments_body h]
  rw [List.singleton_append, List.nil_append] at htokens
  rw [htokens, literalsOf_flatMap, strings, encodeAll_flatMap]
  exact List.flatMap_congr fun a ha => Alias.literalsOf_tokens (printable_of_mem_aliases ha)

/-- A module has one string literal for each string that it quotes, in order.  From a literal its
string is read and nothing else, and the literals are all well-formed if and only if no string that
the module quotes has a line break. -/
theorem literals_wellFormed_iff {spec : Spec} {text : String} (h : body spec = .ok text) :
    literals text.toList = encodeAll (strings spec) ∧
      (∀ s ∈ strings spec, ∀ value,
        Carries (Quoted.encode s.toList) value ↔ value = s.toList) ∧
      (List.Forall₂ (fun cs s => IsLiteral cs s.toList) (literals text.toList) (strings spec) ↔
        ∀ s ∈ strings spec, IsOneLine s.toList) := by
  have hliterals := literals_body h
  refine ⟨hliterals, fun s _ value => carries_encode_iff, ?_⟩
  rw [hliterals, encodeAll, List.forall₂_map_left_iff, List.forall₂_same]
  refine forall₂_congr fun s _ => ?_
  rw [← isOneLine_encode_iff]
  exact ⟨fun hs => hs.oneLine, fun hs => ⟨hs, carries_encode_iff.mpr rfl⟩⟩

/-- A key with a quotation mark and marks of comments is read back from its literal. -/
theorem literals_of_petSpec :
    ∃ text, body (petSpec none none) = .ok text ∧
      List.Forall₂ (fun cs s => IsLiteral cs s.toList) (literals text.toList)
        ["it\x27s /* a key */", "/*"] := by
  obtain ⟨text, htext⟩ : ∃ text, body (petSpec none none) = .ok text :=
    exists_body_iff.mpr (by decide +kernel)
  have hstrings : strings (petSpec none none) = ["it\x27s /* a key */", "/*"] := by
    decide +kernel
  obtain ⟨-, -, hwell⟩ := literals_wellFormed_iff htext
  rw [hstrings] at hwell
  refine ⟨text, htext, hwell.mpr ?_⟩
  unfold IsOneLine
  decide +kernel

/-- The specification of a document with a component that allows one string. -/
def enumSpec (value : String) : Spec :=
  .ofDocument { components := some { schemas := [("E", { variants := some [.string value] })] } }

/-- A string with a line break has a module with a literal that is on two lines. -/
theorem literal_on_two_lines :
    ∃ text, body (enumSpec "new\nline") = .ok text ∧
      ∃ cs ∈ literals text.toList, ¬ IsOneLine cs := by
  obtain ⟨text, htext⟩ : ∃ text, body (enumSpec "new\nline") = .ok text :=
    exists_body_iff.mpr (by decide +kernel)
  have hstrings : strings (enumSpec "new\nline") = ["new\nline"] := by decide +kernel
  refine ⟨text, htext, Quoted.encode "new\nline".toList, ?_, ?_⟩
  · rw [literals_body htext, hstrings]
    exact List.mem_singleton_self _
  · rw [isOneLine_encode_iff, IsOneLine]
    decide +kernel

end Module

end TypedRouter.TypeScript
