import TypedRouter.Proofs.TypeScript.Tokens

/-!
# The two texts of a type expression

A type expression is written in two ways.  On one line it is short: the members of a record stand
between commas.  As a TypeScript type it may take several lines: each member of a record stands on
one of its own and is ended by a semicolon.

Apart from that the two texts are the same, token by token.  To compare them, the short text is read
with each member of a record ended: a comma is read as a semicolon, and a semicolon is read before
each closing brace that does not follow its opening brace at once.  Commas and braces inside string
literals are parts of tokens, so reading them this way does not touch them.

A name that is no identifier is written as it is in the one text and made an identifier in the
other, so the names that an expression refers to have to be identifiers.
-/

namespace TypedRouter.TypeScript

open Text

/-- Tokens in which the members of records stand between commas, read with each member ended by a
semicolon.  The flag says whether an opening brace was read just before. -/
def endMembers : Bool → List Token → List Token
  | _, [] => []
  | opened, t :: rest =>
    if t = .mark ',' then .mark ';' :: endMembers false rest
    else if t = .mark '\x7d' ∧ opened = false then .mark ';' :: t :: endMembers false rest
    else t :: endMembers (decide (t = .mark '\x7b')) rest

/-- The tokens of a text on one line, with each member of a record ended by a semicolon. -/
def readDisplay (cs : List Char) : List Token := endMembers false (readText cs)

/-! ## Tokens that are read as they are -/

/-- A token that has no part in the form of a record. -/
def Token.IsPlain (t : Token) : Prop := t ∉ [.mark ',', .mark '\x7b', .mark '\x7d']

/-- The token of a run of word characters is plain. -/
lemma isPlain_ofRun (cs : List Char) : (Token.ofRun cs).IsPlain := by
  unfold Token.ofRun
  split
  · simp [Token.IsPlain]
  · simp [Token.IsPlain]

/-- So is that of a key. -/
lemma isPlain_keyToken (name : String) : (keyToken name).IsPlain := by
  unfold keyToken
  split
  · exact isPlain_ofRun _
  · simp [Token.IsPlain]

/-- So is that of a literal. -/
lemma isPlain_valueToken (value : Literal) : (valueToken value).IsPlain := by
  cases value with
  | string s => simp [valueToken, Token.IsPlain]
  | number n => exact isPlain_ofRun _
  | bool b => exact isPlain_ofRun _

/-- A plain token stays where it is. -/
@[simp] lemma endMembers_cons {t : Token} (h : t.IsPlain) (opened : Bool) (rest : List Token) :
    endMembers opened (t :: rest) = t :: endMembers false rest := by
  simp only [Token.IsPlain, List.mem_cons, List.not_mem_nil, or_false, not_or] at h
  simp [endMembers, h]

/-- So do several. -/
@[simp] lemma endMembers_append {ts : List Token} (h : ∀ t ∈ ts, t.IsPlain) (rest : List Token) :
    endMembers false (ts ++ rest) = ts ++ endMembers false rest := by
  induction ts with
  | nil => rfl
  | cons t ts ih =>
    rw [List.cons_append, endMembers_cons (h t List.mem_cons_self),
      ih fun u hu => h u (List.mem_cons_of_mem _ hu), List.cons_append]

section Plain

variable {cs : List Char} {ts : List Token}

/-- Plain tokens are read by the reader of displayed types as they are by the other one. -/
lemma HasTokens.display (h : HasTokens readText cs ts) (plain : ∀ t ∈ ts, t.IsPlain) :
    HasTokens readDisplay cs ts := by
  intro rest hrest
  rw [readDisplay, h rest hrest, endMembers_append plain, readDisplay]

/-- The same, whatever follows them. -/
lemma HasClosedTokens.display (h : HasClosedTokens readText cs ts)
    (plain : ∀ t ∈ ts, t.IsPlain) : HasClosedTokens readDisplay cs ts := by
  intro rest
  rw [readDisplay, h rest, endMembers_append plain, readDisplay]

/-- An identifier is read as one word. -/
lemma hasTokens_display_word {word : String} (h : Identifier.isIdentifier word = true) :
    HasTokens readDisplay word.toList [.ofRun word.toList] :=
  (hasTokens_identifier h).display (by simpa using isPlain_ofRun _)

end Plain

/-! ## Records -/

/-- The comma between two properties is read as the end of a member. -/
lemma hasClosedTokens_comma : HasClosedTokens readDisplay [',', ' '] [.mark ';'] := by
  have hcomma : HasClosedTokens readText [',', ' '] [.mark ','] :=
    hasClosedTokens_delimiters (by decide)
  intro rest
  rw [readDisplay, hcomma rest]
  rfl

/-- The brace after the last property is read as the end of a member and of the object. -/
lemma hasClosedTokens_closing :
    HasClosedTokens readDisplay [' ', '\x7d'] [.mark ';', .mark '\x7d'] := by
  have hclose : HasClosedTokens readText [' ', '\x7d'] [.mark '\x7d'] :=
    hasClosedTokens_delimiters (by decide)
  intro rest
  rw [readDisplay, hclose rest]
  rfl

/-- Nothing is ended in a record without members. -/
lemma hasClosedTokens_empty :
    HasClosedTokens readDisplay ['\x7b', '\x7d'] [.mark '\x7b', .mark '\x7d'] := by
  have hempty : HasClosedTokens readText ['\x7b', '\x7d'] [.mark '\x7b', .mark '\x7d'] :=
    hasClosedTokens_delimiters (by decide)
  intro rest
  rw [readDisplay, hempty rest]
  rfl

/-- An opening brace that a name follows is read on its own. -/
lemma readDisplay_opening (name : String) {rest : List Char} (hrest : Stops rest) :
    readDisplay (['\x7b', ' '] ++ (keyChars name ++ rest)) =
      .mark '\x7b' :: readDisplay (keyChars name ++ rest) := by
  have hopen : HasClosedTokens readText ['\x7b', ' '] [.mark '\x7b'] :=
    hasClosedTokens_delimiters (by decide)
  have hkey := isPlain_keyToken name
  -- the key after the brace is passed over in the same way whether a brace was read before or not
  rw [readDisplay, readDisplay, hopen, hasTokens_keyChars name rest hrest, List.singleton_append,
    List.singleton_append, endMembers_cons hkey]
  have hbrace : endMembers false (.mark '\x7b' :: keyToken name :: readText rest) =
      .mark '\x7b' :: endMembers true (keyToken name :: readText rest) := rfl
  rw [hbrace, endMembers_cons hkey]

/-- A property has the tokens of the member that stands for it. -/
lemma hasTokens_property {p : Property TypeExpr}
    (h : HasTokens readDisplay p.type.chars (Ty.ofExpr p.type).tokens) :
    HasTokens readDisplay (TypeExpr.propertyChars p) (Ty.memberTokens (Ty.ofProperty p)) := by
  obtain ⟨name, mayLack, t⟩ := p
  have hplain : ∀ u ∈ keyToken name :: propertyMarks mayLack, u.IsPlain := by
    have hmarks : ∀ b : Bool, ∀ u ∈ propertyMarks b, u.IsPlain := by
      simp [propertyMarks, Token.IsPlain]
    intro u hu
    rcases List.mem_cons.mp hu with rfl | hu
    · exact isPlain_keyToken name
    · exact hmarks mayLack u hu
  exact ((hasClosedTokens_propertyLead name mayLack).display hplain).append_open h

/-- Items that are each ended by one thing have it between them and at the end. -/
lemma flatMap_append_singleton {α β : Type} (f : α → List β) (b : β) (x : α)
    (xs : List α) :
    ((x :: xs).flatMap fun y => f y ++ [b]) = List.intercalate [b] ((x :: xs).map f) ++ [b] := by
  rw [intercalate_map_cons]
  induction xs generalizing x with
  | nil => simp
  | cons y ys ih => rw [List.flatMap_cons, ih y]; simp

end TypedRouter.TypeScript

namespace TypedRouter.TypeExpr

/-- Each member of a union but the first has a bar before it. -/
@[simp] lemma moreMemberChars_eq_flatMap (ts : List TypeExpr) :
    moreMemberChars ts = ts.flatMap fun t => [' ', '|', ' '] ++ t.chars := by
  induction ts with
  | nil => rfl
  | cons t ts ih => rw [moreMemberChars, ih]; rfl

/-- Each property of a record but the first has a comma before it. -/
@[simp] lemma morePropertyChars_eq_flatMap (ps : List (Property TypeExpr)) :
    morePropertyChars ps = ps.flatMap fun p => [',', ' '] ++ propertyChars p := by
  induction ps with
  | nil => rfl
  | cons p ps ih => rw [morePropertyChars, ih]; rfl

/-- The members of a union have bars between them. -/
lemma chars_union (ts : List TypeExpr) :
    (union ts).chars = List.intercalate [' ', '|', ' '] (ts.map chars) := by
  cases ts with
  | nil => rfl
  | cons t ts =>
    have hchars : (union (t :: ts)).chars = t.chars ++ moreMemberChars ts := rfl
    rw [hchars, moreMemberChars_eq_flatMap, TypeScript.intercalate_map_cons]

/-- The properties of a record have commas between them. -/
lemma chars_record_cons (p : Property TypeExpr) (ps : List (Property TypeExpr)) :
    (record (p :: ps)).chars = ['\x7b', ' '] ++
      (List.intercalate [',', ' '] ((p :: ps).map propertyChars) ++ [' ', '\x7d']) := by
  have hchars : (record (p :: ps)).chars =
      '\x7b' :: ' ' :: propertyChars p ++ morePropertyChars ps ++ [' ', '\x7d'] := rfl
  rw [hchars, morePropertyChars_eq_flatMap, TypeScript.intercalate_map_cons]
  simp

end TypedRouter.TypeExpr

namespace TypedRouter.TypeScript

open Text

/-- An opening brace that some properties follow is read on its own. -/
lemma readDisplay_opening_properties (p : Property TypeExpr) (ps : List (Property TypeExpr))
    (rest : List Char) :
    let members := List.intercalate [',', ' '] ((p :: ps).map TypeExpr.propertyChars)
    readDisplay (['\x7b', ' '] ++ (members ++ rest)) =
      .mark '\x7b' :: readDisplay (members ++ rest) := by
  intro members
  obtain ⟨name, mayLack, t⟩ := p
  have hstops (cs : List Char) :
      Stops ((if mayLack then ['?', ':', ' '] else [':', ' ']) ++ cs) := by
    cases mayLack
    · exact stops_of_mem_delimiters (by decide) _
    · exact stops_of_mem_delimiters (by decide) _
  have hchars : TypeExpr.propertyChars ⟨name, mayLack, t⟩ =
      keyChars name ++ (if mayLack then ['?', ':', ' '] else [':', ' ']) ++ t.chars := rfl
  simp only [members, intercalate_map_cons, hchars, List.append_assoc]
  exact readDisplay_opening name (hstops _)

/-- The text of a record on one line has the tokens of the object type. -/
lemma hasTokens_record {ps : List (Property TypeExpr)}
    (h : ∀ p ∈ ps, HasTokens readDisplay p.type.chars (Ty.ofExpr p.type).tokens) :
    HasTokens readDisplay (TypeExpr.record ps).chars (Ty.ofExpr (.record ps)).tokens := by
  cases ps with
  | nil => exact hasClosedTokens_empty.hasTokens
  | cons p ps =>
    have hmembers := (hasTokens_intercalate (by decide) hasClosedTokens_comma
      fun q hq => hasTokens_property (h q hq)).close (by decide) hasClosedTokens_closing
    rw [Ty.ofExpr_record, Ty.tokens_object, List.flatMap_map, flatMap_append_singleton,
      TypeExpr.chars_record_cons]
    intro rest _
    rw [List.append_assoc, List.append_assoc, readDisplay_opening_properties, ← List.append_assoc,
      hmembers rest]
    simp

/-- The text of a type expression on one line has the tokens of its type. -/
lemma hasTokens_display {t : TypeExpr}
    (identifiers : ∀ name, t.RefersTo name → Identifier.isIdentifier name = true) :
    HasTokens readDisplay t.chars (Ty.ofExpr t).tokens := by
  induction t using TypeExpr.induction with
  | step t ihProperty ihMember =>
    cases t with
    | literal value =>
      exact (hasTokens_literal value).display (by simpa using isPlain_valueToken value)
    | record ps =>
      exact hasTokens_record fun p hp => ihProperty ps rfl p hp fun name hname =>
        identifiers name (.property hp hname)
    | union ts =>
      have hmark : HasClosedTokens readText [' ', '|', ' '] [.mark '|'] :=
        hasClosedTokens_delimiters (by decide)
      have hbar : HasClosedTokens readDisplay [' ', '|', ' '] [.mark '|'] :=
        hmark.display (by simp [Token.IsPlain])
      rw [TypeExpr.chars_union, Ty.ofExpr_union, Ty.tokens_union, List.map_map]
      exact hasTokens_intercalate (by decide) hbar fun t ht => ihMember ts rfl t ht
        fun name hname => identifiers name (.member ht hname)
    | ref name =>
      have hname := identifiers name .refl
      rw [Ty.ofExpr, Ty.tokens, Ty.nameChars_of_isIdentifier hname]
      exact hasTokens_display_word hname
    | _ => exact hasTokens_display_word (by decide +kernel)

/-- The text of a type and the text on one line have the same tokens, if the members of records are
ended by semicolons in both. -/
theorem readText_ofExpr_eq_readDisplay (t : TypeExpr) (indent : ℕ)
    (identifiers : ∀ name, t.RefersTo name → Identifier.isIdentifier name = true) :
    readText ((Ty.ofExpr t).chars indent) = readDisplay t.chars := by
  have htype := Ty.hasTokens_chars (Ty.printable_ofExpr t) indent
  rw [htype.read_eq rfl, (hasTokens_display identifiers).read_eq rfl]

/-- The name of a member holds a comma and braces, and so does a literal. -/
theorem readText_eq_readDisplay_of_nested :
    let t : TypeExpr := .record
      [⟨"a, \x7bb\x7d", true, .union [.ref "Pet", .literal (.string "it's, \x7d")]⟩,
        ⟨"none", false, .record []⟩]
    (∀ name, t.RefersTo name → Identifier.isIdentifier name = true) ∧
      readText ((Ty.ofExpr t).chars 0) = readDisplay t.chars := by
  intro t
  have hidentifiers (name : String) (h : t.RefersTo name) :
      Identifier.isIdentifier name = true := by
    change (TypeExpr.record _).RefersTo name at h
    cases h with
    | property mem part =>
      rcases List.mem_pair.mp mem with rfl | rfl
      · cases part with
        | member mem part =>
          rcases List.mem_pair.mp mem with rfl | rfl
          · cases part
            decide +kernel
          · cases part
      · cases part with
        | property mem part => cases mem
  exact ⟨hidentifiers, readText_ofExpr_eq_readDisplay t 0 hidentifiers⟩

end TypedRouter.TypeScript
