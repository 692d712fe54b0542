import TypedRouter.Proofs.TypeScript.Router
import TypedRouter.TypeScript.Module

/-!
# Comments of a module

Descriptions are text from outside, and they stand in the comments of a module.  Nothing of them
gets out of the comments.

A reader that passes over comments goes through a module in code, in string literals and in
comments, and keeps everything but the comments.  The code of an alias has a slash or a quotation
mark only inside its string literals, so it is kept as it is.  The comment before it holds its
description with a backslash inside each mark that would end the comment, and neither this nor what
stands around it makes another mark, so the reader leaves the comment where it was meant to end.
Without its comments, then, a module is the code of its aliases, and the code does not depend on any
description.
-/

namespace TypedRouter.TypeScript

open Router Text

/-! ## Reading without comments -/

/-- Where a reader of a module stands. -/
inductive Place where
  | code
  | literal
  | comment

/-- A text without its comments, each of them gone together with one space after it. -/
def withoutComments : Place → List Char → List Char
  | .code, '/' :: '*' :: rest => withoutComments .comment rest
  | .code, c :: rest => c :: withoutComments (if c = Quoted.mark then .literal else .code) rest
  | .literal, '\\' :: c :: rest => '\\' :: c :: withoutComments .literal rest
  | .literal, c :: rest => c :: withoutComments (if c = Quoted.mark then .code else .literal) rest
  | .comment, '*' :: '/' :: ' ' :: rest => withoutComments .code rest
  | .comment, '*' :: '/' :: rest => withoutComments .code rest
  | .comment, _ :: rest => withoutComments .comment rest
  | _, [] => []

/-- A text that is code: it has no comments, and its string literals are closed. -/
def IsCode (cs : List Char) : Prop :=
  ∀ rest, withoutComments .code (cs ++ rest) = cs ++ withoutComments .code rest

/-- In code a character that is no slash stays, and a quotation mark opens a literal. -/
@[simp] lemma withoutComments_cons {c : Char} (h : c ≠ '/') (rest : List Char) :
    withoutComments .code (c :: rest) =
      c :: withoutComments (if c = Quoted.mark then .literal else .code) rest := by
  rw [withoutComments]
  rintro _ rfl
  exact absurd rfl h

/-- In a literal a character that is no backslash stays, and a quotation mark closes it. -/
@[simp] lemma withoutComments_literal_cons {c : Char} (h : c ≠ '\\') (rest : List Char) :
    withoutComments .literal (c :: rest) =
      c :: withoutComments (if c = Quoted.mark then .code else .literal) rest := by
  rw [withoutComments]
  rintro _ _ rfl
  exact absurd rfl h

/-! ## Code -/

/-- Nothing is code. -/
@[simp] lemma isCode_nil : IsCode [] := fun _ => rfl

/-- Code that follows code is code. -/
lemma IsCode.append {cs ds : List Char} (hcs : IsCode cs) (hds : IsCode ds) :
    IsCode (cs ++ ds) := by
  intro rest
  rw [List.append_assoc, hcs, hds, List.append_assoc]

/-- Pieces of code make code. -/
lemma isCode_flatMap {α : Type} {f : α → List Char} {xs : List α} (h : ∀ x ∈ xs, IsCode (f x)) :
    IsCode (xs.flatMap f) := by
  induction xs with
  | nil => exact isCode_nil
  | cons x xs ih =>
    rw [List.flatMap_cons]
    exact (h x List.mem_cons_self).append (ih fun y hy => h y (List.mem_cons_of_mem _ hy))

/-- Code with separators between is code. -/
lemma isCode_intercalate {α : Type} {f : α → List Char} {sep : List Char} {xs : List α}
    (hsep : IsCode sep) (h : ∀ x ∈ xs, IsCode (f x)) :
    IsCode (List.intercalate sep (xs.map f)) := by
  cases xs with
  | nil => exact isCode_nil
  | cons x xs =>
    rw [intercalate_map_cons]
    exact (h x List.mem_cons_self).append
      (isCode_flatMap fun y hy => hsep.append (h y (List.mem_cons_of_mem _ hy)))

/-- A text without slashes and quotation marks is code. -/
lemma isCode_of_all {cs : List Char} (h : cs.all (fun c => c != '/' && c != Quoted.mark) = true) :
    IsCode cs := by
  intro rest
  induction cs with
  | nil => rfl
  | cons c cs ih =>
    simp only [List.all_cons, Bool.and_eq_true, bne_iff_ne] at h
    obtain ⟨⟨hslash, hmark⟩, hcs⟩ := h
    rw [List.cons_append, withoutComments_cons hslash, if_neg hmark, ih hcs, List.cons_append]

/-- A word is code. -/
lemma isCode_of_isWord {cs : List Char} (h : cs.all isWordChar = true) : IsCode cs := by
  have hslash : isWordChar '/' = false := by decide +kernel
  have hmark : isWordChar Quoted.mark = false := by decide +kernel
  refine isCode_of_all (List.all_eq_true.mpr fun c hc => ?_)
  have hword := List.all_eq_true.mp h c hc
  have hne : c ≠ '/' ∧ c ≠ Quoted.mark := by
    constructor
    · rintro rfl
      rw [hslash] at hword
      cases hword
    · rintro rfl
      rw [hmark] at hword
      cases hword
  simpa using hne

/-- A name is code. -/
lemma isCode_nameChars (name : String) : IsCode (nameChars name) :=
  isCode_of_isWord
    (all_isWordChar_of_isIdentifierChars (Identifier.isIdentifierChars_sanitizeChars name.toList))

/-- A string literal is code, whatever its value. -/
lemma isCode_encode (cs : List Char) : IsCode (Quoted.encode cs) := by
  have hbody (rest : List Char) :
      withoutComments .literal (Quoted.escape cs ++ Quoted.mark :: rest) =
        Quoted.escape cs ++ Quoted.mark :: withoutComments .code rest := by
    induction cs with
    | nil =>
      rw [Quoted.escape_nil, List.nil_append, List.nil_append,
        withoutComments_literal_cons (by decide), if_pos rfl]
    | cons c cs ih =>
      by_cases hc : c = '\\' ∨ c = Quoted.mark
      · rw [Quoted.escape_cons_of_special hc, List.cons_append, List.cons_append, withoutComments,
          ih]
        rfl
      · obtain ⟨hslash, hmark⟩ := not_or.mp hc
        rw [Quoted.escape_cons_of_plain hc, List.cons_append, withoutComments_literal_cons hslash,
          if_neg hmark, ih]
        rfl
  intro rest
  rw [Quoted.encode, List.cons_append, List.append_assoc,
    withoutComments_cons (by decide : Quoted.mark ≠ '/'), if_pos rfl, List.singleton_append, hbody]
  simp

/-! ## The code of types -/

/-- So is a key. -/
lemma isCode_keyChars (name : String) : IsCode (keyChars name) := by
  unfold keyChars
  split
  · next h => exact isCode_of_isWord (all_isWordChar_of_isIdentifierChars h)
  · exact isCode_encode _

/-- So is what leads a property. -/
lemma isCode_propertyLead (name : String) (mayLack : Bool) :
    IsCode (propertyLead name mayLack) := by
  refine (isCode_keyChars name).append ?_
  cases mayLack
  · exact isCode_of_all (by decide)
  · exact isCode_of_all (by decide)

/-- So is what leads an index. -/
lemma isCode_indexLead (label : String) : IsCode (indexLead label) := by
  have hopen : IsCode ['['] := isCode_of_all (by decide)
  exact hopen.append ((isCode_nameChars label).append (isCode_of_all (by decide)))

/-- So is a margin. -/
lemma isCode_margin (indent : ℕ) : IsCode (margin indent) := by
  refine isCode_of_all (List.all_eq_true.mpr fun c hc => ?_)
  rw [List.eq_of_mem_replicate hc]
  decide

/-- So is a literal, although there can be slashes in it. -/
lemma isCode_literal (value : Literal) : IsCode value.chars := by
  cases value with
  | string s => exact isCode_encode _
  | number n => exact isCode_of_isWord (all_isWordChar_number n)
  | bool b =>
    cases b
    · exact isCode_of_all (by decide)
    · exact isCode_of_all (by decide)

namespace Ty

variable {indent : ℕ}

/-- So is a keyword. -/
lemma isCode_keyword {word : String} (h : word ∈ keywords) :
    IsCode ((keyword word).chars indent) := by
  have hplain : ∀ w ∈ keywords, w.toList.all (fun c => c != '/' && c != Quoted.mark) = true := by
    decide
  exact isCode_of_all (hplain word h)

/-- A name with arguments that are code is code. -/
lemma isCode_named (name : String) {args : List Ty} (h : ∀ t ∈ args, IsCode (t.chars indent)) :
    IsCode ((named name args).chars indent) := by
  have hargs : IsCode (argumentChars (args.map (chars indent))) := by
    cases args with
    | nil => exact isCode_nil
    | cons arg args =>
      have hopen : IsCode ['<'] := isCode_of_all (by decide)
      have hclose : IsCode ['>'] := isCode_of_all (by decide)
      exact hopen.append ((isCode_intercalate (isCode_of_all (by decide)) h).append hclose)
  rw [chars_named]
  exact (isCode_nameChars name).append hargs

/-- A member is code if its type is. -/
lemma isCode_memberChars {m : Member Ty} (h : IsCode (m.type.chars indent)) :
    IsCode (memberChars indent m) := by
  cases m with
  | property name mayLack t => exact (isCode_propertyLead name mayLack).append h
  | indexed label t => exact (isCode_indexLead label).append h

/-- An object is code if the types of its members are. -/
lemma isCode_object {members : List (Member Ty)}
    (h : ∀ m ∈ members, IsCode (m.type.chars (indent + 2))) :
    IsCode ((object members).chars indent) := by
  have hopen : IsCode ['\x7b', '\n'] := isCode_of_all (by decide)
  have hclose : IsCode ['\x7d'] := isCode_of_all (by decide)
  have hend : IsCode [';', '\n'] := isCode_of_all (by decide)
  rw [chars_object]
  refine hopen.append
    ((isCode_flatMap fun m hm => ?_).append ((isCode_margin indent).append hclose))
  exact (isCode_margin _).append ((isCode_memberChars (h m hm)).append hend)

/-- The type of a type expression is code. -/
lemma isCode_ofExpr (t : TypeExpr) : IsCode ((ofExpr t).chars indent) := by
  induction t using TypeExpr.induction generalizing indent with
  | step t ihProperty ihMember =>
    cases t with
    | literal value => exact isCode_literal value
    | record ps =>
      rw [ofExpr_record]
      refine isCode_object fun m hm => ?_
      obtain ⟨⟨name, mayLack, t⟩, hp, rfl⟩ := List.mem_map.mp hm
      exact ihProperty ps rfl _ hp
    | union ts =>
      rw [ofExpr_union, chars_union, List.map_map]
      exact isCode_intercalate (isCode_of_all (by decide)) fun t ht => ihMember ts rfl t ht
    | ref name => exact isCode_named name fun _ h => by cases h
    | _ => exact isCode_keyword (by decide)

end Ty

/-- A router is code if the types of its members are. -/
lemma isCode_routerOf {indent : ℕ} {members : List (Member Ty)}
    (h : ∀ m ∈ members, IsCode (m.type.chars (indent + 2))) :
    IsCode ((routerOf members).chars indent) := by
  refine Ty.isCode_named _ fun t ht => ?_
  rcases List.mem_pair.mp ht with rfl | rfl
  · exact Ty.isCode_named _ fun _ h => by cases h
  · exact Ty.isCode_object h

/-- The type of a procedure is code. -/
lemma isCode_procedureType {indent : ℕ} (p : Procedure) :
    IsCode ((procedureType p).chars indent) := by
  refine Ty.isCode_named _ fun t ht => ?_
  rcases List.mem_pair.mp ht with rfl | rfl
  · exact Ty.isCode_ofExpr _
  · exact Ty.isCode_ofExpr _

/-- The type of a record is code. -/
lemma isCode_routerType (r : Record) (indent : ℕ) : IsCode ((routerType r).chars indent) := by
  induction r using Record.induction generalizing indent with
  | step r ih =>
    rw [routerType_eq]
    refine isCode_routerOf fun m hm => ?_
    obtain ⟨e, he, rfl⟩ := List.mem_map.mp hm
    cases e with
    | procedure p => exact isCode_procedureType p
    | branch key records =>
      rw [entryMember_branch, branchMember_type, chars_branchType, List.map_map]
      exact isCode_intercalate (isCode_of_all (by decide)) fun s hs => ih key records he s hs _

/-- The text of an alias without its comment. -/
def Alias.code (a : Alias) : List Char :=
  "export type ".toList ++
    (nameChars a.name ++ (" = ".toList ++ (a.type.chars 0 ++ [';', '\n'])))

/-- An alias is its comment and then its code. -/
@[simp] lemma Alias.chars_eq (a : Alias) : a.chars = commentChars a.description ++ a.code := rfl

/-- The code of an alias is code if its type is. -/
lemma isCode_alias (name : String) {t : Ty} (description : Option String)
    (h : IsCode (t.chars 0)) : IsCode (Alias.code ⟨name, t, description⟩) := by
  have hexport : IsCode "export type ".toList := isCode_of_all (by decide)
  have hequals : IsCode " = ".toList := isCode_of_all (by decide)
  have hend : IsCode [';', '\n'] := isCode_of_all (by decide)
  exact hexport.append ((isCode_nameChars name).append (hequals.append (h.append hend)))

/-! ## Comments -/

/-- A text in which a mark is replaced, from left to right, wherever it occurs. -/
inductive Replaced (mark new : List Char) : List Char → List Char → Prop
  | nil : Replaced mark new [] []
  | mark {cs ds : List Char} (rest : Replaced mark new cs ds) :
      Replaced mark new (mark ++ cs) (new ++ ds)
  | other {c : Char} {cs ds : List Char} (free : ¬ mark <+: c :: cs)
      (rest : Replaced mark new cs ds) : Replaced mark new (c :: cs) (c :: ds)

/-- The mark that ends a comment. -/
def commentEnd : List Char := ['*', '/']

/-- In a comment each end of a comment is replaced. -/
lemma replaced_withoutCommentEnd (cs : List Char) :
    Replaced commentEnd ['*', '\\', '/'] cs (withoutCommentEnd cs) := by
  fun_induction withoutCommentEnd cs with
  | case1 => exact .nil
  | case2 c => exact .other (by simp [commentEnd]) .nil
  | case3 c d rest h ih =>
    obtain ⟨rfl, rfl⟩ := h
    exact .mark ih
  | case4 c d rest h ih =>
    refine .other (fun hmark => h ?_) ih
    obtain ⟨after, hafter⟩ := hmark
    cases hafter
    exact ⟨rfl, rfl⟩

/-- The first character is not replaced. -/
lemma head?_withoutCommentEnd (c : Char) (cs : List Char) :
    (withoutCommentEnd (c :: cs)).head? = some c := by
  cases cs with
  | nil => rfl
  | cons d rest =>
    rw [withoutCommentEnd]
    split
    · next h => rw [h.1, List.head?_cons]
    · rfl

/-- A text whose marks are replaced has no mark. -/
lemma not_infix_withoutCommentEnd (cs : List Char) : ¬ commentEnd <:+: withoutCommentEnd cs := by
  fun_induction withoutCommentEnd cs with
  | case1 => simp [commentEnd]
  | case2 c => simp [commentEnd, List.infix_cons_iff]
  | case3 c d rest h ih => simpa [commentEnd, List.infix_cons_iff] using ih
  | case4 c d rest h ih =>
    rw [List.infix_cons_iff, not_or]
    refine ⟨?_, ih⟩
    -- the text goes on with `d`, so a mark here would be one of the text itself
    rintro ⟨after, hafter⟩
    obtain ⟨rfl, hslash⟩ := List.cons_eq_cons.mp hafter
    have hhead := head?_withoutCommentEnd d rest
    rw [← hslash] at hhead
    exact h ⟨rfl, (Option.some.inj hhead).symm⟩

/-- A blank after a text is no part of a mark. -/
lemma not_infix_append_space {cs : List Char} (h : ¬ commentEnd <:+: cs) :
    ¬ commentEnd <:+: cs ++ [' '] := by
  induction cs with
  | nil => simp [commentEnd, List.infix_cons_iff]
  | cons c cs ih =>
    rw [List.infix_cons_iff, not_or] at h
    rw [List.cons_append, List.infix_cons_iff, not_or]
    refine ⟨?_, ih h.2⟩
    rintro ⟨after, hafter⟩
    obtain ⟨rfl, hslash⟩ := List.cons_eq_cons.mp hafter
    cases cs with
    | nil => exact absurd (List.cons_eq_cons.mp hslash).1 (by decide)
    | cons d cs =>
      obtain ⟨rfl, -⟩ := List.cons_eq_cons.mp hslash
      exact h.1 ⟨cs, rfl⟩

/-- What leads an alias with a description: nothing if the description is absent or blank, and
otherwise one comment.  It holds the trimmed description, with the marks replaced, and ends at the
first mark inside. -/
inductive Leads : Option String → List Char → Prop
  | absent : Leads none []
  | blank {description : String} (blank : trim description.toList = []) :
      Leads (some description) []
  | comment {description : String} {cs : List Char} (text : trim description.toList ≠ [])
      (replaced : Replaced commentEnd ['*', '\\', '/'] (trim description.toList) cs)
      (closed : ¬ commentEnd <:+: '*' :: ' ' :: (cs ++ [' '])) :
      Leads (some description) ('/' :: '*' :: ('*' :: ' ' :: (cs ++ [' '])) ++ commentEnd ++ [' '])

/-- The comment of an alias leads its code. -/
lemma leads_commentChars (description : Option String) :
    Leads description (commentChars description) := by
  cases description with
  | none => exact .absent
  | some description =>
    by_cases htext : trim description.toList = []
    · rw [commentChars, htext]
      exact .blank htext
    · have hcomment : commentChars (some description) = '/' :: '*' :: ('*' :: ' ' ::
          (withoutCommentEnd (trim description.toList) ++ [' '])) ++ commentEnd ++ [' '] := by
        rw [commentChars]
        split
        · next h => exact absurd h htext
        · simp [commentEnd]
      have hclosed : ¬ commentEnd <:+:
          '*' :: ' ' :: (withoutCommentEnd (trim description.toList) ++ [' ']) := by
        have htext := not_infix_append_space
          (not_infix_withoutCommentEnd (trim description.toList))
        simpa [commentEnd, List.infix_cons_iff] using htext
      rw [hcomment]
      exact .comment htext (replaced_withoutCommentEnd _) hclosed

/-- A reader leaves a comment at its first end, and passes over the space after it. -/
lemma withoutComments_comment {cs : List Char} (h : ¬ commentEnd <:+: cs) (rest : List Char) :
    withoutComments .comment (cs ++ commentEnd ++ [' '] ++ rest) = withoutComments .code rest := by
  induction cs with
  | nil => rfl
  | cons c cs ih =>
    rw [List.infix_cons_iff, not_or] at h
    obtain ⟨hstart, hcs⟩ := h
    -- the star of an end would have to be `c`, but no slash follows it
    have hnext : ∀ after, c = '*' → cs ++ commentEnd ++ [' '] ++ rest ≠ '/' :: after := by
      rintro after rfl hafter
      cases cs with
      | nil => exact absurd (List.cons_eq_cons.mp hafter).1 (by decide)
      | cons d cs =>
        obtain ⟨rfl, -⟩ := List.cons_eq_cons.mp hafter
        exact hstart ⟨cs, rfl⟩
    rw [List.cons_append, List.cons_append, List.cons_append, withoutComments, ih hcs]
    · exact fun after => hnext (' ' :: after)
    · exact hnext

/-- A reader passes over what leads an alias. -/
lemma Leads.withoutComments {description : Option String} {lead : List Char}
    (h : Leads description lead) (rest : List Char) :
    withoutComments .code (lead ++ rest) = withoutComments .code rest := by
  cases h with
  | absent => rfl
  | blank => rfl
  | comment text replaced closed => exact withoutComments_comment closed rest

/-! ## The text of a module -/

namespace Module

/-- A reader keeps the code of aliases, and nothing else. -/
lemma withoutComments_bodyChars {as : List Alias} (h : ∀ a ∈ as, IsCode a.code) :
    withoutComments .code (bodyChars as) = as.flatMap Alias.code := by
  induction as with
  | nil => rfl
  | cons a as ih =>
    have hlead := leads_commentChars a.description
    rw [bodyChars, List.flatMap_cons, List.flatMap_cons, Alias.chars_eq, List.append_assoc,
      hlead.withoutComments, h a List.mem_cons_self, ← bodyChars,
      ih fun b hb => h b (List.mem_cons_of_mem _ hb)]

/-- The code of every alias of a module is code. -/
lemma isCode_of_mem_aliases {spec : Spec} {a : Alias} (h : a ∈ aliases spec) : IsCode a.code := by
  rcases List.mem_append.mp h with hdeclared | hrouter
  · obtain ⟨d, -, rfl⟩ := List.mem_map.mp hdeclared
    exact isCode_alias _ _ (Ty.isCode_ofExpr d.type)
  · obtain rfl := List.mem_singleton.mp hrouter
    exact isCode_alias _ _ (isCode_routerType spec.root 0)

/-- Two specifications that differ at most in the descriptions of their declarations, in what they
say about themselves and in the names that they report as dangling. -/
structure SameUpToDescriptions (a b : Spec) : Prop where
  declarations : a.declarations.map (fun d => (d.name, d.type)) =
    b.declarations.map fun d => (d.name, d.type)
  root : a.root = b.root

/-- The code of the aliases does not depend on descriptions. -/
lemma SameUpToDescriptions.code_eq {a b : Spec} (same : SameUpToDescriptions a b) :
    (aliases a).flatMap Alias.code = (aliases b).flatMap Alias.code := by
  have hcode (spec : Spec) : (aliases spec).flatMap Alias.code =
      (spec.declarations.map fun d => (d.name, d.type)).flatMap
        (fun d => Alias.code ⟨d.1, .ofExpr d.2, none⟩) ++
        Alias.code ⟨routerName, routerType spec.root, none⟩ := by
    rw [aliases, List.flatMap_append, List.flatMap_map, List.flatMap_map, List.flatMap_singleton]
    rfl
  rw [hcode, hcode, same.declarations, same.root]

/-- Whether a name is taken twice does not depend on descriptions. -/
lemma SameUpToDescriptions.names_eq {a b : Spec} (same : SameUpToDescriptions a b) :
    a.declarations.map Declaration.name = b.declarations.map Declaration.name := by
  have hnames := congrArg (List.map Prod.fst) same.declarations
  rwa [List.map_map, List.map_map] at hnames

/-- A module has a body if no two of its names collide. -/
lemma exists_body_iff {spec : Spec} :
    (∃ text, body spec = .ok text) ↔
      firstCollision? [routerName] (spec.declarations.map Declaration.name) = none := by
  unfold body
  split
  · next c hc => simp [hc]
  · next hnone => simp [hnone]

/-- The body of a module is an empty line and then its aliases. -/
lemma toList_of_body {spec : Spec} {text : String} (h : body spec = .ok text) :
    text.toList = '\n' :: bodyChars (aliases spec) := by
  unfold body at h
  split at h
  · cases h
  · cases h
    rw [String.toList_ofList]

/-- A reader that passes over comments keeps the code of the aliases of a module. -/
lemma withoutComments_body {spec : Spec} {text : String} (h : body spec = .ok text) :
    withoutComments .code text.toList = '\n' :: (aliases spec).flatMap Alias.code := by
  rw [toList_of_body h, withoutComments_cons (by decide), if_neg (by decide),
    withoutComments_bodyChars fun _ => isCode_of_mem_aliases]

/-- Descriptions do not get out of the comments.  Of two specifications that differ in descriptions
alone, both have a module or neither has, and without their comments the modules are the same.  A
module is made of its aliases, each of them code without comments that is led by the comment of its
own description, or by nothing. -/
theorem descriptions_stay_in_comments {a b : Spec} (same : SameUpToDescriptions a b) :
    ((∃ text, body a = .ok text) ↔ ∃ text, body b = .ok text) ∧
      (∀ text text', body a = .ok text → body b = .ok text' →
        withoutComments .code text.toList = withoutComments .code text'.toList) ∧
      ∀ text, body a = .ok text →
        ∃ lead : Alias → List Char,
          text.toList = '\n' :: (aliases a).flatMap (fun x => lead x ++ x.code) ∧
            ∀ x ∈ aliases a, Leads x.description (lead x) ∧ IsCode x.code := by
  refine ⟨?_, fun text text' ha hb => ?_, fun text ha => ?_⟩
  · rw [exists_body_iff, exists_body_iff, same.names_eq]
  · rw [withoutComments_body ha, withoutComments_body hb, same.code_eq]
  · refine ⟨fun x => commentChars x.description, toList_of_body ha, fun x hx => ?_⟩
    exact ⟨leads_commentChars x.description, isCode_of_mem_aliases hx⟩

/-- The specification of a pet with marks of comments in its key and in its value. -/
def petSpec (description : Option String) (info : Option OpenApi.Info) : Spec where
  info := info
  declarations :=
    [⟨"Pet", .record [⟨"it\x27s /* a key */", false, .literal (.string "/*")⟩], description⟩]

/-- Descriptions that try to end their comments do not show in the code, and the marks in string
literals do. -/
theorem petSpec_descriptions_stay :
    SameUpToDescriptions (petSpec (some "**// = never; /*") (some { title := "*/" }))
        (petSpec none none) ∧
      ∃ text text', body (petSpec (some "**// = never; /*") (some { title := "*/" })) = .ok text ∧
        body (petSpec none none) = .ok text' ∧
          text.toList ≠ text'.toList ∧ withoutComments .code text.toList = text'.toList := by
  have hsame : SameUpToDescriptions (petSpec (some "**// = never; /*") (some { title := "*/" }))
      (petSpec none none) := ⟨rfl, rfl⟩
  obtain ⟨text', htext'⟩ : ∃ text', body (petSpec none none) = .ok text' :=
    exists_body_iff.mpr (by decide +kernel)
  obtain ⟨hboth, hcode, -⟩ := descriptions_stay_in_comments hsame
  obtain ⟨text, htext⟩ := hboth.mpr ⟨text', htext'⟩
  refine ⟨hsame, text, text', htext, htext', ?_, ?_⟩
  · rw [toList_of_body htext, toList_of_body htext']
    decide +kernel
  · rw [hcode text text' htext htext', toList_of_body htext']
    decide +kernel

end Module

end TypedRouter.TypeScript
