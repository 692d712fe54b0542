import TypedRouter.Proofs.TypeScript.Readable

/-!
# Unique readability of types

The text of a type determines the type.  More than that, it can be told where the text ends: if the
texts of two types are each followed by something that may follow a type, and the two results are
equal, the types are equal and so is what follows them.

The argument goes from the outside to the inside.  A type is a simple type, followed by further ones
if it is a union or an intersection; what follows the first of them tells which.  The word and the
kind of a simple type can be told, and the types inside its back are smaller.  Each of them ends
where the list that it stands in goes on or closes.
-/

namespace TypedRouter.TypeScript

open Text

/-! ## Lists of items -/

section Items

variable {α : Type} {f : α → List Char} {sep : List Char} {ends : List Char → Prop}

/-- What may follow an item of a list: a further item with the separator before it, or what follows
the list. -/
def FollowsItem (sep : List Char) (ends : List Char → Prop) (rest : List Char) : Prop :=
  ends rest ∨ sep <+: rest

/-- What follows a list that these characters close. -/
def ClosedBy (closing rest : List Char) : Prop := closing <+: rest

/-- The closing characters close, whatever follows them. -/
lemma closedBy_append (closing rest : List Char) : ClosedBy closing (closing ++ rest) :=
  List.prefix_append _ _

/-- Further items, and then what follows the list, may follow an item. -/
lemma followsItem_items (items : List α) {rest : List Char} (h : ends rest) :
    FollowsItem sep ends ((items.flatMap fun x => sep ++ f x) ++ rest) := by
  cases items with
  | nil => exact .inl h
  | cons x items =>
    right
    rw [List.flatMap_cons, List.append_assoc, List.append_assoc]
    exact List.prefix_append _ _

/-- Items with a separator before each can be told from the text, if each of them can be told from
what follows it and if nothing that follows the list looks like a further item. -/
lemma items_append_inj (closed : ∀ rest, ends rest → ¬ sep <+: rest) {xs ys : List α}
    (item : ∀ x ∈ xs, ∀ y ∈ ys, ∀ r s, FollowsItem sep ends r → FollowsItem sep ends s →
      f x ++ r = f y ++ s → x = y ∧ r = s)
    {r s : List Char} (hr : ends r) (hs : ends s)
    (h : (xs.flatMap fun x => sep ++ f x) ++ r = (ys.flatMap fun y => sep ++ f y) ++ s) :
    xs = ys ∧ r = s := by
  induction xs generalizing ys with
  | nil =>
    cases ys with
    | nil => exact ⟨rfl, h⟩
    | cons y ys =>
      -- what ends the items would start with a separator
      rw [List.flatMap_nil, List.nil_append, List.flatMap_cons, List.append_assoc,
        List.append_assoc] at h
      exact absurd (h ▸ List.prefix_append _ _) (closed r hr)
  | cons x xs ih =>
    cases ys with
    | nil =>
      rw [List.flatMap_nil, List.nil_append, List.flatMap_cons, List.append_assoc,
        List.append_assoc] at h
      exact absurd (h ▸ List.prefix_append _ _) (closed s hs)
    | cons y ys =>
      rw [List.flatMap_cons, List.flatMap_cons, List.append_assoc, List.append_assoc,
        List.append_assoc, List.append_assoc] at h
      obtain ⟨rfl, hrest⟩ := item x List.mem_cons_self y List.mem_cons_self _ _
        (followsItem_items xs hr) (followsItem_items ys hs) (List.append_cancel_left h)
      obtain ⟨rfl, rfl⟩ := ih (fun x' hx' y' hy' => item x' (List.mem_cons_of_mem _ hx') y'
        (List.mem_cons_of_mem _ hy')) hrest
      exact ⟨rfl, rfl⟩

/-- A list of items with separators between them is its first item and the others with the separator
before each. -/
lemma intercalate_map_cons {β : Type} (sep : List β) (f : α → List β) (x : α) (xs : List α) :
    List.intercalate sep ((x :: xs).map f) = f x ++ xs.flatMap fun y => sep ++ f y := by
  induction xs generalizing x with
  | nil => simp
  | cons y ys ih =>
    rw [List.map_cons, List.map_cons, List.intercalate_cons_cons, ← List.map_cons, ih,
      List.flatMap_cons, List.append_assoc, List.append_assoc]

end Items

namespace Ty

variable {numbers : Set Json.Number} {t u : Ty} {r s : List Char} {indent : ℕ}

/-! ## Legible types -/

/-- A simple type that can be told from its text and what follows it. -/
def Told (numbers : Set Json.Number) (indent : ℕ) (t : Ty) : Prop :=
  ∀ u : Ty, Readable numbers u → u.IsSimple → ∀ r s, EndsSimple r → EndsSimple s →
    t.chars indent ++ r = u.chars indent ++ s → t = u ∧ r = s

/-- A type that can be told from its text and what follows it. -/
def Legible (numbers : Set Json.Number) (indent : ℕ) (t : Ty) : Prop :=
  ∀ u : Ty, Readable numbers u → ∀ r s, Ends r → Ends s →
    t.chars indent ++ r = u.chars indent ++ s → t = u ∧ r = s

/-! ### Unions and intersections -/

/-- The first of the types that a type joins. -/
def first : Ty → Ty
  | .union (t :: _) => t
  | .intersection (t :: _) => t
  | t => t

/-- The types that a type joins after the first. -/
def others : Ty → List Ty
  | .union (_ :: ts) => ts
  | .intersection (_ :: ts) => ts
  | _ => []

/-- What a type joins its members by. -/
def joint : Ty → List Char
  | .intersection _ => [' ', '&', ' ']
  | _ => [' ', '|', ' ']

/-- The type that joins these types. -/
def ofParts (joint : List Char) (first : Ty) (others : List Ty) : Ty :=
  match others with
  | [] => first
  | _ =>
    if joint = [' ', '&', ' '] then .intersection (first :: others)
    else .union (first :: others)

/-- A type is what it joins. -/
lemma Readable.ofParts_eq (h : Readable numbers t) : ofParts t.joint t.first t.others = t := by
  cases h with
  | word word => cases word <;> rfl
  | _ => rfl

/-- The first of the types that a readable type joins is simple. -/
lemma Readable.isSimple_first (h : Readable numbers t) : t.first.IsSimple := by
  cases h with
  | word word => cases word <;> trivial
  | union simple => exact simple _ List.mem_cons_self
  | intersection simple => exact simple _ List.mem_cons_self
  | _ => trivial

/-- It is readable too. -/
lemma Readable.first (h : Readable numbers t) : Readable numbers t.first := by
  cases h with
  | word word => cases word <;> exact .word (by constructor <;> assumption)
  | string value => exact .string value
  | application identifier arguments => exact .application identifier arguments
  | object labels types => exact .object labels types
  | union simple members => exact members _ List.mem_cons_self
  | intersection simple members => exact members _ List.mem_cons_self

/-- So are the others, and simple. -/
lemma Readable.others (h : Readable numbers t) :
    ∀ u ∈ t.others, Readable numbers u ∧ u.IsSimple := by
  cases h with
  | word word => cases word <;> exact fun u hu => by cases hu
  | union simple members =>
    exact fun u hu => ⟨members u (List.mem_cons_of_mem _ hu), simple u (List.mem_cons_of_mem _ hu)⟩
  | intersection simple members =>
    exact fun u hu => ⟨members u (List.mem_cons_of_mem _ hu), simple u (List.mem_cons_of_mem _ hu)⟩
  | _ => exact fun u hu => by cases hu

/-- A type is written as the first of the types that it joins, and then the others with what joins
them before each. -/
lemma Readable.chars_eq (h : Readable numbers t) :
    t.chars indent = t.first.chars indent ++
      t.others.flatMap fun u => t.joint ++ u.chars indent := by
  cases h with
  | word word => cases word <;> exact (List.append_nil _).symm
  | union => rw [chars_union, intercalate_map_cons]; rfl
  | intersection => rw [chars_intersection, intercalate_map_cons]; rfl
  | _ => exact (List.append_nil _).symm

/-- There are two ways to join types. -/
lemma joint_eq (t : Ty) : t.joint = [' ', '|', ' '] ∨ t.joint = [' ', '&', ' '] := by
  cases t <;> first | exact .inl rfl | exact .inr rfl

/-- How types are joined can be told from the text. -/
lemma joint_append_inj (h : t.joint ++ r = u.joint ++ s) : t.joint = u.joint :=
  List.append_inj_left h (by rcases t.joint_eq with ht | ht <;> rcases u.joint_eq with hu | hu <;>
    rw [ht, hu] <;> rfl)

/-- Nothing that may follow a type starts like a further member of it. -/
lemma Ends.not_joint (h : Ends r) (t : Ty) : ¬ t.joint <+: r := by
  rintro ⟨rest, rfl⟩
  have hmem : ' ' ∈ [';', ',', '>'] := h ' ' (by rcases t.joint_eq with ht | ht <;> rw [ht] <;> rfl)
  exact absurd hmem (by decide)

/-- What may follow a member of a type may follow a simple type. -/
lemma endsSimple_of_followsItem (h : FollowsItem t.joint Ends r) : EndsSimple r := by
  rcases h with h | ⟨rest, rfl⟩
  · exact h.endsSimple
  · intro c hc
    obtain rfl : ' ' = c := by rcases t.joint_eq with ht | ht <;> simpa [ht] using hc
    exact List.mem_cons_self

/-- What stands after the first of the types that a type joins shows what it joins them by. -/
lemma others_eq_nil_or_joint_eq (hr : Ends r) (hs : Ends s)
    (h : (t.others.flatMap fun x => t.joint ++ x.chars indent) ++ r =
      (u.others.flatMap fun y => u.joint ++ y.chars indent) ++ s) :
    t.others = [] ∧ u.others = [] ∨ t.joint = u.joint := by
  cases hts : t.others with
  | nil =>
    cases hus : u.others with
    | nil => exact .inl ⟨rfl, rfl⟩
    | cons y ys =>
      rw [hts, hus, List.flatMap_nil, List.nil_append, List.flatMap_cons, List.append_assoc,
        List.append_assoc] at h
      exact absurd (h ▸ List.prefix_append _ _) (hr.not_joint u)
  | cons x xs =>
    cases hus : u.others with
    | nil =>
      rw [hts, hus, List.flatMap_nil, List.nil_append, List.flatMap_cons, List.append_assoc,
        List.append_assoc] at h
      exact absurd (h ▸ List.prefix_append _ _) (hs.not_joint t)
    | cons y ys =>
      rw [hts, hus, List.flatMap_cons, List.flatMap_cons, List.append_assoc, List.append_assoc,
        List.append_assoc, List.append_assoc] at h
      exact .inr (joint_append_inj h)

/-- A type can be told from its text if the simple types that it joins can be. -/
lemma Readable.legible (ht : Readable numbers t)
    (told : ∀ p ∈ t.first :: t.others, Told numbers indent p) : Legible numbers indent t := by
  intro u hu r s hr hs h
  rw [ht.chars_eq, hu.chars_eq, List.append_assoc, List.append_assoc] at h
  obtain ⟨hfirst, hrest⟩ := told t.first List.mem_cons_self u.first hu.first hu.isSimple_first _ _
    (endsSimple_of_followsItem (followsItem_items t.others hr))
    (endsSimple_of_followsItem (followsItem_items u.others hs)) h
  -- a simple type has no joint of its own, so the joints need to agree only if there are others
  rw [← ht.ofParts_eq, ← hu.ofParts_eq, hfirst]
  rcases others_eq_nil_or_joint_eq hr hs hrest with ⟨hts, hus⟩ | hjoint
  · rw [hts, hus] at hrest ⊢
    exact ⟨rfl, hrest⟩
  · rw [← hjoint] at hrest ⊢
    obtain ⟨hothers, hrs⟩ := items_append_inj (fun rest hrest => hrest.not_joint t)
      (fun x hx y hy _ _ hr hs => told x (List.mem_cons_of_mem _ hx) y (hu.others y hy).1
        (hu.others y hy).2 _ _ (endsSimple_of_followsItem hr) (endsSimple_of_followsItem hs))
      hr hs hrest
    rw [hothers]
    exact ⟨rfl, hrs⟩

/-! ### Words and strings -/

/-- A word can be told from its text. -/
lemma IsWord.told (distinct : numbers.InjOn Json.Number.chars) (ht : IsWord numbers t) :
    Told numbers indent t := by
  intro u hu simple r s hr hs h
  obtain ⟨hfront, hback⟩ := front_eq_and_back_eq (.word ht) hu ht.isSimple simple hr hs h
  have hkind : u.kind = .word := (kind_eq_of_back hr hs hback).symm.trans ht.kind_eq
  have hword := hu.isWord simple hkind
  rw [ht.back_eq, hword.back_eq] at hback
  exact ⟨ht.eq_of_front distinct hword hfront, hback⟩

/-- The type of a string can be told from its text. -/
lemma told_string (value : String) : Told numbers indent (.literal (.string value)) := by
  intro u hu simple r s hr hs h
  obtain ⟨-, hback⟩ := front_eq_and_back_eq (.string value) hu trivial simple hr hs h
  obtain ⟨value', rfl⟩ := hu.string_of_kind (kind_eq_of_back hr hs hback).symm
  have hdecode := congrArg Quoted.decode hback
  rw [back, back, Quoted.decode_encode, Quoted.decode_encode, Option.some_inj, Prod.mk.injEq,
    String.toList_inj] at hdecode
  obtain ⟨rfl, rfl⟩ := hdecode
  exact ⟨rfl, rfl⟩

/-! ### Applications -/

/-- The arguments of a name as items of a list. -/
lemma back_application (name : String) (arg : Ty) (args : List Ty) (rest : List Char) :
    (named name (arg :: args)).back indent ++ rest =
      '<' :: (arg.chars indent ++ ((args.flatMap fun a => [',', ' '] ++ a.chars indent) ++
        (['>'] ++ rest))) := by
  rw [back, listChars_eq_map, List.map_cons, argumentChars, ← List.map_cons, intercalate_map_cons,
    List.cons_append, List.append_assoc, List.append_assoc]
  exact List.cons_ne_nil _ _

/-- What may follow an argument may follow a type. -/
lemma ends_of_followsItem (h : FollowsItem [',', ' '] (ClosedBy ['>']) r) : Ends r := by
  rcases h with ⟨rest, rfl⟩ | ⟨rest, rfl⟩
  · rintro c ⟨⟩
    decide
  · rintro c ⟨⟩
    decide

/-- What closes the arguments of a name does not look like a further argument. -/
lemma not_argument_of_closedBy (r : List Char) (h : ClosedBy ['>'] r) : ¬ [',', ' '] <+: r := by
  obtain ⟨a, rfl⟩ := h
  rintro ⟨b, hb⟩
  cases hb

/-- The application of a name can be told from its text if its arguments can be. -/
lemma told_application {name : String} {arg : Ty} {args : List Ty}
    (identifier : Identifier.isIdentifier name = true)
    (arguments : ∀ a ∈ arg :: args, Readable numbers a)
    (legible : ∀ a ∈ arg :: args, Legible numbers indent a) :
    Told numbers indent (.named name (arg :: args)) := by
  intro u hu simple r s hr hs h
  obtain ⟨hfront, hback⟩ :=
    front_eq_and_back_eq (.application identifier arguments) hu trivial simple hr hs h
  obtain ⟨name', arg', args', rfl, identifier', arguments'⟩ :=
    hu.application_of_kind (kind_eq_of_back hr hs hback).symm
  rw [front, front, nameChars_of_isIdentifier identifier, nameChars_of_isIdentifier identifier',
    String.toList_inj] at hfront
  rw [back_application, back_application, List.cons_inj_right] at hback
  have hr' := closedBy_append ['>'] r
  have hs' := closedBy_append ['>'] s
  obtain ⟨rfl, hrest⟩ := legible arg List.mem_cons_self arg' (arguments' _ List.mem_cons_self) _ _
    (ends_of_followsItem (followsItem_items args hr'))
    (ends_of_followsItem (followsItem_items args' hs')) hback
  obtain ⟨rfl, hrs⟩ := items_append_inj not_argument_of_closedBy
    (fun x hx y hy _ _ hr hs => legible x (List.mem_cons_of_mem _ hx) y
      (arguments' y (List.mem_cons_of_mem _ hy)) _ _ (ends_of_followsItem hr)
      (ends_of_followsItem hs)) hr' hs' hrest
  rw [hfront]
  exact ⟨rfl, List.append_cancel_left hrs⟩

/-! ### Objects -/

/-- An identifier does not start with a separator. -/
lemma identifier_append_ne {cs : List Char} {c : Char}
    (h : Identifier.isIdentifierChars cs = true) (hc : c ∈ separators) : cs ++ r ≠ c :: s := by
  cases cs with
  | nil => cases h
  | cons d cs =>
    intro heq
    obtain ⟨rfl, -⟩ := List.cons_eq_cons.mp heq
    have hword := List.all_eq_true.mp (all_isWordChar_of_isIdentifierChars h) d List.mem_cons_self
    rw [isWordChar_of_mem_separators hc] at hword
    cases hword

/-- The name of a property can be told from what stands for it. -/
lemma keyChars_append_inj {key key' : String} (hr : Stops r) (hs : Stops s)
    (h : keyChars key ++ r = keyChars key' ++ s) : key = key' ∧ r = s := by
  have hmark : Quoted.mark ∈ separators := by decide
  unfold keyChars at h
  by_cases hkey : Identifier.isIdentifier key = true
  · by_cases hkey' : Identifier.isIdentifier key' = true
    · rw [if_pos hkey, if_pos hkey'] at h
      obtain ⟨hname, hrs⟩ := word_append_inj (all_isWordChar_of_isIdentifierChars hkey)
        (all_isWordChar_of_isIdentifierChars hkey') hr hs h
      exact ⟨String.toList_inj.mp hname, hrs⟩
    · rw [if_pos hkey, if_neg hkey'] at h
      exact absurd h (identifier_append_ne hkey hmark)
  · by_cases hkey' : Identifier.isIdentifier key' = true
    · rw [if_neg hkey, if_pos hkey'] at h
      exact absurd h.symm (identifier_append_ne hkey' hmark)
    · rw [if_neg hkey, if_neg hkey'] at h
      have hdecode := congrArg Quoted.decode h
      rw [Quoted.decode_encode, Quoted.decode_encode, Option.some_inj, Prod.mk.injEq,
        String.toList_inj] at hdecode
      exact hdecode

/-- The name of a property, and whether the property may lack, can be told from what leads it. -/
lemma propertyLead_append_inj {name name' : String} {mayLack mayLack' : Bool}
    (h : propertyLead name mayLack ++ r = propertyLead name' mayLack' ++ s) :
    name = name' ∧ mayLack = mayLack' ∧ r = s := by
  have hstops (b : Bool) (rest : List Char) :
      Stops ((if b then ['?', ':', ' '] else [':', ' ']) ++ rest) := by
    cases b
    · exact stops_cons (by decide)
    · exact stops_cons (by decide)
  rw [propertyLead, propertyLead, List.append_assoc, List.append_assoc] at h
  obtain ⟨hname, hrest⟩ := keyChars_append_inj (hstops mayLack r) (hstops mayLack' s) h
  cases mayLack with
  | false =>
    cases mayLack' with
    | false => exact ⟨hname, rfl, by simpa using hrest⟩
    | true => simp at hrest
  | true =>
    cases mayLack' with
    | false => simp at hrest
    | true => exact ⟨hname, rfl, by simpa using hrest⟩

/-- The label of an index can be told from what leads it. -/
lemma indexLead_append_inj {label label' : String} (hlabel : Identifier.isIdentifier label = true)
    (hlabel' : Identifier.isIdentifier label' = true)
    (h : indexLead label ++ r = indexLead label' ++ s) : label = label' ∧ r = s := by
  have hcolon : ": string]: ".toList = ':' :: " string]: ".toList := by decide
  rw [indexLead, indexLead, Ty.nameChars_of_isIdentifier hlabel,
    Ty.nameChars_of_isIdentifier hlabel', List.cons_append, List.cons_append, List.cons_inj_right,
    List.append_assoc, List.append_assoc, hcolon, List.cons_append, List.cons_append] at h
  have hstops (rest : List Char) : Stops (':' :: rest) := stops_cons (by decide)
  obtain ⟨hname, hrest⟩ := word_append_inj (all_isWordChar_of_isIdentifierChars hlabel)
    (all_isWordChar_of_isIdentifierChars hlabel') (hstops _) (hstops _) h
  exact ⟨String.toList_inj.mp hname, List.append_cancel_left ((List.cons_inj_right _).mp hrest)⟩

/-- A property cannot be read as any property. -/
lemma propertyLead_append_ne {name label : String} {mayLack : Bool} :
    propertyLead name mayLack ++ r ≠ indexLead label ++ s := by
  rw [propertyLead, keyChars, indexLead, List.append_assoc, List.cons_append]
  split
  · next h => exact identifier_append_ne h (by decide)
  · intro h
    exact absurd (List.cons_eq_cons.mp h).1 (by decide)

/-- A member can be told from its text if its type can be. -/
lemma member_append_inj {m m' : Member Ty}
    (label : ∀ label t, m = .indexed label t → Identifier.isIdentifier label = true)
    (label' : ∀ label t, m' = .indexed label t → Identifier.isIdentifier label = true)
    (legible : Legible numbers indent m.type) (readable' : Readable numbers m'.type)
    (hr : Ends r) (hs : Ends s) (h : memberChars indent m ++ r = memberChars indent m' ++ s) :
    m = m' ∧ r = s := by
  cases m with
  | property name mayLack t =>
    cases m' with
    | property name' mayLack' t' =>
      simp only [memberChars_property, List.append_assoc] at h
      obtain ⟨rfl, rfl, hrest⟩ := propertyLead_append_inj h
      obtain ⟨rfl, hrs⟩ := legible t' readable' r s hr hs hrest
      exact ⟨rfl, hrs⟩
    | indexed label t' =>
      simp only [memberChars_property, memberChars_indexed, List.append_assoc] at h
      exact absurd h propertyLead_append_ne
  | indexed name t =>
    cases m' with
    | property name' mayLack' t' =>
      simp only [memberChars_property, memberChars_indexed, List.append_assoc] at h
      exact absurd h.symm propertyLead_append_ne
    | indexed name' t' =>
      simp only [memberChars_indexed, List.append_assoc] at h
      obtain ⟨rfl, hrest⟩ := indexLead_append_inj (label _ _ rfl) (label' _ _ rfl) h
      obtain ⟨rfl, hrs⟩ := legible t' readable' r s hr hs hrest
      exact ⟨rfl, hrs⟩

/-- The members of an object as items of a list. -/
lemma back_object (members : List (Member Ty)) (rest : List Char) :
    (object members).back indent ++ rest =
      ['\x7b', '\n'] ++ ((members.flatMap fun m => margin (indent + 2) ++
        (memberChars (indent + 2) m ++ [';', '\n'])) ++ ((margin indent ++ ['\x7d']) ++ rest)) := by
  rw [back, memberLines_eq_flatMap]
  simp

/-- A semicolon may follow a type. -/
lemma ends_semicolon (r : List Char) : Ends (';' :: r) := by
  rintro c ⟨⟩
  decide

/-- What closes an object does not look like a further member. -/
lemma not_member_of_closedBy (indent : ℕ) (r : List Char)
    (h : ClosedBy (margin indent ++ ['\x7d']) r) : ¬ margin (indent + 2) <+: r := by
  -- the line that closes the object is indented less than its members, and a brace is no space
  obtain ⟨a, rfl⟩ := h
  rintro ⟨b, hb⟩
  rw [margin, margin, List.replicate_add, List.append_assoc, List.append_assoc] at hb
  cases List.append_cancel_left hb

/-- The type of objects can be told from its text if the types of the members can be. -/
lemma told_object {members : List (Member Ty)}
    (labels : ∀ label t, .indexed label t ∈ members → Identifier.isIdentifier label = true)
    (types : ∀ m ∈ members, Readable numbers m.type)
    (legible : ∀ m ∈ members, Legible numbers (indent + 2) m.type) :
    Told numbers indent (.object members) := by
  intro u hu simple r s hr hs h
  obtain ⟨-, hback⟩ := front_eq_and_back_eq (.object labels types) hu trivial simple hr hs h
  obtain ⟨members', rfl, labels', types'⟩ :=
    hu.object_of_kind (kind_eq_of_back hr hs hback).symm
  rw [back_object, back_object] at hback
  obtain ⟨rfl, hrs⟩ := items_append_inj (not_member_of_closedBy indent)
    (fun m hm m' hm' r s _ _ hmm => by
      rw [List.append_assoc, List.append_assoc] at hmm
      obtain ⟨rfl, hrs⟩ := member_append_inj (fun label t h => labels label t (h ▸ hm))
        (fun label t h => labels' label t (h ▸ hm')) (legible m hm) (types' m' hm')
        (ends_semicolon _) (ends_semicolon _) hmm
      exact ⟨rfl, (List.append_right_inj [';', '\n']).mp hrs⟩)
    (closedBy_append _ r) (closedBy_append _ s) (List.append_cancel_left hback)
  exact ⟨rfl, List.append_cancel_left hrs⟩

/-! ## Unique readability -/

/-- A simple type joins nothing but itself. -/
lemma first_others_of_isSimple (h : t.IsSimple) : t.first :: t.others = [t] := by
  cases t with
  | union => exact h.elim
  | intersection => exact h.elim
  | _ => rfl

/-- So it is among the types that it joins. -/
lemma mem_first_others_self (h : t.IsSimple) : t ∈ t.first :: t.others := by
  rw [first_others_of_isSimple h]
  exact List.mem_singleton_self t

/-- All simple types that a readable type joins can be told from their texts. -/
lemma Readable.told (distinct : numbers.InjOn Json.Number.chars) (ht : Readable numbers t) :
    ∀ p ∈ t.first :: t.others, ∀ indent, Told numbers indent p := by
  -- the induction is on how `t` is readable, for all indentations at once: the members of an object
  -- stand on lines of their own that are indented further
  have hsimple {t : Ty} (simple : t.IsSimple) (told : ∀ indent, Told numbers indent t) :
      ∀ p ∈ t.first :: t.others, ∀ indent, Told numbers indent p := by
    rw [first_others_of_isSimple simple]
    intro p hp
    rwa [List.mem_singleton.mp hp]
  induction ht with
  | word word => exact hsimple word.isSimple fun indent => word.told distinct
  | string value => exact hsimple trivial fun indent => told_string value
  | application identifier arguments ih =>
    exact hsimple trivial fun indent => told_application identifier arguments fun a ha =>
      (arguments a ha).legible fun p hp => ih a ha p hp indent
  | object labels types ih =>
    exact hsimple trivial fun indent => told_object labels types fun m hm =>
      (types m hm).legible fun p hp => ih m hm p hp (indent + 2)
  | union simple members ih =>
    intro p hp
    exact ih p hp p (mem_first_others_self (simple p hp))
  | intersection simple members ih =>
    intro p hp
    exact ih p hp p (mem_first_others_self (simple p hp))

/-- Readable types with one text are equal. -/
lemma Readable.eq_of_chars_eq (distinct : numbers.InjOn Json.Number.chars)
    (ht : Readable numbers t) (hu : Readable numbers u)
    (h : t.chars indent = u.chars indent) : t = u := by
  have hnil : Ends [] := fun c hc => by cases hc
  have hlegible := ht.legible fun p hp => ht.told distinct p hp indent
  exact (hlegible u hu [] [] hnil hnil (by rw [h])).1

end Ty

end TypedRouter.TypeScript
