import TypedRouter.Proofs.TypeScript.Legible
import TypedRouter.Proofs.Types.Parts
import TypedRouter.TypeScript.Router

/-!
# Unique readability of router types

The text of a router type determines the record that it was made of, up to the names of parameters.
Such a name is only a label, and stands in the text as the identifier that it is made.

A type expression is the only one with its type, and a record is the only one with its router type;
so it remains to see that the types are readable.  Three things could go wrong.  A union with fewer
than two members, or with a union among its members, has the text of another expression, a name that
is a word of the language has the text of the word, and a branch without records has a type without
text.
-/

namespace TypedRouter

open OpenApi Router Text

/-! ## Readable expressions and records -/

/-- The type expressions that their texts determine: each union has two members or more and no union
among them, each name that is referred to is an identifier and free, and the numbers come from the
set. -/
structure TypeExpr.Readable (numbers : Set Json.Number) (t : TypeExpr) : Prop where
  union : ∀ members, IsPart (.union members) t →
    2 ≤ members.length ∧ ∀ others, TypeExpr.union others ∉ members
  name : ∀ name, t.RefersTo name →
    Identifier.isIdentifier name = true ∧ name ∉ TypeScript.reserved
  number : ∀ n, IsPart (.literal (.number n)) t → n ∈ numbers

/-- The properties of a readable record are readable. -/
lemma TypeExpr.Readable.of_property {numbers : Set Json.Number} {ps : List (Property TypeExpr)}
    (h : (record ps).Readable numbers) {p : Property TypeExpr} (mem : p ∈ ps) :
    p.type.Readable numbers :=
  ⟨fun members part => h.union members (.property mem part),
    fun name part => h.name name (.property mem part),
    fun n part => h.number n (.property mem part)⟩

/-- The members of a readable union are readable. -/
lemma TypeExpr.Readable.of_member {numbers : Set Json.Number} {ts : List TypeExpr}
    (h : (TypeExpr.union ts).Readable numbers) {t : TypeExpr} (mem : t ∈ ts) :
    t.Readable numbers :=
  ⟨fun members part => h.union members (.member mem part),
    fun name part => h.name name (.member mem part),
    fun n part => h.number n (.member mem part)⟩

namespace Router

/-- The records that their texts determine: the types of all procedures are readable, and each
branch has a record. -/
inductive Record.Readable (numbers : Set Json.Number) : Record → Prop
  | intro {r : Record}
      (types : ∀ p, .procedure p ∈ r → p.input.Readable numbers ∧ p.output.Readable numbers)
      (nonempty : ∀ key records, .branch key records ∈ r → records ≠ [])
      (below : ∀ key records, .branch key records ∈ r →
        ∀ s ∈ records, Record.Readable numbers s) : Record.Readable numbers r

/-- A segment with the name of a parameter made an identifier. -/
def relabelledKey : Segment → Segment
  | .literal text => .literal text
  | .param name => .param (Identifier.sanitize name)

mutual

/-- An entry with the names of all parameters made identifiers. -/
def Entry.relabelled : Entry → Entry
  | .procedure p => .procedure p
  | .branch key records => .branch (relabelledKey key) (relabelledRecords records)
termination_by structural e => e

/-- A record with the names of all parameters made identifiers. -/
def Record.relabelled : Record → Record
  | [] => []
  | e :: rest => Entry.relabelled e :: Record.relabelled rest
termination_by structural es => es

/-- The records of a branch with the names of all parameters made identifiers. -/
def relabelledRecords : List Record → List Record
  | [] => []
  | r :: rest => Record.relabelled r :: relabelledRecords rest
termination_by structural rs => rs

end

/-- Induction over records: what holds of a record as soon as it holds of all records of its
branches holds of every record. -/
@[elab_as_elim]
theorem Record.induction {P : Record → Prop}
    (step : ∀ r : Record, (∀ key records, .branch key records ∈ r → ∀ s ∈ records, P s) → P r)
    (r : Record) : P r :=
  step r fun key records _hbranch s _hs => Record.induction step s
termination_by sizeOf r
decreasing_by
  have hbranch := List.sizeOf_lt_of_mem _hbranch
  have hsize := List.sizeOf_lt_of_mem _hs
  simp only [Entry.branch.sizeOf_spec] at hbranch
  omega

/-- A record is relabelled entry by entry. -/
@[simp] lemma Record.relabelled_eq_map (r : Record) : r.relabelled = r.map Entry.relabelled := by
  induction r with
  | nil => rfl
  | cons e r ih => rw [Record.relabelled, ih, List.map_cons]

/-- Records are relabelled one after the other. -/
@[simp] lemma relabelledRecords_eq_map (rs : List Record) :
    relabelledRecords rs = rs.map Record.relabelled := by
  induction rs with
  | nil => rfl
  | cons r rs ih => rw [relabelledRecords, ih, List.map_cons]

end Router

namespace TypeScript

/-- Lists are equal if their images are, where no element shares its image with anything else. -/
lemma eq_of_map_eq {α β : Type} {f : α → β} {xs ys : List α}
    (injective : ∀ x ∈ xs, ∀ y, f x = f y → x = y) (h : xs.map f = ys.map f) : xs = ys := by
  induction xs generalizing ys with
  | nil =>
    cases ys with
    | nil => rfl
    | cons y ys => cases h
  | cons x xs ih =>
    cases ys with
    | nil => cases h
    | cons y ys =>
      obtain ⟨hhead, htail⟩ := List.cons_eq_cons.mp h
      rw [injective x List.mem_cons_self y hhead,
        ih (fun x' hx' => injective x' (List.mem_cons_of_mem _ hx')) htail]

/-! ## Types of type expressions -/

namespace Ty

/-- Different type expressions have different types. -/
lemma ofExpr_injective : Function.Injective ofExpr := by
  intro t
  induction t using TypeExpr.induction with
  | step t ihProperty ihMember =>
    intro u h
    cases t with
    | record ps =>
      cases u with
      | record qs =>
        rw [ofExpr_record, ofExpr_record, object.injEq] at h
        have hps : ps = qs := by
          refine eq_of_map_eq (fun p hp q hpq => ?_) h
          obtain ⟨name, mayLack, t⟩ := p
          obtain ⟨name', mayLack', t'⟩ := q
          rw [ofProperty, ofProperty, Member.property.injEq] at hpq
          obtain ⟨rfl, rfl, ht⟩ := hpq
          obtain rfl : t = t' := ihProperty ps rfl _ hp ht
          rfl
        rw [hps]
      | _ => simp [ofExpr] at h
    | union ts =>
      cases u with
      | union us =>
        rw [ofExpr_union, ofExpr_union, union.injEq] at h
        rw [eq_of_map_eq (fun m hm n hmn => ihMember ts rfl m hm hmn) h]
      | _ => simp [ofExpr] at h
    -- a keyword, a literal or a name stands for one type expression each
    | _ => cases u <;> simp_all [ofExpr]

/-- The type of a readable type expression is readable. -/
lemma readable_ofExpr {numbers : Set Json.Number} {t : TypeExpr} (h : t.Readable numbers) :
    (ofExpr t).Readable numbers := by
  induction t using TypeExpr.induction with
  | step t ihProperty ihMember =>
    cases t with
    | literal value =>
      cases value with
      | string value => exact .string value
      | number n => exact .word (.number (h.number n .refl))
      | bool value => exact .word (.bool value)
    | record ps =>
      rw [ofExpr_record]
      refine .object (fun label u hmem => ?_) fun m hm => ?_
      · obtain ⟨⟨name, mayLack, t⟩, -, hp⟩ := List.mem_map.mp hmem
        cases hp
      · obtain ⟨⟨name, mayLack, t⟩, hp, rfl⟩ := List.mem_map.mp hm
        exact ihProperty ps rfl _ hp (h.of_property hp)
    | union ts =>
      obtain ⟨htwo, hflat⟩ := h.union ts .refl
      have hsimple : ∀ m ∈ ts.map ofExpr, m.IsSimple := by
        intro m hm
        obtain ⟨t, ht, rfl⟩ := List.mem_map.mp hm
        cases t with
        | union others => exact absurd ht (hflat others)
        | _ => trivial
      have hmembers : ∀ m ∈ ts.map ofExpr, Readable numbers m := by
        intro m hm
        obtain ⟨t, ht, rfl⟩ := List.mem_map.mp hm
        exact ihMember ts rfl t ht (h.of_member ht)
      rw [ofExpr_union]
      match ts with
      | [] => simp at htwo
      | [t] => simp at htwo
      | t :: u :: ts => exact .union hsimple hmembers
    | ref name =>
      obtain ⟨identifier, free⟩ := h.name name .refl
      exact .word (.name identifier free)
    | _ => exact .word (.keyword (by decide))

end Ty

/-! ## Types of records -/

/-- The type of a record is simple. -/
lemma isSimple_of_mem_map_routerType {rs : List Record} {t : Ty} (h : t ∈ rs.map routerType) :
    t.IsSimple := by
  obtain ⟨r, -, rfl⟩ := List.mem_map.mp h
  trivial

/-- The type of a procedure tells all of it but its method. -/
lemma procedureType_inj {p q : Procedure} (h : procedureType p = procedureType q) :
    p.kind = q.kind ∧ p.input = q.input ∧ p.output = q.output := by
  obtain ⟨method, kind, input, output⟩ := p
  obtain ⟨method', kind', input', output'⟩ := q
  rw [procedureType, procedureType, Ty.named.injEq, List.cons.injEq, List.cons.injEq] at h
  obtain ⟨hname, hinput, houtput, -⟩ := h
  refine ⟨?_, Ty.ofExpr_injective hinput, Ty.ofExpr_injective houtput⟩
  cases kind with
  | query =>
    cases kind' with
    | query => rfl
    | mutation => exact absurd hname (by decide : "QueryProcedure" ≠ "MutationProcedure")
  | mutation =>
    cases kind' with
    | query => exact absurd hname (by decide : "MutationProcedure" ≠ "QueryProcedure")
    | mutation => rfl

/-- The type of a branch tells its records: a single one is not joined. -/
lemma branchType_inj {ts us : List Ty} (ht : ∀ t ∈ ts, t.IsSimple) (hu : ∀ u ∈ us, u.IsSimple)
    (h : branchType ts = branchType us) : ts = us := by
  unfold branchType at h
  split at h
  · next t =>
    split at h
    · rw [h]
    · exact (h ▸ ht t List.mem_cons_self : (Ty.intersection us).IsSimple).elim
  · split at h
    · next u => exact (h ▸ hu u List.mem_cons_self : (Ty.intersection ts).IsSimple).elim
    · exact Ty.intersection.inj h

/-- The member of a procedure is not that of a branch, even of one with the name of its method. -/
lemma entryMember_procedure_ne_branch (p : Procedure) (key : Segment) (records : List Record) :
    entryMember (.procedure p) ≠ entryMember (.branch key records) := by
  obtain ⟨method, kind, input, output⟩ := p
  intro h
  rw [entryMember, entryMember_branch] at h
  cases key with
  | literal text =>
    rw [branchMember, Member.property.injEq] at h
    obtain ⟨-, -, htype⟩ := h
    unfold branchType at htype
    split at htype
    · next t ht =>
      obtain ⟨r, -, rfl⟩ := List.mem_map.mp (ht ▸ List.mem_singleton_self t)
      rw [procedureType, routerType, routerOf, Ty.named.injEq] at htype
      cases kind with
      | query => exact absurd htype.1 (by decide : "QueryProcedure" ≠ "CreateRouterInner")
      | mutation => exact absurd htype.1 (by decide : "MutationProcedure" ≠ "CreateRouterInner")
    · cases htype
  | param name => cases h

/-- A branch can be told from its member. -/
lemma branchMember_inj {key key' : Segment} {t u : Ty}
    (h : branchMember key t = branchMember key' u) : key = key' ∧ t = u := by
  cases key with
  | literal text =>
    cases key' with
    | literal text' => simpa [branchMember] using h
    | param name' => cases h
  | param name =>
    cases key' with
    | literal text' => cases h
    | param name' => simpa [branchMember] using h

/-- Different methods have different names. -/
lemma methodName_injective : Function.Injective Method.name := by
  intro m n h
  cases m <;> cases n <;> first | rfl | exact absurd h (by decide)

/-- Routers with different members differ. -/
lemma routerOf_injective : Function.Injective routerOf := by
  intro members others h
  simpa [routerOf] using h

/-- Different records have different types. -/
lemma routerType_injective : Function.Injective routerType := by
  intro r
  induction r using Record.induction with
  | step r ih =>
    intro s h
    rw [routerType_eq, routerType_eq] at h
    refine eq_of_map_eq (fun e he e' hee' => ?_) (routerOf_injective h)
    cases e with
    | procedure p =>
      cases e' with
      | procedure q =>
        rw [entryMember, entryMember, Member.property.injEq] at hee'
        obtain ⟨hname, -, htype⟩ := hee'
        obtain ⟨hkind, hinput, houtput⟩ := procedureType_inj htype
        have hmethod : p.method = q.method := methodName_injective hname
        obtain ⟨method, kind, input, output⟩ := p
        obtain ⟨method', kind', input', output'⟩ := q
        obtain rfl : method = method' := hmethod
        obtain rfl : kind = kind' := hkind
        obtain rfl : input = input' := hinput
        obtain rfl : output = output' := houtput
        rfl
      | branch key records => exact absurd hee' (entryMember_procedure_ne_branch p key records)
    | branch key records =>
      cases e' with
      | procedure q => exact absurd hee'.symm (entryMember_procedure_ne_branch q key records)
      | branch key' records' =>
        rw [entryMember_branch, entryMember_branch] at hee'
        obtain ⟨rfl, htype⟩ := branchMember_inj hee'
        have hrecords := branchType_inj (fun _ => isSimple_of_mem_map_routerType)
          (fun _ => isSimple_of_mem_map_routerType) htype
        rw [eq_of_map_eq (fun r hr s hrs => ih key records he r hr hrs) hrecords]

/-! ## Labels -/

/-- A name is written as the identifier that is made from it is. -/
lemma nameChars_sanitize (name : String) :
    nameChars (Identifier.sanitize name) = nameChars name := by
  rw [Ty.nameChars_of_isIdentifier (Identifier.isIdentifier_sanitize name), Identifier.sanitize,
    String.toList_ofList, nameChars]

/-- The types of the records of a branch are written with ampersands between them. -/
lemma chars_branchType (ts : List Ty) (indent : ℕ) :
    (branchType ts).chars indent = List.intercalate [' ', '&', ' '] (ts.map (Ty.chars indent)) := by
  unfold branchType
  split
  · simp
  · exact Ty.chars_intersection indent ts

/-- The label of a parameter is written as the identifier that is made from it. -/
lemma memberChars_relabelledKey (key : Segment) {t u : Ty} {indent : ℕ}
    (h : t.chars indent = u.chars indent) :
    Ty.memberChars indent (branchMember (relabelledKey key) t) =
      Ty.memberChars indent (branchMember key u) := by
  cases key with
  | literal text => simp [relabelledKey, branchMember, h]
  | param name => simp [relabelledKey, branchMember, indexLead, nameChars_sanitize, h]

/-- The text of a router type shows the names of parameters as identifiers. -/
lemma chars_routerType_relabelled (r : Record) (indent : ℕ) :
    (routerType r.relabelled).chars indent = (routerType r).chars indent := by
  induction r using Record.induction generalizing indent with
  | step r ih =>
    have hlines : Ty.memberLines (indent + 2) (entryMembers r.relabelled) =
        Ty.memberLines (indent + 2) (entryMembers r) := by
      simp only [Ty.memberLines_eq_flatMap, entryMembers_eq_map, Record.relabelled_eq_map,
        List.map_map, List.flatMap_map]
      refine List.flatMap_congr fun e he => ?_
      rw [Function.comp_apply]
      congr 2
      -- only the lead of a branch with a parameter is spelled differently
      cases e with
      | procedure p => rfl
      | branch key records =>
        refine memberChars_relabelledKey key ?_
        simp only [chars_branchType, recordTypes_eq_map, relabelledRecords_eq_map, List.map_map]
        exact congrArg _ (List.map_congr_left fun s hs => ih key records he s hs (indent + 2))
    simp only [routerType, routerOf, Ty.chars, Ty.listChars, hlines]

/-! ## Readable types of records -/

/-- A router with readable members is readable. -/
lemma readable_routerOf {numbers : Set Json.Number} {members : List (Member Ty)}
    (labels : ∀ label t, .indexed label t ∈ members → Identifier.isIdentifier label = true)
    (types : ∀ m ∈ members, m.type.Readable numbers) : (routerOf members).Readable numbers := by
  have hconfig : Ty.Readable numbers (.named "FakeConfig" []) :=
    .word (.name (by decide +kernel) (by decide))
  refine .application (by decide +kernel) fun a ha => ?_
  rcases List.mem_cons.mp ha with rfl | hobject
  · exact hconfig
  · obtain rfl := List.mem_singleton.mp hobject
    exact .object labels types

/-- The type of a branch is readable if those of its records are. -/
lemma readable_branchType {numbers : Set Json.Number} {ts : List Ty} (nonempty : ts ≠ [])
    (simple : ∀ t ∈ ts, t.IsSimple) (types : ∀ t ∈ ts, t.Readable numbers) :
    (branchType ts).Readable numbers := by
  match ts with
  | [] => exact absurd rfl nonempty
  | [t] => exact types t List.mem_cons_self
  | t :: u :: ts => exact .intersection simple types

/-- The type of the member of a branch. -/
lemma branchMember_type (key : Segment) (t : Ty) : (branchMember key t).type = t := by
  cases key <;> rfl

/-- The type of a procedure is readable if those of its input and output are. -/
lemma readable_procedureType {numbers : Set Json.Number} {p : Procedure}
    (input : p.input.Readable numbers) (output : p.output.Readable numbers) :
    (procedureType p).Readable numbers := by
  have harguments : ∀ a ∈ [Ty.ofExpr p.input, Ty.ofExpr p.output], a.Readable numbers := by
    intro a ha
    rcases List.mem_pair.mp ha with rfl | rfl
    · exact Ty.readable_ofExpr input
    · exact Ty.readable_ofExpr output
  unfold procedureType
  cases p.kind
  · exact .application (by decide +kernel) harguments
  · exact .application (by decide +kernel) harguments

/-- The type of a readable record is readable once all its labels are identifiers. -/
lemma readable_routerType_relabelled {numbers : Set Json.Number} {r : Record}
    (h : r.Readable numbers) : (routerType r.relabelled).Readable numbers := by
  induction h with
  | @intro r types nonempty below ih =>
    rw [routerType_eq, Record.relabelled_eq_map, List.map_map]
    refine readable_routerOf (fun label t hmem => ?_) fun m hm => ?_
    · obtain ⟨e, -, he⟩ := List.mem_map.mp hmem
      rw [Function.comp_apply] at he
      match e with
      | .procedure p => cases he
      | .branch (.literal text) records => cases he
      | .branch (.param name) records =>
        cases he
        exact Identifier.isIdentifier_sanitize name
    · obtain ⟨e, he, rfl⟩ := List.mem_map.mp hm
      rw [Function.comp_apply]
      cases e with
      | procedure p => exact readable_procedureType (types p he).1 (types p he).2
      | branch key records =>
        rw [Entry.relabelled, entryMember_branch, branchMember_type, relabelledRecords_eq_map]
        refine readable_branchType ?_ (fun _ => isSimple_of_mem_map_routerType) fun t ht => ?_
        · simpa using nonempty key records he
        · rw [List.map_map] at ht
          obtain ⟨s, hs, rfl⟩ := List.mem_map.mp ht
          exact ih key records he s hs

/-! ## Numbers -/

/-- The numbers that are integers. -/
def integers : Set Json.Number := Set.range .int

/-- No two integers are written alike. -/
lemma injOn_chars_integers : integers.InjOn Json.Number.chars := by
  have hdigits {m n : ℕ} (h : Json.Number.digitChars m = Json.Number.digitChars n) : m = n := by
    have hread := congrArg (Nat.ofDigitChars 10 · 0) h
    simpa [Json.Number.digitChars] using hread
  have hsign {m n : ℕ} : '-' :: Json.Number.digitChars m ≠ Json.Number.digitChars n := by
    intro h
    have hmem : '-' ∈ Json.Number.digitChars n := h ▸ List.mem_cons_self
    exact absurd (Nat.isDigit_of_mem_toDigits (by decide) (by decide) hmem) (by decide)
  rintro _ ⟨i, rfl⟩ _ ⟨j, rfl⟩ h
  rw [Json.Number.chars, Json.Number.chars] at h
  split at h <;> split at h
  · have habs := hdigits (List.cons_eq_cons.mp h).2
    rw [show i = j by omega]
  · exact absurd h hsign
  · exact absurd h.symm hsign
  · have habs := hdigits h
    rw [show i = j by omega]

/-! ## Unique readability -/

/-- Readable records with one text are equal up to the names of their parameters, and readable type
expressions with one text are equal. -/
theorem uniquely_readable {numbers : Set Json.Number}
    (distinct : numbers.InjOn Json.Number.chars) (indent : ℕ) :
    (∀ r s : Record, r.Readable numbers → s.Readable numbers →
      (routerType r).chars indent = (routerType s).chars indent → r.relabelled = s.relabelled) ∧
    ∀ t u : TypeExpr, t.Readable numbers → u.Readable numbers →
      (Ty.ofExpr t).chars indent = (Ty.ofExpr u).chars indent → t = u := by
  constructor
  · intro r s hr hs h
    rw [← chars_routerType_relabelled r, ← chars_routerType_relabelled s] at h
    exact routerType_injective ((readable_routerType_relabelled hr).eq_of_chars_eq distinct
      (readable_routerType_relabelled hs) h)
  · intro t u ht hu h
    exact Ty.ofExpr_injective
      ((Ty.readable_ofExpr ht).eq_of_chars_eq distinct (Ty.readable_ofExpr hu) h)

/-- The pets of a store, each of them below a parameter of this name. -/
def petRecord (label : String) : Record :=
  [.branch (.literal "pets")
    [[.branch (.param label)
        [[.procedure ⟨.get, .query, .void, .union [.ref "Pet", .literal (.number (.int 404))]⟩]]],
      [.procedure ⟨.post, .mutation, .ref "Pet", .unknown⟩]]]

/-- The record of a pet is readable. -/
lemma readable_petRecord (label : String) : (petRecord label).Readable integers := by
  have hvoid : TypeExpr.void.Readable integers := ⟨by rintro _ ⟨⟩, by rintro _ ⟨⟩, by rintro _ ⟨⟩⟩
  have hunknown : TypeExpr.unknown.Readable integers :=
    ⟨by rintro _ ⟨⟩, by rintro _ ⟨⟩, by rintro _ ⟨⟩⟩
  have hpet : (TypeExpr.ref "Pet").Readable integers := by
    refine ⟨by rintro _ ⟨⟩, ?_, by rintro _ ⟨⟩⟩
    rintro _ ⟨⟩
    exact ⟨by decide +kernel, by decide⟩
  have hfound : (TypeExpr.union [.ref "Pet", .literal (.number (.int 404))]).Readable integers := by
    refine ⟨?_, ?_, ?_⟩
    · rintro _ (_ | _ | ⟨hmem, part⟩)
      · simp
      · rcases List.mem_pair.mp hmem with rfl | rfl <;> cases part
    · rintro _ (_ | _ | ⟨hmem, part⟩)
      rcases List.mem_pair.mp hmem with rfl | rfl
      · exact hpet.name _ part
      · cases part
    · rintro n (_ | _ | ⟨hmem, part⟩)
      rcases List.mem_pair.mp hmem with rfl | rfl
      · cases part
      · cases part
        exact ⟨404, rfl⟩
  have hget : Record.Readable integers
      [.procedure ⟨.get, .query, .void, .union [.ref "Pet", .literal (.number (.int 404))]⟩] :=
    .intro (by simp [hvoid, hfound]) (by simp) (by simp)
  have hlabel : Record.Readable integers [.branch (.param label)
      [[.procedure ⟨.get, .query, .void, .union [.ref "Pet", .literal (.number (.int 404))]⟩]]] :=
    .intro (by simp) (by simp) (by simpa using hget)
  have hpost : Record.Readable integers
      [.procedure ⟨.post, .mutation, .ref "Pet", .unknown⟩] :=
    .intro (by simp [hpet, hunknown]) (by simp) (by simp)
  rw [petRecord]
  exact .intro (by simp) (by simp) (by simpa using ⟨hlabel, hpost⟩)

/-- How the parameter is spelled does not show in the text, and nothing else is lost. -/
theorem petRecord_relabelled_eq :
    (petRecord "pet-id").Readable integers ∧ (petRecord "pet_id").Readable integers ∧
      (routerType (petRecord "pet-id")).chars 0 = (routerType (petRecord "pet_id")).chars 0 ∧
        (petRecord "pet-id").relabelled = (petRecord "pet_id").relabelled := by
  have htext : (routerType (petRecord "pet-id")).chars 0 =
      (routerType (petRecord "pet_id")).chars 0 := by decide +kernel
  exact ⟨readable_petRecord _, readable_petRecord _, htext,
    (uniquely_readable injOn_chars_integers 0).1 _ _ (readable_petRecord _) (readable_petRecord _)
      htext⟩

end TypeScript

end TypedRouter
