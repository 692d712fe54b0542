import TypedRouter.Proofs.Router.References

/-!
# Unions in normal form

A union is in normal form if it has two members or more and none of them is a union itself; a type
expression is normal if all unions inside it are.  `unionOf` puts the members of a union in its
place, but it looks only one level down, and it leaves out the union where a single member is left.
So it makes a normal expression only if it is given normal ones, and everything that hands
expressions to it has to be looked at: the values of an enumeration, the alternatives of a schema,
however deep they are, and the bodies of the successful responses of an operation.

The alternatives of a normal expression are the members that are left once it is flattened.  The
union of some expressions has their alternatives as its own, which is all that there is to say about
it: a union of unions has the same alternatives as the union of all the members, so the members may
be grouped in any way.  An empty group is an exception, since it stands for any value and not for
nothing.
-/

namespace TypedRouter

open OpenApi Router

namespace TypeExpr

/-- Every union that stands inside an expression, at any depth, has two members or more, and none of
them is a union. -/
def IsNormal (t : TypeExpr) : Prop :=
  ∀ members, IsPart (.union members) t → 2 ≤ members.length ∧ ∀ others, union others ∉ members

variable {t u : TypeExpr} {ts : List TypeExpr}

/-! ## Normal expressions -/

/-- The members of a normal union are normal. -/
lemma IsNormal.of_member (h : (union ts).IsNormal) (mem : t ∈ ts) : t.IsNormal :=
  fun members part => h members (.member mem part)

/-- A record of normal properties is normal. -/
lemma isNormal_record {ps : List (Property TypeExpr)} (h : ∀ p ∈ ps, p.type.IsNormal) :
    (record ps).IsNormal := by
  intro members part
  cases part with
  | property mem part => exact h _ mem members part

/-- A union of two normal members or more is normal if none of them is a union. -/
lemma isNormal_union (two : 2 ≤ ts.length) (flat : ∀ others, union others ∉ ts)
    (h : ∀ t ∈ ts, t.IsNormal) : (union ts).IsNormal := by
  intro members part
  cases part with
  | refl => exact ⟨two, flat⟩
  | member mem part => exact h _ mem members part

/-- The unknown type is normal. -/
lemma isNormal_unknown : unknown.IsNormal := by
  intro members part
  cases part

/-- A reference is normal. -/
lemma isNormal_ref (name : String) : (ref name).IsNormal := by
  intro members part
  cases part

/-- The primitive types are normal. -/
lemma isNormal_primitive (p : Primitive) : p.type.IsNormal := by
  intro members part
  cases p <;> cases part

/-- The type of a variant is normal. -/
lemma isNormal_ofVariant (v : Json.Value) : (ofVariant v).IsNormal := by
  intro members part
  cases v <;> cases part

/-! ## Alternatives -/

/-- An expression that is no union is its only alternative. -/
lemma alternatives_eq_singleton (h : ∀ members, t ≠ union members) : t.alternatives = [t] := by
  unfold alternatives
  split
  · next members => exact absurd rfl (h members)
  · rfl

/-- A normal expression has an alternative. -/
lemma IsNormal.alternatives_ne_nil (h : t.IsNormal) : t.alternatives ≠ [] := by
  unfold alternatives
  split
  · next members =>
    have two := (h members .refl).1
    exact List.ne_nil_of_length_pos (Nat.lt_of_lt_of_le Nat.zero_lt_two two)
  · exact List.cons_ne_nil _ _

/-- No alternative of a normal expression is a union. -/
lemma IsNormal.union_notMem_alternatives (h : t.IsNormal) (others : List TypeExpr) :
    union others ∉ t.alternatives := by
  unfold alternatives
  split
  · next members => exact (h members .refl).2 others
  · next hother =>
    intro mem
    exact hother others (List.mem_singleton.mp mem).symm

/-- The alternatives of a normal expression are normal. -/
lemma IsNormal.of_mem_alternatives (h : t.IsNormal) (mem : u ∈ t.alternatives) : u.IsNormal := by
  unfold alternatives at mem
  split at mem
  · exact h.of_member mem
  · have heq := List.mem_singleton.mp mem
    rwa [heq]

/-! ## The union of normal expressions -/

section UnionOf

variable (normal : ∀ t ∈ ts, t.IsNormal)

include normal

/-- No alternative is a union, if all the expressions are normal. -/
lemma union_notMem_flatMap_alternatives (others : List TypeExpr) :
    union others ∉ ts.flatMap alternatives := by
  intro mem
  obtain ⟨t, ht, hmem⟩ := List.mem_flatMap.mp mem
  exact (normal t ht).union_notMem_alternatives others hmem

/-- The alternatives of normal expressions are normal. -/
lemma isNormal_of_mem_flatMap_alternatives (mem : u ∈ ts.flatMap alternatives) : u.IsNormal := by
  obtain ⟨t, ht, hmem⟩ := List.mem_flatMap.mp mem
  exact (normal t ht).of_mem_alternatives hmem

/-- Some normal expressions have some alternatives. -/
lemma flatMap_alternatives_ne_nil (nonempty : ts ≠ []) : ts.flatMap alternatives ≠ [] := by
  obtain ⟨t, ht⟩ := List.exists_mem_of_ne_nil ts nonempty
  intro hnil
  have halternatives := List.flatMap_eq_nil_iff.mp hnil t ht
  exact (normal t ht).alternatives_ne_nil halternatives

/-- The union of normal expressions is normal. -/
theorem isNormal_unionOf : (unionOf ts).IsNormal := by
  have hflat := union_notMem_flatMap_alternatives normal
  have hmembers : ∀ u ∈ ts.flatMap alternatives, u.IsNormal :=
    fun u => isNormal_of_mem_flatMap_alternatives normal
  unfold unionOf
  generalize ts.flatMap alternatives = us at hflat hmembers
  match us with
  | [] => exact isNormal_unknown
  | [u] => exact hmembers u (List.mem_singleton_self u)
  | u :: v :: rest => exact isNormal_union (by simp) hflat hmembers

/-- The union of normal expressions has their alternatives, if there are any. -/
theorem alternatives_unionOf (nonempty : ts ≠ []) :
    (unionOf ts).alternatives = ts.flatMap alternatives := by
  have hflat := union_notMem_flatMap_alternatives normal
  have hne := flatMap_alternatives_ne_nil normal nonempty
  unfold unionOf
  generalize ts.flatMap alternatives = us at hflat hne
  match us with
  | [] => exact absurd rfl hne
  | [u] =>
    apply alternatives_eq_singleton
    intro members heq
    exact hflat members (heq ▸ List.mem_singleton_self u)
  | u :: v :: rest => rfl

end UnionOf

/-- A union depends only on the alternatives of what it is made of. -/
lemma unionOf_congr {us : List TypeExpr} (h : ts.flatMap alternatives = us.flatMap alternatives) :
    unionOf ts = unionOf us := by
  unfold unionOf
  rw [h]

/-- It makes no difference how the members of a union are grouped, as long as no group is empty. -/
theorem unionOf_map_unionOf {groups : List (List TypeExpr)}
    (h : ∀ ts ∈ groups, ts ≠ [] ∧ ∀ t ∈ ts, t.IsNormal) :
    unionOf (groups.map unionOf) = unionOf groups.flatten := by
  apply unionOf_congr
  induction groups with
  | nil => rfl
  | cons ts groups ih =>
    obtain ⟨nonempty, normal⟩ := h ts List.mem_cons_self
    have hrest := ih fun us hus => h us (List.mem_cons_of_mem _ hus)
    rw [List.map_cons, List.flatMap_cons, List.flatten_cons, List.flatMap_append,
      alternatives_unionOf normal nonempty, hrest]

/-- An empty group stands for any value, so it does not vanish. -/
example : TypeExpr.unionOf ([[], [.null]].map unionOf) = .union [.unknown, .null] := by rfl

/-! ## Resolved types -/

/-- The type of a schema is normal. -/
theorem isNormal_ofSchema (index : ReferenceIndex) (s : Schema) : (ofSchema index s).IsNormal := by
  induction s using Schema.induction with
  | step s ofProperty ofAlternative =>
    have hresolved := resolved_ofSchema index s
    generalize ofSchema index s = t at hresolved
    cases hresolved with
    | @enum values variants =>
      apply isNormal_unionOf
      intro t ht
      obtain ⟨v, -, rfl⟩ := List.mem_map.mp ht
      exact isNormal_ofVariant v
    | @primitive p type => exact isNormal_primitive p
    | @object ps type properties =>
      apply isNormal_record
      intro q hq
      obtain ⟨p, hp, rfl⟩ := List.mem_map.mp hq
      exact ofProperty ps properties p hp
    | @union alternatives oneOf =>
      apply isNormal_unionOf
      intro t ht
      obtain ⟨a, ha, rfl⟩ := List.mem_map.mp ht
      exact ofAlternative alternatives oneOf a ha
    | @reference name referred => exact isNormal_ref name
    | unknown => exact isNormal_unknown

/-- The type of a body is normal. -/
lemma isNormal_ofMedia (index : ReferenceIndex) (media : MediaType) :
    (ofMedia index media).IsNormal := by
  unfold ofMedia
  split
  · exact isNormal_ofSchema index _
  · exact isNormal_unknown

end TypeExpr

namespace Router.Procedure

open TypeExpr

variable (index : ReferenceIndex)

/-- The type of a query parameter is normal. -/
lemma isNormal_queryProperty (p : Parameter) : (queryProperty index p).type.IsNormal := by
  unfold queryProperty
  cases p.schema with
  | none => exact isNormal_unknown
  | some s => exact isNormal_ofSchema index s

/-- What an operation takes is normal. -/
lemma isNormal_inputType (op : Operation) : (inputType index op).IsNormal := by
  have hfields : ∀ p ∈ inputFields index op, p.type.IsNormal := by
    intro p hp
    rcases mem_inputFields hp with ⟨media, -, htype⟩ | htype
    · rw [htype]
      exact isNormal_ofMedia index media
    · rw [htype]
      apply isNormal_record
      intro q hq
      obtain ⟨param, -, rfl⟩ := List.mem_map.mp hq
      exact isNormal_queryProperty index param
  unfold inputType
  split
  · intro members part
    cases part
  · exact isNormal_record hfields

/-- What an operation gives is normal. -/
lemma isNormal_outputType (op : Operation) : (outputType index op).IsNormal := by
  apply isNormal_unionOf
  intro t ht
  obtain ⟨media, -, rfl⟩ := List.mem_map.mp ht
  exact isNormal_ofMedia index media

end Router.Procedure

open TypeExpr in
/-- Unions are always in normal form, and grouping does not matter: the type of every schema and the
two types of every procedure are normal, and a union of unions of normal expressions is the union of
all the expressions, if no group of them is empty. -/
theorem unions_normal_and_regrouped (index : ReferenceIndex) :
    (∀ s, (ofSchema index s).IsNormal) ∧
      (∀ m op, (Procedure.ofOperation index m op).input.IsNormal ∧
        (Procedure.ofOperation index m op).output.IsNormal) ∧
      ∀ groups : List (List TypeExpr), (∀ ts ∈ groups, ts ≠ [] ∧ ∀ t ∈ ts, t.IsNormal) →
        unionOf (groups.map unionOf) = unionOf groups.flatten := by
  refine ⟨isNormal_ofSchema index, fun m op => ⟨?_, ?_⟩, fun groups h => unionOf_map_unionOf h⟩
  · exact Procedure.isNormal_inputType index op
  · exact Procedure.isNormal_outputType index op

open TypeExpr in
/-- A union among the members of a union: its members move up, and the group of one member leaves no
trace. -/
theorem letters_regrouped :
    let letters : TypeExpr := .union [.literal (.string "a"), .literal (.string "b")]
    (letters.IsNormal ∧ string.IsNormal ∧ null.IsNormal) ∧
      unionOf [unionOf [.string], unionOf [letters, .null]] =
        unionOf [.string, letters, .null] := by
  intro letters
  have hletters : letters.IsNormal :=
    isNormal_ofSchema {} { variants := some [.string "a", .string "b"] }
  have hstring : string.IsNormal := isNormal_primitive .string
  have hnull : null.IsNormal := isNormal_primitive .null
  refine ⟨⟨hletters, hstring, hnull⟩, ?_⟩
  apply (unions_normal_and_regrouped {}).2.2 [[.string], [letters, .null]]
  simp [hletters, hstring, hnull]

end TypedRouter
