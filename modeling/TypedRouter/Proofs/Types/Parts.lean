import TypedRouter.Proofs.Types.Resolve
import TypedRouter.Router.Spec

/-!
# The parts of a type expression

An expression is a part of another if it stands somewhere inside it, at any depth, or is the
expression itself.  An expression refers to a name if a reference to the name is a part of it.

Resolving a schema invents no reference: whatever name the type of a schema refers to, the schema
itself refers to, in the sense of `schemaRefs`.  The two are computed by traversals that have
nothing in common.  The type follows the one keyword that decides, and the collected names come from
all keywords, so the schema may refer to more names than its type.
-/

namespace TypedRouter

open OpenApi Router

/-! ## Parts -/

namespace TypeExpr

/-- An expression stands somewhere inside another, or is the other. -/
inductive IsPart (u : TypeExpr) : TypeExpr → Prop
  | refl : IsPart u u
  | property {properties : List (Property TypeExpr)} {p : Property TypeExpr}
      (mem : p ∈ properties) (part : IsPart u p.type) : IsPart u (.record properties)
  | member {members : List TypeExpr} {t : TypeExpr} (mem : t ∈ members) (part : IsPart u t) :
      IsPart u (.union members)

/-- Induction over type expressions: what holds of an expression as soon as it holds of the types of
its properties and of its members holds of every expression. -/
@[elab_as_elim]
theorem induction {P : TypeExpr → Prop}
    (step : ∀ t : TypeExpr, (∀ properties, t = .record properties → ∀ p ∈ properties, P p.type) →
      (∀ members, t = .union members → ∀ m ∈ members, P m) → P t)
    (t : TypeExpr) : P t :=
  step t (fun _ _hrecord p _hp => induction step p.type)
    fun _ _hunion m _hm => induction step m
termination_by sizeOf t
decreasing_by
  · obtain ⟨name, mayLack, u⟩ := p
    subst _hrecord
    have hsize := List.sizeOf_lt_of_mem _hp
    simp only [Property.mk.sizeOf_spec, record.sizeOf_spec] at hsize ⊢
    omega
  · subst _hunion
    have hsize := List.sizeOf_lt_of_mem _hm
    simp only [union.sizeOf_spec] at hsize ⊢
    omega

/-- An expression refers to a name somewhere inside it. -/
def RefersTo (t : TypeExpr) (name : String) : Prop := (ref name).IsPart t

variable {name : String}

/-- What an alternative refers to, the expression does. -/
lemma RefersTo.of_mem_alternatives {t u : TypeExpr} (mem : t ∈ u.alternatives)
    (h : t.RefersTo name) : u.RefersTo name := by
  unfold alternatives at mem
  split at mem
  · exact .member mem h
  · obtain rfl := List.mem_singleton.mp mem
    exact h

/-- A union refers only to names that one of its members refers to, flat or not. -/
lemma RefersTo.of_unionOf {ts : List TypeExpr} (h : (unionOf ts).RefersTo name) :
    ∃ t ∈ ts, t.RefersTo name := by
  have hmember : ∀ u ∈ ts.flatMap alternatives, u.RefersTo name →
      ∃ t ∈ ts, t.RefersTo name := by
    intro u hu hname
    obtain ⟨t, ht, hut⟩ := List.mem_flatMap.mp hu
    exact ⟨t, ht, hname.of_mem_alternatives hut⟩
  unfold unionOf at h
  split at h
  · cases h
  · next u hu => exact hmember u (hu ▸ List.mem_singleton_self u) h
  · cases h with
    | member mem part => exact hmember _ mem part

end TypeExpr

/-! ## The names that a schema refers to -/

section Schemas

variable {name : String}

/-- The references of properties, one property after the other. -/
@[simp] lemma namedRefs_eq_flatMap (ps : List (String × Schema)) :
    namedRefs ps = ps.flatMap fun p => schemaRefs p.2 := by
  induction ps with
  | nil => rfl
  | cons p ps ih => rw [namedRefs, ih, List.flatMap_cons]

/-- The references of schemas, one schema after the other. -/
@[simp] lemma itemRefs_eq_flatMap (ss : List Schema) : itemRefs ss = ss.flatMap schemaRefs := by
  induction ss with
  | nil => rfl
  | cons s ss ih => rw [itemRefs, ih, List.flatMap_cons]

/-- A schema refers to the component that its own reference names, and to what its properties and
alternatives refer to. -/
lemma mem_schemaRefs_iff {s : Schema} :
    name ∈ schemaRefs s ↔ s.referredName? = some name ∨
      (∃ ps, s.properties = some ps ∧ ∃ p ∈ ps, name ∈ schemaRefs p.2) ∨
        ∃ alternatives, s.oneOf = some alternatives ∧ ∃ a ∈ alternatives, name ∈ schemaRefs a := by
  obtain ⟨reference, types, description, properties, required, variants, oneOf⟩ := s
  have hproperties : name ∈ propertyRefs properties ↔
      ∃ ps, properties = some ps ∧ ∃ p ∈ ps, name ∈ schemaRefs p.2 := by
    cases properties <;> simp [propertyRefs]
  have hmembers : name ∈ memberRefs oneOf ↔
      ∃ alternatives, oneOf = some alternatives ∧ ∃ a ∈ alternatives, name ∈ schemaRefs a := by
    cases oneOf <;> simp [memberRefs]
  simp only [schemaRefs, List.mem_append, Option.mem_toList, hproperties, hmembers, or_assoc,
    Schema.referredName?]

/-- The type of a schema refers only to names that the schema refers to. -/
theorem mem_schemaRefs_of_refersTo {index : ReferenceIndex} {s : Schema}
    (h : (TypeExpr.ofSchema index s).RefersTo name) : name ∈ schemaRefs s := by
  induction s using Schema.induction with
  | step s ofProperty ofAlternative =>
    rw [mem_schemaRefs_iff]
    have hresolved := resolved_ofSchema index s
    generalize TypeExpr.ofSchema index s = t at h hresolved
    cases hresolved with
    | enum variants =>
      obtain ⟨t, ht, hname⟩ := TypeExpr.RefersTo.of_unionOf h
      obtain ⟨value, -, rfl⟩ := List.mem_map.mp ht
      cases value <;> cases hname
    | @primitive p type => cases p <;> cases h
    | @object ps type properties =>
      cases h with
      | property mem part =>
        obtain ⟨p, hp, rfl⟩ := List.mem_map.mp mem
        exact .inr (.inl ⟨ps, properties, p, hp, ofProperty ps properties p hp part⟩)
    | @union alternatives oneOf =>
      obtain ⟨t, ht, hname⟩ := TypeExpr.RefersTo.of_unionOf h
      obtain ⟨a, ha, rfl⟩ := List.mem_map.mp ht
      exact .inr (.inr ⟨alternatives, oneOf, a, ha, ofAlternative alternatives oneOf a ha hname⟩)
    | reference referred =>
      cases h
      exact .inl referred
    | unknown => cases h

/-- The type of a body refers only to names that its schema refers to. -/
lemma exists_schema_of_refersTo {index : ReferenceIndex} {media : MediaType}
    (h : (TypeExpr.ofMedia index media).RefersTo name) :
    ∃ s, media.schema = some s ∧ name ∈ schemaRefs s := by
  unfold TypeExpr.ofMedia at h
  split at h
  · next s hs => exact ⟨s, hs, mem_schemaRefs_of_refersTo h⟩
  · cases h

end Schemas

end TypedRouter
