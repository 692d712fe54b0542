import TypedRouter.Types.Resolve
import Mathlib.Tactic.Common

/-!
# The rules of resolution

What the resolved type of a schema can be, told once.  Each rule names the keyword that decides the
type and what the type is built from, so a fact about all resolved types is proved by cases on the
rule, with no look at the order in which the keywords are tried.

A schema holds other schemas in two places, in its properties and in its alternatives; the
induction principle over schemas has one hypothesis for each.
-/

namespace TypedRouter

open OpenApi

/-- Induction over schemas: what holds of a schema as soon as it holds of the schemas of its
properties and of its alternatives holds of every schema. -/
@[elab_as_elim]
theorem OpenApi.Schema.induction {P : Schema → Prop}
    (step : ∀ s : Schema, (∀ ps, s.properties = some ps → ∀ p ∈ ps, P p.2) →
      (∀ alternatives, s.oneOf = some alternatives → ∀ a ∈ alternatives, P a) → P s)
    (s : Schema) : P s :=
  step s (fun _ _hps p _hp => Schema.induction step p.2)
    fun _ _halternatives a _ha => Schema.induction step a
termination_by sizeOf s
decreasing_by
  · obtain ⟨reference, types, description, properties, required, variants, oneOf⟩ := s
    obtain ⟨name, q⟩ := p
    cases _hps
    have hsize := List.sizeOf_lt_of_mem _hp
    simp only [Prod.mk.sizeOf_spec, Schema.mk.sizeOf_spec, Option.some.sizeOf_spec] at hsize ⊢
    omega
  · obtain ⟨reference, types, description, properties, required, variants, oneOf⟩ := s
    cases _halternatives
    have hsize := List.sizeOf_lt_of_mem _ha
    simp only [Schema.mk.sizeOf_spec, Option.some.sizeOf_spec] at hsize ⊢
    omega

/-- The types that a schema can be resolved to, by the keyword that decides. -/
inductive Resolved (index : ReferenceIndex) (s : Schema) : TypeExpr → Prop
  | enum {values : List Json.Value} (variants : s.variants = some values) :
      Resolved index s (.unionOf (values.map .ofVariant))
  | primitive {p : Primitive} (type : s.singleType?.bind SchemaType.primitive? = some p) :
      Resolved index s p.type
  | object {ps : List (String × Schema)} (type : s.singleType? = some .object)
      (properties : s.properties = some ps) :
      Resolved index s
        (.record (ps.map fun p => ⟨p.1, !s.required.contains p.1, .ofSchema index p.2⟩))
  | union {alternatives : List Schema} (oneOf : s.oneOf = some alternatives) :
      Resolved index s (.unionOf (alternatives.map (.ofSchema index)))
  | reference {name : String} (referred : s.referredName? = some name) :
      Resolved index s (.ref name)
  | unknown : Resolved index s .unknown

/-- Every schema is resolved by one of the rules. -/
theorem resolved_ofSchema (index : ReferenceIndex) (s : Schema) :
    Resolved index s (.ofSchema index s) := by
  rw [TypeExpr.ofSchema_eq]
  unfold Shape.ofSchema
  split
  · next values variants => exact .enum variants
  · split
    · next p type => exact .primitive type
    · split
      · next ps type properties =>
        rw [Shape.type_object]
        exact .object type properties
      · split
        · next alternatives oneOf =>
          rw [Shape.type_union]
          exact .union oneOf
        · split
          · next name referred =>
            rw [Shape.type_reference]
            exact .reference referred
          · exact .unknown

end TypedRouter
