import TypedRouter.Router.Spec
import Mathlib.Tactic.Common

/-!
# What schemas and types mean

A schema and a type expression both say which JSON values they stand for.  A value *conforms* to a
schema of a document if every keyword that is set accepts it; a value *inhabits* a type expression
if it has the form that the expression describes, where a reference stands for the type of its
declaration.  Both are least relations: a component that refers to nothing but itself accepts
nothing, and its type holds nothing.

The resolved type of a schema holds every value that conforms to the schema.  One keyword decides
the type and the others are dropped, so the type may hold more.  The proof follows the derivation
that a value conforms, not the schema: a reference leads to a schema that is not a part of the one
it stands in, but the derivation for the component is a part of the derivation at hand.
-/

namespace TypedRouter

open OpenApi
open Json (Value)
open Router (Spec Procedure)

/-! ## Conforming to a schema -/

/-- A double without a fractional part. -/
def Binary64.IsWhole (x : Binary64) : Prop := x.ratio.2 ∣ x.ratio.1

/-- A value has a type that the `type` keyword names.  A name that is not recognised is no type of
any value. -/
def OpenApi.SchemaType.Holds : SchemaType → Value → Prop
  | .string, .string _ => True
  | .integer, .number (.int _) => True
  | .integer, .number (.float x) => x.IsWhole
  | .number, .number _ => True
  | .boolean, .bool _ => True
  | .array, .array _ => True
  | .object, .object _ => True
  | .null, .null => True
  | _, _ => False

mutual

/-- A value conforms to a schema of a document: every keyword that is set accepts it. -/
inductive Conforms (doc : Document) : Schema → Value → Prop
  | intro {s : Schema} {v : Value}
      (variants : ∀ values, s.variants = some values → ∃ w ∈ values, w.same v = true)
      (types : s.types ≠ [] → ∃ t ∈ s.types, t.Holds v)
      (required : ∀ members, v = .object members →
        ∀ name ∈ s.required, ∃ w, members.lookup name = some w)
      (properties : ∀ members, v = .object members → ∀ ps, s.properties = some ps →
        ∀ p ∈ ps, ∀ w, members.lookup p.1 = some w → Conforms doc p.2 w)
      (oneOf : ∀ alternatives, s.oneOf = some alternatives → ConformsToSome doc alternatives v)
      (reference : ∀ name, s.referredName? = some name → ConformsToComponent doc name v) :
      Conforms doc s v

/-- A value conforms to some of the alternatives. -/
inductive ConformsToSome (doc : Document) : List Schema → Value → Prop
  | intro {alternatives : List Schema} {s : Schema} {v : Value} (mem : s ∈ alternatives)
      (conforms : Conforms doc s v) : ConformsToSome doc alternatives v

/-- A value conforms to the component of a name, which has to be declared. -/
inductive ConformsToComponent (doc : Document) : String → Value → Prop
  | intro {name : String} {s : Schema} {v : Value} (declared : doc.schemas.lookup name = some s)
      (conforms : Conforms doc s v) : ConformsToComponent doc name v

end

/-- A value conforms to the schema of a body, if the body has one. -/
def ConformsToMedia (doc : Document) (media : MediaType) (v : Value) : Prop :=
  ∀ s, media.schema = some s → Conforms doc s v

/-! ## Inhabiting a type -/

/-- The type that a specification declares for a name. -/
def Router.Spec.typeOf? (spec : Spec) (name : String) : Option TypeExpr :=
  (spec.declarations.find? fun d => d.name == name).map Router.Declaration.type

/-- A value is the one that a literal type holds. -/
def Literal.Holds : Literal → Value → Prop
  | .string s, .string t => s = t
  | .number n, .number m => n.same m = true
  | .bool b, .bool c => b = c
  | _, _ => False

/-- A value inhabits a type expression whose references are declared by a specification.  No value
inhabits the type of an input that is not there. -/
inductive Inhabits (spec : Spec) : TypeExpr → Value → Prop
  | string (s : String) : Inhabits spec .string (.string s)
  | number (n : Json.Number) : Inhabits spec .number (.number n)
  | boolean (b : Bool) : Inhabits spec .boolean (.bool b)
  | null : Inhabits spec .null .null
  | unknown (v : Value) : Inhabits spec .unknown v
  | literal {l : Literal} {v : Value} (holds : l.Holds v) : Inhabits spec (.literal l) v
  | record {properties : List (Property TypeExpr)} {members : List (String × Value)}
      (complete : ∀ p ∈ properties, p.mayLack = false → ∃ w, members.lookup p.name = some w)
      (typed : ∀ p ∈ properties, ∀ w, members.lookup p.name = some w → Inhabits spec p.type w) :
      Inhabits spec (.record properties) (.object members)
  | union {members : List TypeExpr} {t : TypeExpr} {v : Value} (mem : t ∈ members)
      (inhabits : Inhabits spec t v) : Inhabits spec (.union members) v
  | ref {name : String} {t : TypeExpr} {v : Value} (declared : spec.typeOf? name = some t)
      (inhabits : Inhabits spec t v) : Inhabits spec (.ref name) v

/-! ## Each rule of resolution -/

section Rules

variable {spec : Spec} {v : Value}

/-- What inhabits an alternative inhabits the alternatives that it contributes to a union. -/
lemma exists_inhabits_of_alternatives {t : TypeExpr} (h : Inhabits spec t v) :
    ∃ u ∈ t.alternatives, Inhabits spec u v := by
  cases h with
  | union mem inhabits => exact ⟨_, mem, inhabits⟩
  | _ => exact ⟨_, List.mem_singleton_self _, by constructor <;> assumption⟩

/-- What inhabits a member inhabits the union, flat or not. -/
lemma inhabits_unionOf {t : TypeExpr} {ts : List TypeExpr} (ht : t ∈ ts)
    (h : Inhabits spec t v) : Inhabits spec (.unionOf ts) v := by
  obtain ⟨u, hu, hv⟩ := exists_inhabits_of_alternatives h
  have hmem : u ∈ ts.flatMap TypeExpr.alternatives := List.mem_flatMap.mpr ⟨t, ht, hu⟩
  unfold TypeExpr.unionOf
  split
  · exact .unknown v
  · next w hw =>
    rw [hw, List.mem_singleton] at hmem
    exact hmem ▸ hv
  · exact .union hmem hv

/-- A value inhabits the type of every variant that it equals. -/
lemma inhabits_ofVariant {w : Value} (h : w.same v = true) :
    Inhabits spec (.ofVariant w) v := by
  cases w <;> cases v <;> simp only [Value.same, Bool.false_eq_true, beq_iff_eq] at h
  case null.null => exact .null
  case bool.bool b c => exact .literal h
  case number.number n m => exact .literal h
  case string.string s t => exact .literal h
  all_goals exact .unknown _

/-- A value of the type that a primitive name stands for inhabits the primitive type. -/
lemma inhabits_primitive {t : SchemaType} {p : Primitive} (hp : t.primitive? = some p)
    (h : t.Holds v) : Inhabits spec p.type v := by
  cases t <;> cases hp <;> cases v <;> first | exact h.elim | constructor

/-- An object inhabits the record of a schema if it has all required members and its named
members inhabit their types. -/
lemma inhabits_ofProperties {index : ReferenceIndex} {names : List String}
    {ps : List (String × Schema)} {members : List (String × Value)}
    (required : ∀ name ∈ names, ∃ w, members.lookup name = some w)
    (properties : ∀ p ∈ ps, ∀ w, members.lookup p.1 = some w →
      Inhabits spec (.ofSchema index p.2) w) :
    Inhabits spec (.record (TypeExpr.ofProperties index names ps)) (.object members) := by
  rw [TypeExpr.ofProperties_eq_map]
  refine .record ?complete ?typed
  case complete =>
    rintro property hproperty hneeded
    obtain ⟨p, -, rfl⟩ := List.mem_map.mp hproperty
    exact required p.1 (by simpa using hneeded)
  case typed =>
    rintro property hproperty w hw
    obtain ⟨p, hp, rfl⟩ := List.mem_map.mp hproperty
    exact properties p hp w hw

/-- The keyword that decides the type of a schema is enough for a value to inhabit the type. -/
lemma inhabits_ofSchema {index : ReferenceIndex} {s : Schema}
    (variants : ∀ values, s.variants = some values → ∃ w ∈ values, w.same v = true)
    (types : s.types ≠ [] → ∃ t ∈ s.types, t.Holds v)
    (required : ∀ members, v = .object members →
      ∀ name ∈ s.required, ∃ w, members.lookup name = some w)
    (properties : ∀ members, v = .object members → ∀ ps, s.properties = some ps →
      ∀ p ∈ ps, ∀ w, members.lookup p.1 = some w → Inhabits spec (.ofSchema index p.2) w)
    (oneOf : ∀ alternatives, s.oneOf = some alternatives →
      ∃ a ∈ alternatives, Inhabits spec (.ofSchema index a) v)
    (reference : ∀ name, s.referredName? = some name → Inhabits spec (.ref name) v) :
    Inhabits spec (.ofSchema index s) v := by
  have htype : ∀ t, s.singleType? = some t → t.Holds v := by
    intro t ht
    unfold Schema.singleType? SchemaType.single? at ht
    split at ht
    · next u hu =>
      obtain ⟨w, hw, hv⟩ := types (by simp [hu])
      rw [hu, List.mem_singleton] at hw
      exact Option.some.inj ht ▸ hw ▸ hv
    · cases ht
  rw [TypeExpr.ofSchema_eq]
  unfold Shape.ofSchema
  -- one case for each keyword that decides, in the order in which they are looked at
  split
  · next values hvalues =>
    obtain ⟨w, hw, hsame⟩ := variants values hvalues
    exact inhabits_unionOf (List.mem_map_of_mem hw) (inhabits_ofVariant hsame)
  · split
    · next p hp =>
      obtain ⟨t, ht, hprimitive⟩ := Option.bind_eq_some_iff.mp hp
      exact inhabits_primitive hprimitive (htype t ht)
    · split
      · next ps hobject hps =>
        cases v with
        | object members =>
          exact inhabits_ofProperties (required members rfl) (properties members rfl ps hps)
        | _ => exact (htype _ hobject).elim
      · split
        · next alternatives halternatives =>
          obtain ⟨a, ha, hv⟩ := oneOf alternatives halternatives
          rw [Shape.type_union]
          exact inhabits_unionOf (List.mem_map_of_mem ha) hv
        · split
          · next name hname => simpa using reference name hname
          · exact .unknown v

end Rules

/-! ## Derivations -/

section Derivations

variable {doc : Document} {v : Value}

/-- The declaration of a component has the type of its schema. -/
lemma typeOf?_ofDocument (name : String) :
    (Spec.ofDocument doc).typeOf? name =
      (doc.schemas.lookup name).map (TypeExpr.ofSchema (.ofDocument doc)) := by
  have h : ∀ components : List (String × Schema),
      ((components.map (Spec.declare (.ofDocument doc))).find? fun d => d.name == name).map
          Router.Declaration.type =
        (components.lookup name).map (TypeExpr.ofSchema (.ofDocument doc)) := by
    intro components
    induction components with
    | nil => rfl
    | cons c components ih =>
      obtain ⟨k, s⟩ := c
      by_cases hk : k = name
      · subst hk
        simp [Spec.declare]
      · have hkey : (k == name) = false := beq_false_of_ne hk
        have hlookup : (name == k) = false := beq_false_of_ne (Ne.symm hk)
        rw [List.map_cons, List.find?_cons_of_neg (by simp [Spec.declare, hkey]), ih,
          List.lookup_cons, hlookup]
  exact h doc.schemas

mutual

/-- What conforms to a schema inhabits its type. -/
lemma inhabits_of_conforms {s : Schema} {v : Value} (h : Conforms doc s v) :
    Inhabits (Spec.ofDocument doc) (.ofSchema (.ofDocument doc) s) v := by
  match h with
  | .intro variants types required properties oneOf reference =>
    exact inhabits_ofSchema variants types required
      (fun members hv ps hps p hp w hw =>
        inhabits_of_conforms (properties members hv ps hps p hp w hw))
      (fun alternatives ha => exists_inhabits_of_conformsToSome (oneOf alternatives ha))
      (fun name hname => inhabits_ref_of_conformsToComponent (reference name hname))

/-- What conforms to some alternative inhabits the type of one. -/
lemma exists_inhabits_of_conformsToSome {alternatives : List Schema} {v : Value}
    (h : ConformsToSome doc alternatives v) :
    ∃ a ∈ alternatives, Inhabits (Spec.ofDocument doc) (.ofSchema (.ofDocument doc) a) v := by
  match h with
  | .intro mem conforms => exact ⟨_, mem, inhabits_of_conforms conforms⟩

/-- What conforms to a component inhabits references to it. -/
lemma inhabits_ref_of_conformsToComponent {name : String} {v : Value}
    (h : ConformsToComponent doc name v) : Inhabits (Spec.ofDocument doc) (.ref name) v := by
  match h with
  | .intro declared conforms =>
    exact .ref (by rw [typeOf?_ofDocument, declared, Option.map_some])
      (inhabits_of_conforms conforms)

end

/-- What conforms to the schema of a body inhabits the type of the body. -/
lemma inhabits_of_conformsToMedia {media : MediaType} (h : ConformsToMedia doc media v) :
    Inhabits (Spec.ofDocument doc) (.ofMedia (.ofDocument doc) media) v := by
  unfold TypeExpr.ofMedia
  split
  · next s hs => exact inhabits_of_conforms (h s hs)
  · exact .unknown v

end Derivations

/-- Resolved types mean what the schemas mean: a value that conforms to a schema of a document
inhabits the type that the schema is resolved to, and a value that conforms to the JSON content of
a successful response of an operation inhabits the type of what the operation gives. -/
theorem resolved_types_sound (doc : Document) :
    (∀ s v, Conforms doc s v →
        Inhabits (Spec.ofDocument doc) (.ofSchema (.ofDocument doc) s) v) ∧
      ∀ op : Operation, ∀ media ∈ op.jsonSuccesses, ∀ v, ConformsToMedia doc media v →
        Inhabits (Spec.ofDocument doc) (Procedure.outputType (.ofDocument doc) op) v := by
  refine ⟨fun s v h => inhabits_of_conforms h, fun op media hmedia v h => ?_⟩
  exact inhabits_unionOf (List.mem_map_of_mem hmedia) (inhabits_of_conformsToMedia h)

/-- A schema whose values may hold a further value of the component of the same schema. -/
def nodeSchema : Schema where
  types := [.object]
  properties := some [("value", { types := [.integer] }),
    ("next", { reference := some "#/components/schemas/Node" })]
  required := ["value"]

/-- A document whose only component refers to itself. -/
def nodeDocument : Document where
  components := some { schemas := [("Node", nodeSchema)] }

/-- A value conforms to a schema that sets nothing but `type` if it has one of the types. -/
lemma conforms_types {doc : Document} {ts : List SchemaType} {v : Value}
    (h : ∃ t ∈ ts, t.Holds v) : Conforms doc { types := ts } v := by
  refine .intro ?_ (fun _ => h) ?_ ?_ ?_ ?_
  · rintro values ⟨⟩
  · rintro members - name hname
    cases hname
  · rintro members - ps ⟨⟩
  · rintro alternatives ⟨⟩
  · rintro name ⟨⟩

/-- A value conforms to a schema that is a reference if it conforms to the component. -/
lemma conforms_reference {doc : Document} {path name : String} {v : Value}
    (hname : componentName? path = some name) (h : ConformsToComponent doc name v) :
    Conforms doc { reference := some path } v := by
  refine .intro ?_ (fun hnil => absurd rfl hnil) ?_ ?_ ?_ ?_
  · rintro values ⟨⟩
  · rintro members - name hname
    cases hname
  · rintro members - ps ⟨⟩
  · rintro alternatives ⟨⟩
  · intro other hother
    obtain rfl : name = other := Option.some.inj (hname.symm.trans hother)
    exact h

/-- An object with an integer and perhaps a further object of the same kind conforms. -/
lemma conforms_node {members : List (String × Value)} {n : Int}
    (hvalue : members.lookup "value" = some (.number (.int n)))
    (hnext : ∀ w, members.lookup "next" = some w → Conforms nodeDocument nodeSchema w) :
    Conforms nodeDocument nodeSchema (.object members) := by
  refine .intro ?_ (fun _ => ⟨.object, by simp [nodeSchema], trivial⟩) ?_ ?_ ?_ ?_
  · rintro values ⟨⟩
  · rintro _ ⟨⟩ name hname
    obtain rfl : name = "value" := by simpa [nodeSchema] using hname
    exact ⟨_, hvalue⟩
  · rintro _ ⟨⟩ ps ⟨⟩ p hp w hw
    rcases List.mem_cons.mp hp with rfl | hp
    · obtain rfl : Value.number (.int n) = w := Option.some.inj (hvalue.symm.trans hw)
      exact conforms_types ⟨.integer, by simp, trivial⟩
    · obtain rfl := List.mem_singleton.mp hp
      exact conforms_reference (by decide : _ = some "Node") (.intro rfl (hnext w hw))
  · rintro alternatives ⟨⟩
  · rintro name ⟨⟩

/-- An object with a further one inside inhabits the type of the component that refers to itself. -/
theorem resolved_node_sound :
    let v : Value := .object [("value", .number (.int 1)),
      ("next", .object [("value", .number (.int 2))])]
    Conforms nodeDocument nodeSchema v ∧
      Inhabits (Spec.ofDocument nodeDocument)
        (.record [⟨"value", false, .number⟩, ⟨"next", true, .ref "Node"⟩]) v := by
  have hlast : Conforms nodeDocument nodeSchema (.object [("value", .number (.int 2))]) :=
    conforms_node rfl (by rintro w ⟨⟩)
  have hnode : Conforms nodeDocument nodeSchema (.object [("value", .number (.int 1)),
      ("next", .object [("value", .number (.int 2))])]) :=
    conforms_node rfl (by rintro w ⟨⟩; exact hlast)
  refine ⟨hnode, ?_⟩
  have htype : TypeExpr.ofSchema (.ofDocument nodeDocument) nodeSchema =
      .record [⟨"value", false, .number⟩, ⟨"next", true, .ref "Node"⟩] := by rfl
  exact htype ▸ (resolved_types_sound nodeDocument).1 nodeSchema _ hnode

end TypedRouter
