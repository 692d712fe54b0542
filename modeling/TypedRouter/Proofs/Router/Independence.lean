import TypedRouter.Proofs.Types.Meaning
import TypedRouter.Proofs.Types.Resolve
import TypedRouter.TypeScript.Module

/-!
# References are not inlined

What a component schema says shows in one place, in the declaration of the component itself.

The index of the components is handed down through all of resolution, to every schema inside a
schema, to every parameter and body, and to every path of the router tree.  Yet resolution gives
the same type with any two indexes, since all that a reference takes from the index is how the name
is spelled, and a name is spelled alike whether it is declared or not.  So two documents with the
same paths have the same router, whatever their components are, and a component has the same type in
any two documents that declare it with one schema.  If the schema of one component is replaced,
every other alias of the module stays as it is.
-/

namespace TypedRouter

open OpenApi

/-! ## Schemas -/

section Schemas

variable {s : Schema}

/-- The properties of a schema of the shape of an object are its own. -/
lemma properties_of_shape {properties : List (String × Schema)} {required : List String}
    (h : Shape.ofSchema s = .object properties required) : s.properties = some properties := by
  unfold Shape.ofSchema at h
  split at h
  · cases h
  · split at h
    · cases h
    · split at h
      · next ps _ hps =>
        cases h
        exact hps
      · split at h
        · cases h
        · split at h <;> cases h

/-- The members of a schema of the shape of a union are its own. -/
lemma oneOf_of_shape {members : List Schema} (h : Shape.ofSchema s = .union members) :
    s.oneOf = some members := by
  unfold Shape.ofSchema at h
  split at h
  · cases h
  · split at h
    · cases h
    · split at h
      · cases h
      · split at h
        · next alternatives halternatives =>
          cases h
          exact halternatives
        · split at h <;> cases h

end Schemas

section Indexes

variable (index other : ReferenceIndex)

/-- A schema has the same type with any two indexes. -/
theorem TypeExpr.ofSchema_congr : TypeExpr.ofSchema index = TypeExpr.ofSchema other := by
  funext s
  induction s using Schema.induction with
  | step s ofProperty ofAlternative =>
    rw [ofSchema_eq, ofSchema_eq]
    cases hshape : Shape.ofSchema s with
    | enum values => rfl
    | primitive p => rfl
    | object properties required =>
      have hproperties := properties_of_shape hshape
      rw [Shape.type_object, Shape.type_object]
      congr 1
      refine List.map_congr_left fun p hp => ?_
      rw [ofProperty properties hproperties p hp]
    | union members =>
      have hmembers := oneOf_of_shape hshape
      rw [Shape.type_union, Shape.type_union]
      congr 1
      exact List.map_congr_left (ofAlternative members hmembers)
    | reference name => simp
    | unknown => rfl

/-- So does a body. -/
lemma TypeExpr.ofMedia_congr : TypeExpr.ofMedia index = TypeExpr.ofMedia other := by
  funext media
  unfold ofMedia
  rw [ofSchema_congr index other]

namespace Router

/-- So does an operation: its parameters, its request and its successful responses. -/
lemma Procedure.ofOperation_congr :
    Procedure.ofOperation index = Procedure.ofOperation other := by
  have hmedia := TypeExpr.ofMedia_congr index other
  have hproperty : queryProperty index = queryProperty other := by
    funext p
    unfold queryProperty
    rw [TypeExpr.ofSchema_congr index other]
  have hfields : inputFields index = inputFields other := by
    funext op
    unfold inputFields
    rw [hmedia, hproperty]
  funext method op
  unfold ofOperation inputType outputType
  rw [hmedia, hfields]

/-- The router is built from the paths alone. -/
theorem Tree.build_congr : Tree.build index = Tree.build other := by
  have hitem : Procedure.ofItem index = Procedure.ofItem other := by
    funext item
    unfold Procedure.ofItem
    rw [Procedure.ofOperation_congr index other]
  have hvisit : Tree.visit index = Tree.visit other := by
    funext s path
    unfold visit
    rw [hitem]
  funext paths
  unfold build
  rw [hvisit]

/-- The declaration of a component is made from the component alone. -/
lemma Spec.declare_congr : Spec.declare index = Spec.declare other := by
  funext component
  unfold declare
  rw [TypeExpr.ofSchema_congr index other]

end Router

end Indexes

/-! ## Documents -/

/-- The document with another schema for a component, in the place of the one before. -/
def OpenApi.Document.withSchema (doc : Document) (name : String) (s : Schema) : Document :=
  { doc with
    components := doc.components.map fun components =>
      ⟨components.schemas.map fun component =>
        if component.1 = name then (name, s) else component⟩ }

namespace Router.Spec

variable {doc other : Document}

/-- A component that is exchanged stays in its place. -/
lemma schemas_withSchema (name : String) (s : Schema) :
    (doc.withSchema name s).schemas =
      doc.schemas.map fun component => if component.1 = name then (name, s) else component := by
  unfold Document.withSchema Document.schemas
  cases doc.components <;> rfl

/-- Documents with the same paths have the same router. -/
lemma root_congr (h : doc.paths = other.paths) :
    (ofDocument doc).root = (ofDocument other).root := by
  unfold ofDocument
  dsimp only
  rw [h, Tree.build_congr (.ofDocument doc) (.ofDocument other)]

/-- A component that two documents declare with one schema has one type in both. -/
lemma exists_typeOf?_of_lookup {name : String} {s : Schema}
    (h : doc.schemas.lookup name = some s) (hother : other.schemas.lookup name = some s) :
    ∃ t, (ofDocument doc).typeOf? name = some t ∧ (ofDocument other).typeOf? name = some t := by
  refine ⟨TypeExpr.ofSchema (.ofDocument doc) s, ?_, ?_⟩
  · rw [typeOf?_ofDocument, h, Option.map_some]
  · rw [typeOf?_ofDocument, hother, Option.map_some,
      TypeExpr.ofSchema_congr (.ofDocument other) (.ofDocument doc)]

/-- The declarations of all other components stay as they are. -/
lemma getElem?_declarations_withSchema {name : String} {s : Schema} {i : ℕ}
    (h : doc.schemas[i]?.map Prod.fst ≠ some name) :
    (ofDocument (doc.withSchema name s)).declarations[i]? = (ofDocument doc).declarations[i]? := by
  have hdeclare := declare_congr (.ofDocument (doc.withSchema name s)) (.ofDocument doc)
  unfold ofDocument
  dsimp only
  rw [hdeclare, schemas_withSchema, List.getElem?_map, List.getElem?_map, List.getElem?_map]
  cases hi : doc.schemas[i]? with
  | none => rfl
  | some component =>
    have hname : component.1 ≠ name := by simpa [hi] using h
    rw [Option.map_some, Option.map_some, Option.map_some, if_neg hname]

/-- What the components of a document say has no influence on its router.  It has none on the type
of a component either, but for what this component itself says: documents that declare a name with
one schema give it one type.  So a document with another schema for one component has the same
aliases at all places but that of this component. -/
theorem references_stay_names (doc other : Document) :
    (doc.paths = other.paths → (ofDocument doc).root = (ofDocument other).root) ∧
      (∀ name s, doc.schemas.lookup name = some s → other.schemas.lookup name = some s →
        ∃ t, (ofDocument doc).typeOf? name = some t ∧
          (ofDocument other).typeOf? name = some t) ∧
      ∀ name s (i : ℕ), doc.schemas[i]?.map Prod.fst ≠ some name →
        (TypeScript.Module.aliases (ofDocument (doc.withSchema name s)))[i]? =
          (TypeScript.Module.aliases (ofDocument doc))[i]? := by
  refine ⟨root_congr, fun name s => exists_typeOf?_of_lookup, fun name s i h => ?_⟩
  have hroot : (ofDocument (doc.withSchema name s)).root = (ofDocument doc).root := root_congr rfl
  have hsummary : TypeScript.Module.summary (ofDocument (doc.withSchema name s)) =
      TypeScript.Module.summary (ofDocument doc) := rfl
  have hdeclaration := getElem?_declarations_withSchema (s := s) h
  have hlength : (ofDocument (doc.withSchema name s)).declarations.length =
      (ofDocument doc).declarations.length := by
    simp [ofDocument, schemas_withSchema]
  unfold TypeScript.Module.aliases
  rw [hroot, hsummary, List.getElem?_append, List.getElem?_append, List.length_map,
    List.length_map, hlength, List.getElem?_map, List.getElem?_map, hdeclaration]

/-- A reference to the nodes. -/
def nodeReference : Schema where
  reference := some "#/components/schemas/Node"

/-- A node can have a next one. -/
def nodeSchema : Schema where
  types := [.object]
  properties := some [("next", nodeReference)]

/-- An operation that gives a node. -/
def nodeOperation : Operation where
  responses := [("200", .item { content := [(jsonMediaType, { schema := some nodeReference })] })]

/-- A document whose operation refers to a component that refers to itself, beside another
component. -/
def nodeDocument (owner : Schema) : Document where
  paths := [("/nodes", { get := some nodeOperation })]
  components := some { schemas := [("Node", nodeSchema), ("Owner", owner)] }

/-- Whatever is done to the owner, the nodes keep their type and the router its own. -/
theorem nodes_stay_nodes :
    (ofDocument (nodeDocument {})).root = (ofDocument (nodeDocument nodeSchema)).root ∧
      (∃ t, (ofDocument (nodeDocument {})).typeOf? "Node" = some t ∧
        (ofDocument (nodeDocument nodeSchema)).typeOf? "Node" = some t) ∧
      (TypeScript.Module.aliases
          (ofDocument ((nodeDocument {}).withSchema "Owner" nodeSchema)))[0]? =
        (TypeScript.Module.aliases (ofDocument (nodeDocument {})))[0]? := by
  obtain ⟨hroot, htype, halias⟩ := references_stay_names (nodeDocument {}) (nodeDocument nodeSchema)
  exact ⟨hroot rfl, htype "Node" nodeSchema rfl rfl, halias "Owner" nodeSchema 0 (by decide)⟩

end Router.Spec

end TypedRouter
