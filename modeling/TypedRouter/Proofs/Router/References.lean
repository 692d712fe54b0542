import TypedRouter.Proofs.Router.Leaves
import TypedRouter.Proofs.Types.Parts

/-!
# References of a specification

Every name that a specification refers to is accounted for: it is declared, or it is reported as
dangling.

The names are found twice, on ways that do not meet.  The references that are emitted come out of
resolved types, those of the declarations and those of the procedures at the leaves of the router
tree.  The names that may dangle are collected from the schemas of the document, before anything is
resolved.  Both ways start at the same schemas: a procedure is made from the schemas of its query
parameters, of its request and of its successful responses, and these are the schemas that the
collection starts from.
-/

namespace TypedRouter.Router

open OpenApi

variable {name : String}

/-! ## Procedures -/

section Procedures

variable {index : ReferenceIndex} {op : Operation}

/-- The query record refers only to names of the schemas of the query parameters. -/
lemma exists_schema_of_refersTo_queryProperty {p : Parameter}
    (h : (Procedure.queryProperty index p).type.RefersTo name) :
    ∃ s, p.schema = some s ∧ name ∈ schemaRefs s := by
  unfold Procedure.queryProperty at h
  cases hs : p.schema with
  | none =>
    rw [hs] at h
    cases h
  | some s =>
    rw [hs] at h
    exact ⟨s, rfl, mem_schemaRefs_of_refersTo h⟩

/-- The fields of an input are the request, with the type of its body, and the record of the query
parameters. -/
lemma mem_inputFields {p : Property TypeExpr} (h : p ∈ Procedure.inputFields index op) :
    (∃ media, op.jsonRequest? = some media ∧ p.type = TypeExpr.ofMedia index media) ∨
      p.type = .record (op.queryParameters.map (Procedure.queryProperty index)) := by
  unfold Procedure.inputFields at h
  rcases List.mem_append.mp h with hdata | hquery
  · left
    cases hmedia : op.jsonRequest? with
    | none => simp [hmedia] at hdata
    | some media =>
      obtain rfl : p = ⟨"data", false, TypeExpr.ofMedia index media⟩ := by
        simpa [hmedia] using hdata
      exact ⟨media, rfl, rfl⟩
  · right
    cases hparams : op.queryParameters with
    | nil => simp [hparams] at hquery
    | cons q qs =>
      simp only [hparams, List.mem_singleton] at hquery
      rw [hquery]

/-- What an operation takes refers only to names of its schemas. -/
lemma mem_schemaRefs_of_inputType (h : (Procedure.inputType index op).RefersTo name) :
    name ∈ (operationSchemas op).flatMap schemaRefs := by
  have hproperty : ∃ p ∈ Procedure.inputFields index op, p.type.RefersTo name := by
    unfold Procedure.inputType at h
    split at h
    · cases h
    · cases h with
      | property mem part => exact ⟨_, mem, part⟩
  obtain ⟨p, hp, hname⟩ := hproperty
  unfold operationSchemas
  rw [List.flatMap_append, List.flatMap_append]
  rcases mem_inputFields hp with ⟨media, hmedia, htype⟩ | htype
  · rw [htype] at hname
    obtain ⟨s, hs, hrefs⟩ := exists_schema_of_refersTo hname
    have hmem : s ∈ (op.jsonRequest?.bind MediaType.schema).toList := by simp [hmedia, hs]
    exact List.mem_append_left _
      (List.mem_append_right _ (List.mem_flatMap.mpr ⟨s, hmem, hrefs⟩))
  · rw [htype] at hname
    cases hname with
    | property mem part =>
      obtain ⟨q, hq, rfl⟩ := List.mem_map.mp mem
      obtain ⟨s, hs, hrefs⟩ := exists_schema_of_refersTo_queryProperty part
      have hmem : s ∈ op.queryParameters.filterMap Parameter.schema :=
        List.mem_filterMap.mpr ⟨q, hq, hs⟩
      exact List.mem_append_left _
        (List.mem_append_left _ (List.mem_flatMap.mpr ⟨s, hmem, hrefs⟩))

/-- What an operation gives refers only to names of its schemas. -/
lemma mem_schemaRefs_of_outputType (h : (Procedure.outputType index op).RefersTo name) :
    name ∈ (operationSchemas op).flatMap schemaRefs := by
  obtain ⟨t, ht, hname⟩ := TypeExpr.RefersTo.of_unionOf h
  obtain ⟨media, hmedia, rfl⟩ := List.mem_map.mp ht
  obtain ⟨s, hs, hrefs⟩ := exists_schema_of_refersTo hname
  have hmem : s ∈ op.jsonSuccesses.filterMap MediaType.schema :=
    List.mem_filterMap.mpr ⟨media, hmedia, hs⟩
  unfold operationSchemas
  rw [List.flatMap_append]
  exact List.mem_append_right _ (List.mem_flatMap.mpr ⟨s, hmem, hrefs⟩)

end Procedures

/-! ## Specifications -/

namespace Spec

/-- A type that a specification writes out: that of a declaration, or one of the two of a procedure
of the router. -/
def Writes (spec : Spec) (t : TypeExpr) : Prop :=
  (∃ d ∈ spec.declarations, t = d.type) ∨
    ∃ leaf ∈ spec.root.leaves, t = leaf.2.input ∨ t = leaf.2.output

/-- The names that a specification declares. -/
def names (spec : Spec) : List String := spec.declarations.map Declaration.name

/-- The names that a document declares are those of its reference index. -/
lemma names_ofDocument (doc : Document) :
    (ofDocument doc).names = (ReferenceIndex.ofDocument doc).names := by
  unfold names ofDocument ReferenceIndex.names ReferenceIndex.ofDocument
  rw [List.map_map]
  rfl

variable {doc : Document}

/-- Whatever the types of a specification refer to, the schemas of the document refer to. -/
lemma mem_schemaRefs_of_writes {t : TypeExpr} (writes : (ofDocument doc).Writes t)
    (h : t.RefersTo name) : name ∈ (rootSchemas doc).flatMap schemaRefs := by
  unfold rootSchemas
  rw [List.flatMap_append]
  rcases writes with ⟨d, hd, rfl⟩ | ⟨leaf, hleaf, htype⟩
  · obtain ⟨component, hcomponent, rfl⟩ := List.mem_map.mp hd
    have hmem : component.2 ∈ doc.schemas.map Prod.snd := List.mem_map_of_mem hcomponent
    exact List.mem_append_left _
      (List.mem_flatMap.mpr ⟨component.2, hmem, mem_schemaRefs_of_refersTo h⟩)
  · obtain ⟨path, hpath, operation, hoperation, rfl⟩ := Tree.mem_leaves_build.mp hleaf
    have hname : name ∈ (operationSchemas operation.2).flatMap schemaRefs := by
      rcases htype with rfl | rfl
      · exact mem_schemaRefs_of_inputType h
      · exact mem_schemaRefs_of_outputType h
    obtain ⟨s, hs, hrefs⟩ := List.mem_flatMap.mp hname
    have hmem : operation ∈ doc.paths.flatMap fun path => path.2.operations :=
      List.mem_flatMap.mpr ⟨path, hpath, hoperation⟩
    exact List.mem_append_right _
      (List.mem_flatMap.mpr ⟨s, List.mem_flatMap.mpr ⟨operation, hmem, hs⟩, hrefs⟩)

/-- A name dangles if some schema refers to it and no component is declared by it. -/
lemma mem_danglingNames_iff :
    name ∈ danglingNames doc ↔
      name ∈ (rootSchemas doc).flatMap schemaRefs ∧ name ∉ (ofDocument doc).names := by
  unfold danglingNames
  rw [List.mem_eraseDups, List.mem_filter, names_ofDocument]
  simp [ReferenceIndex.contains]

/-- Leaving out all but the first of equal names leaves no two equal names. -/
lemma nodup_eraseDups (names : List String) : names.eraseDups.Nodup := by
  match names with
  | [] => exact List.nodup_nil
  | name :: rest =>
    rw [List.eraseDups_cons]
    refine List.nodup_cons.mpr ⟨fun hmem => ?_, nodup_eraseDups _⟩
    have hother := (List.mem_filter.mp (List.mem_eraseDups.mp hmem)).2
    simp at hother
termination_by names.length
decreasing_by exact Nat.lt_succ_of_le (List.length_filter_le _ _)

/-- Every name that a type of a specification refers to is declared or reported as dangling.  No
declared name is reported, and none is reported twice. -/
theorem refersTo_declared_or_dangling (doc : Document) :
    (∀ t name, (ofDocument doc).Writes t → t.RefersTo name →
        name ∈ (ofDocument doc).names ∨ name ∈ (ofDocument doc).dangling) ∧
      (∀ name ∈ (ofDocument doc).dangling, name ∉ (ofDocument doc).names) ∧
        (ofDocument doc).dangling.Nodup := by
  refine ⟨fun t name writes h => ?_, fun name hname => (mem_danglingNames_iff.mp hname).2,
    nodup_eraseDups _⟩
  by_cases declared : name ∈ (ofDocument doc).names
  · exact .inl declared
  · exact .inr (mem_danglingNames_iff.mpr ⟨mem_schemaRefs_of_writes writes h, declared⟩)

/-- An operation with a query parameter that is a component or a text. -/
def searchOperation : Operation where
  parameters := [.item
    { name := "by", location := .query,
      schema := some
        { oneOf := some
            [{ reference := some "#/components/schemas/Pet" }, { types := [.string] }] } }]

/-- A document that declares one component and refers to another. -/
def searchDocument : Document where
  paths := [("/pets", { get := some searchOperation })]
  components := some { schemas := [("Owner", {})] }

/-- The component of the query parameter is not declared, and it is reported. -/
theorem pet_dangles :
    let input : TypeExpr :=
      .record [⟨"query", false, .record [⟨"by", true, .union [.ref "Pet", .string]⟩]⟩]
    (ofDocument searchDocument).Writes input ∧ input.RefersTo "Pet" ∧
      "Pet" ∈ (ofDocument searchDocument).dangling ∧
        "Pet" ∉ (ofDocument searchDocument).names := by
  intro input
  have hinput : Procedure.inputType (.ofDocument searchDocument) searchOperation = input := by rfl
  have hwrites : (ofDocument searchDocument).Writes input := by
    refine .inr ⟨_, Tree.mem_leaves_build.mpr ⟨("/pets", { get := some searchOperation }),
      List.mem_singleton_self _, (.get, searchOperation), List.mem_singleton_self _, rfl⟩, .inl ?_⟩
    exact hinput.symm
  have hrefers : input.RefersTo "Pet" := by
    refine .property (List.mem_singleton_self _) (.property (List.mem_singleton_self _) ?_)
    exact .member List.mem_cons_self .refl
  obtain ⟨hreported, hundeclared, -⟩ := refersTo_declared_or_dangling searchDocument
  have hnames : "Pet" ∉ (ofDocument searchDocument).names := by decide
  have hdangling := (hreported input "Pet" hwrites hrefers).resolve_left hnames
  exact ⟨hwrites, hrefers, hdangling, hundeclared "Pet" hdangling⟩

end Spec

end TypedRouter.Router
