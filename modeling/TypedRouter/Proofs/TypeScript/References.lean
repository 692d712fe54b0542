import TypedRouter.Proofs.Router.References
import TypedRouter.Proofs.Text.Identifier
import TypedRouter.Proofs.TypeScript.Names
import TypedRouter.Proofs.TypeScript.Readable

/-!
# What a printed reference denotes

A reference is printed as the identifier that is made of its name, and so is the name of an alias.
Different names may become one identifier, so a printed reference could denote something else than
it says.

For a reference to a component that is declared this cannot happen.  A module is only printed if the
identifiers of its aliases are pairwise distinct, so the printed reference is the name of the alias
of its component and of no other alias.

A reference to a component that is not declared is printed as well, and nobody looks at its
identifier; all that is done is to report its name.  So it may say something in the module, and the
ways in which it does can be told.  The names of the header, that of the router and the words of the
language are identifiers without a `_`, so only a name that is one of them becomes one of them.
Everything else that the reference may denote is the alias of a component whose name becomes the
same identifier.
-/

namespace TypedRouter.TypeScript

open OpenApi Router Text

/-- The alias that is exported for a declaration. -/
def Alias.ofDeclaration (d : Declaration) : Alias := ⟨d.name, .ofExpr d.type, d.description⟩

/-- What a reference to a name is printed as. -/
def printedReference (name : String) : String :=
  String.ofList ((Ty.ofExpr (.ref name)).chars 0)

/-- A reference is printed as the identifier that is made from its name. -/
@[simp]
lemma printedReference_eq (name : String) : printedReference name = Identifier.sanitize name := by
  have hchars : (Ty.ofExpr (.ref name)).chars 0 = nameChars name ++ [] := rfl
  rw [printedReference, hchars, List.append_nil]
  rfl

namespace Module

variable {spec : Spec} {name : String}

/-! ## Declared components -/

/-- The aliases of a module: one for each declaration, and then the router. -/
lemma aliases_eq (spec : Spec) : aliases spec =
    spec.declarations.map Alias.ofDeclaration ++
      [⟨routerName, routerType spec.root, summary spec⟩] := rfl

/-- Each declaration has its alias. -/
lemma ofDeclaration_mem_aliases {d : Declaration} (h : d ∈ spec.declarations) :
    Alias.ofDeclaration d ∈ aliases spec := by
  rw [aliases_eq]
  exact List.mem_append_left _ (List.mem_map_of_mem h)

/-- The aliases of a module can be told by their identifiers. -/
lemma eq_of_identifier_eq {text : String} (h : Module.text spec = .ok text) {a b : Alias}
    (ha : a ∈ aliases spec) (hb : b ∈ aliases spec) (hidentifier : a.identifier = b.identifier) :
    a = b :=
  List.inj_on_of_nodup_map (nodup_map_identifier h) ha hb hidentifier

/-- A reference to a component that is declared is printed as the name of the alias of this
component, and of no other alias. -/
lemma exists_alias_of_declared {text : String} (h : Module.text spec = .ok text)
    (declared : name ∈ spec.names) :
    ∃ d ∈ spec.declarations, d.name = name ∧
      (Alias.ofDeclaration d).identifier = printedReference name ∧
        ∀ a ∈ aliases spec, a.identifier = printedReference name → a = .ofDeclaration d := by
  obtain ⟨d, hd, rfl⟩ := List.mem_map.mp declared
  have hprinted : (Alias.ofDeclaration d).identifier = printedReference d.name :=
    (printedReference_eq d.name).symm
  refine ⟨d, hd, rfl, hprinted, fun a ha hidentifier => ?_⟩
  exact eq_of_identifier_eq h ha (ofDeclaration_mem_aliases hd) (hidentifier.trans hprinted.symm)

/-! ## Components that are not declared -/

/-- The names that say something in every module: those of the header and of the router, and the
words of the language. -/
def fixedNames : List String := Header.names ++ routerName :: keywords

/-- Only a fixed name becomes a fixed name. -/
lemma sanitize_mem_fixedNames_iff : Identifier.sanitize name ∈ fixedNames ↔ name ∈ fixedNames := by
  have hplain : ∀ word ∈ fixedNames,
      Identifier.isIdentifier word = true ∧ '_' ∉ word.toList := by decide +kernel
  constructor
  · intro h
    obtain ⟨hword, hunderscore⟩ := hplain _ h
    have hname : name = Identifier.sanitize name :=
      (Identifier.sanitize_eq_iff hword hunderscore).mp rfl
    rw [hname]
    exact h
  · intro h
    obtain ⟨hword, hunderscore⟩ := hplain _ h
    rw [(Identifier.sanitize_eq_iff hword hunderscore).mpr rfl]
    exact h

/-- An identifier says something in a module if it is a fixed name or that of the alias of a
component. -/
lemma mem_names_or_mem_keywords_iff {identifier : String} :
    identifier ∈ names spec ∨ identifier ∈ keywords ↔
      identifier ∈ fixedNames ∨
        ∃ d ∈ spec.declarations, (Alias.ofDeclaration d).identifier = identifier := by
  have hrouter : Identifier.sanitize routerName = routerName := by decide +kernel
  have haliases : identifier ∈ (aliases spec).map Alias.identifier ↔
      (∃ d ∈ spec.declarations, (Alias.ofDeclaration d).identifier = identifier) ∨
        identifier = routerName := by
    rw [map_identifier_aliases, hrouter, List.mem_append, List.mem_map, List.mem_singleton]
    rfl
  rw [names, fixedNames, List.mem_append, List.mem_append, List.mem_cons, haliases]
  constructor
  · rintro ((hheader | hdeclared | hrouter) | hkeyword)
    · exact .inl (.inl hheader)
    · exact .inr hdeclared
    · exact .inl (.inr (.inl hrouter))
    · exact .inl (.inr (.inr hkeyword))
  · rintro ((hheader | hrouter | hkeyword) | hdeclared)
    · exact .inl (.inl hheader)
    · exact .inl (.inr (.inr hrouter))
    · exact .inr hkeyword
    · exact .inl (.inr (.inl hdeclared))

/-- A reference to a component that is not declared says something in the module if its name is a
fixed one, or if the name of some component becomes the same identifier. -/
lemma printedReference_taken_iff :
    printedReference name ∈ names spec ∨ printedReference name ∈ keywords ↔
      name ∈ fixedNames ∨
        ∃ d ∈ spec.declarations, (Alias.ofDeclaration d).identifier = printedReference name := by
  rw [mem_names_or_mem_keywords_iff, printedReference_eq, sanitize_mem_fixedNames_iff]

/-! ## References of a module -/

/-- A reference of a printed module to a component that is declared is printed as the name of the
alias of this component and of no other alias.  A reference to a component that is not declared is
reported as dangling.  It is printed as an identifier that is neither introduced by the module nor a
word of the language, unless its name is a fixed one or the name of some component becomes the same
identifier. -/
theorem printedReference_denotes {doc : Document} {text : String} {t : TypeExpr}
    (h : Module.text (.ofDocument doc) = .ok text) (writes : (Spec.ofDocument doc).Writes t)
    (refers : t.RefersTo name) :
    (name ∈ (Spec.ofDocument doc).names →
        ∃ d ∈ (Spec.ofDocument doc).declarations, d.name = name ∧
          (Alias.ofDeclaration d).identifier = printedReference name ∧
            ∀ a ∈ aliases (.ofDocument doc), a.identifier = printedReference name →
              a = .ofDeclaration d) ∧
      (name ∉ (Spec.ofDocument doc).names →
        name ∈ (Spec.ofDocument doc).dangling ∧
          (printedReference name ∈ names (.ofDocument doc) ∨ printedReference name ∈ keywords ↔
            name ∈ fixedNames ∨
              ∃ d ∈ (Spec.ofDocument doc).declarations,
                (Alias.ofDeclaration d).identifier = printedReference name)) := by
  refine ⟨exists_alias_of_declared h, fun undeclared => ⟨?_, printedReference_taken_iff⟩⟩
  exact Spec.mem_danglingNames_iff.mpr ⟨Spec.mem_schemaRefs_of_writes writes refers, undeclared⟩

/-- A document with a component, and a second one that refers to a component. -/
def petsDocument (declared reference : String) : Document where
  components := some { schemas :=
    [(declared, { types := [.string] }), ("Pets", { reference := some reference })] }

/-- The second component is written out as the reference that it is. -/
lemma writes_petsDocument (declared : String) {reference : String}
    (h : componentName? reference = some name) :
    (Spec.ofDocument (petsDocument declared reference)).Writes (.ref name) := by
  refine .inl ⟨⟨"Pets", .ref name, none⟩, ?_, rfl⟩
  have hdeclaration : Spec.declare (.ofDocument (petsDocument declared reference))
      ("Pets", { reference := some reference }) = ⟨"Pets", .ref name, none⟩ := by
    simp [Spec.declare, TypeExpr.ofSchema, SchemaType.single?, h]
  rw [← hdeclaration]
  exact List.mem_cons_of_mem _ (List.mem_singleton_self _)

/-- Names with a point in them find their component, and one that is not declared says nothing. -/
theorem printedReference_of_pets :
    (∃ d ∈ (Spec.ofDocument (petsDocument "Api.Pet" "#/components/schemas/Api.Pet")).declarations,
        d.name = "Api.Pet" ∧
          (Alias.ofDeclaration d).identifier = printedReference "Api.Pet") ∧
      "Api.Toy" ∈
          (Spec.ofDocument (petsDocument "Api.Pet" "#/components/schemas/Api.Toy")).dangling ∧
        printedReference "Api.Toy" ∉
          names (.ofDocument (petsDocument "Api.Pet" "#/components/schemas/Api.Toy")) := by
  constructor
  · obtain ⟨text, htext⟩ : ∃ text, Module.text
        (.ofDocument (petsDocument "Api.Pet" "#/components/schemas/Api.Pet")) = .ok text :=
      exists_text_iff.mpr (by decide +kernel)
    have hwrites := writes_petsDocument "Api.Pet"
      (show componentName? "#/components/schemas/Api.Pet" = some "Api.Pet" by decide +kernel)
    obtain ⟨d, hd, hname, hidentifier, -⟩ :=
      (printedReference_denotes htext hwrites .refl).1 (by decide +kernel)
    exact ⟨d, hd, hname, hidentifier⟩
  · obtain ⟨text, htext⟩ : ∃ text, Module.text
        (.ofDocument (petsDocument "Api.Pet" "#/components/schemas/Api.Toy")) = .ok text :=
      exists_text_iff.mpr (by decide +kernel)
    have hwrites := writes_petsDocument "Api.Pet"
      (show componentName? "#/components/schemas/Api.Toy" = some "Api.Toy" by decide +kernel)
    obtain ⟨hdangling, htaken⟩ :=
      (printedReference_denotes htext hwrites .refl).2 (by decide +kernel)
    have hfree : ¬ ("Api.Toy" ∈ fixedNames ∨
        ∃ d ∈
          (Spec.ofDocument (petsDocument "Api.Pet" "#/components/schemas/Api.Toy")).declarations,
          (Alias.ofDeclaration d).identifier = printedReference "Api.Toy") := by decide +kernel
    exact ⟨hdangling, fun hmem => hfree (htaken.mp (.inl hmem))⟩

/-- A module can refer to a component that is not declared and yet introduce what the reference is
printed as, for another component. -/
theorem dangling_reference_captured :
    let spec := Spec.ofDocument (petsDocument "Api_Pet" "#/components/schemas/Api.Pet")
    (∃ text, Module.text spec = .ok text) ∧ spec.Writes (.ref "Api.Pet") ∧
      "Api.Pet" ∉ spec.names ∧ printedReference "Api.Pet" ∈ names spec := by
  refine ⟨exists_text_iff.mpr (by decide +kernel), ?_, by decide +kernel, by decide +kernel⟩
  exact writes_petsDocument "Api_Pet" (by decide +kernel)

end Module

end TypedRouter.TypeScript
