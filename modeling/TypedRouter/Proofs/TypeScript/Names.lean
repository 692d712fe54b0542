import TypedRouter.TypeScript.Module
import Mathlib.Data.List.Nodup
import Mathlib.Tactic.Common

/-!
# The names of a module

A module introduces three kinds of names at its top level: what the header imports, what the header
declares, and one alias for each declaration and for the router.

The check for collisions looks at the aliases alone.  It passes if and only if the identifiers of
the router and of the declarations are pairwise distinct, and nothing keeps a component from having
a name of the header.  Such a name is then introduced twice, and this is the only way in which a
module introduces a name twice.
-/

namespace TypedRouter.TypeScript

open Router Text

/-- The name that an alias introduces. -/
def Alias.identifier (a : Alias) : String := String.ofList (nameChars a.name)

namespace Module

/-- The names that the module of a specification introduces at its top level. -/
def names (spec : Spec) : List String :=
  Header.names ++ (aliases spec).map Alias.identifier

/-! ## The check for collisions -/

/-- Some further names pass the check if and only if their identifiers are distinct from each other
and from those that are taken. -/
lemma firstCollision?_eq_none_iff {taken : List String}
    (distinct : (taken.map Identifier.sanitize).Nodup) (further : List String) :
    firstCollision? taken further = none ↔
      ((taken ++ further).map Identifier.sanitize).Nodup := by
  induction further generalizing taken with
  | nil => simpa [firstCollision?] using distinct
  | cons name rest ih =>
    unfold firstCollision?
    split
    · -- the name finds its identifier taken, so the identifier is there twice
      next other hother =>
      have hmem : other ∈ taken := List.mem_of_find?_eq_some hother
      have hsame : Identifier.sanitize other = Identifier.sanitize name := by
        simpa using List.find?_some hother
      have hidentifier : Identifier.sanitize name ∈ taken.map Identifier.sanitize :=
        hsame ▸ List.mem_map_of_mem hmem
      rw [List.map_append, List.map_cons]
      constructor
      · intro hnone
        cases hnone
      · intro hnodup
        have hdisjoint := (List.nodup_append.mp hnodup).2.2
        exact absurd rfl (hdisjoint _ hidentifier _ List.mem_cons_self)
    · -- the name takes its identifier, and the check goes on
      next hnone =>
      have hfresh : Identifier.sanitize name ∉ taken.map Identifier.sanitize := by
        simpa using List.find?_eq_none.mp hnone
      have hdistinct : ((taken ++ [name]).map Identifier.sanitize).Nodup := by
        rw [List.map_append, List.nodup_append]
        refine ⟨distinct, List.nodup_singleton _, fun a ha b hb => ?_⟩
        obtain rfl := List.mem_singleton.mp hb
        exact fun hab => hfresh (hab ▸ ha)
      rw [ih hdistinct, List.append_assoc, List.singleton_append]

/-- A specification has a module if and only if the identifiers of the router and of the
declarations are pairwise distinct. -/
lemma exists_text_iff {spec : Spec} :
    (∃ text, Module.text spec = .ok text) ↔
      ((routerName :: spec.declarations.map Declaration.name).map Identifier.sanitize).Nodup := by
  have hdistinct : ([routerName].map Identifier.sanitize).Nodup := List.nodup_singleton _
  have hchecked := firstCollision?_eq_none_iff hdistinct (spec.declarations.map Declaration.name)
  rw [← List.singleton_append, ← hchecked, Module.text, body]
  cases firstCollision? [routerName] (spec.declarations.map Declaration.name) with
  | none => simp [Except.map]
  | some c => simp [Except.map]

/-! ## Names that are introduced twice -/

/-- A module exports its components in their order, and then the router. -/
lemma map_identifier_aliases (spec : Spec) :
    (aliases spec).map Alias.identifier =
      spec.declarations.map (fun d => Identifier.sanitize d.name) ++
        [Identifier.sanitize routerName] := by
  rw [aliases, List.map_append, List.map_map]
  rfl

/-- The aliases of a module introduce pairwise distinct names. -/
lemma nodup_map_identifier {spec : Spec} {text : String} (h : Module.text spec = .ok text) :
    ((aliases spec).map Alias.identifier).Nodup := by
  have hnodup := exists_text_iff.mp ⟨text, h⟩
  rw [List.map_cons, List.map_map] at hnodup
  rw [map_identifier_aliases, List.nodup_append_comm]
  exact hnodup

/-- The header does not have the name of the router. -/
lemma sanitize_routerName_notMem : Identifier.sanitize routerName ∉ Header.names := by
  decide +kernel

/-- The names of the header differ. -/
lemma nodup_headerNames : Header.names.Nodup := by
  decide +kernel

/-- A module introduces no name twice at its top level if and only if no declaration of the
specification becomes a name of the header. -/
theorem nodup_names_iff {spec : Spec} {text : String} (h : Module.text spec = .ok text) :
    (names spec).Nodup ↔
      ∀ d ∈ spec.declarations, Identifier.sanitize d.name ∉ Header.names := by
  have haliases := nodup_map_identifier h
  rw [names, List.nodup_append, map_identifier_aliases]
  rw [map_identifier_aliases] at haliases
  constructor
  · rintro ⟨-, -, hdisjoint⟩ d hd hheader
    have hmem : Identifier.sanitize d.name ∈
        spec.declarations.map (fun d => Identifier.sanitize d.name) :=
      List.mem_map_of_mem hd
    exact hdisjoint _ hheader _ (List.mem_append_left _ hmem) rfl
  · intro hfree
    refine ⟨nodup_headerNames, haliases, fun a ha b hb hab => ?_⟩
    subst hab
    rcases List.mem_append.mp hb with hdeclared | hrouter
    · obtain ⟨d, hd, rfl⟩ := List.mem_map.mp hdeclared
      exact hfree d hd ha
    · obtain rfl := List.mem_singleton.mp hrouter
      exact sanitize_routerName_notMem ha

/-- The specification of a document that has components of these names. -/
def componentsSpec (components : List String) : Spec :=
  .ofDocument
    { components := some { schemas := components.map fun name => (name, { types := [.string] }) } }

/-- Components that become other identifiers than those of the header are fine. -/
theorem nodup_names_pets :
    (∃ text, Module.text (componentsSpec ["Pet", "Api.Pet"]) = .ok text) ∧
      (names (componentsSpec ["Pet", "Api.Pet"])).Nodup := by
  have htext : ∃ text, Module.text (componentsSpec ["Pet", "Api.Pet"]) = .ok text :=
    exists_text_iff.mpr (by decide +kernel)
  obtain ⟨text, h⟩ := htext
  exact ⟨⟨text, h⟩, (nodup_names_iff h).mpr (by decide +kernel)⟩

/-- A document with a component `FakeConfig` has a module, and the module introduces this name
twice. -/
theorem fakeConfig_introduced_twice :
    (∃ text, Module.text (componentsSpec ["FakeConfig"]) = .ok text) ∧
      ¬ (names (componentsSpec ["FakeConfig"])).Nodup :=
  ⟨exists_text_iff.mpr (by decide +kernel), by decide +kernel⟩

end Module

end TypedRouter.TypeScript
