import TypedRouter.Proofs.TypeScript.Names

/-!
# Collisions among the names of a module

The names that a module exports are checked in a fixed order: the router's first, then those of the
declarations.  A specification has no module if and only if two of these names become the same
identifier.

What is reported then is the first name in this order that finds its identifier taken.  Up to this
name all identifiers are distinct, so only one earlier name can have taken the identifier, and that
one is reported with it.  This is what the check keeps as it goes on: the identifiers that it has
seen are distinct.
-/

namespace TypedRouter.TypeScript

open Router Text

/-- A name finds its identifier taken after some names: their identifiers are distinct, and one of
them has the identifier of the name. -/
structure Collision.After (c : Collision) (before : List String) : Prop where
  distinct : (before.map Identifier.sanitize).Nodup
  holder_mem : c.holder ∈ before
  sanitize_eq : Identifier.sanitize c.holder = Identifier.sanitize c.name
  identifier_eq : c.identifier = Identifier.sanitize c.name

namespace Module

/-- The names that the module of a specification exports, in the order in which they are checked. -/
def exportedNames (spec : Spec) : List String :=
  routerName :: spec.declarations.map Declaration.name

/-! ## The first collision -/

/-- Where identifiers are distinct, the name that took an identifier is found. -/
lemma find?_sanitize_eq_some {taken : List String}
    (distinct : (taken.map Identifier.sanitize).Nodup)
    {holder name : String} (mem : holder ∈ taken)
    (same : Identifier.sanitize holder = Identifier.sanitize name) :
    taken.find? (fun other => Identifier.sanitize other = Identifier.sanitize name) =
      some holder := by
  cases hfind : taken.find? fun other => Identifier.sanitize other = Identifier.sanitize name with
  | none =>
    have hnone := List.find?_eq_none.mp hfind holder mem
    simp [same] at hnone
  | some other =>
    have hother : other ∈ taken := List.mem_of_find?_eq_some hfind
    have hsame : Identifier.sanitize other = Identifier.sanitize name := by
      simpa using List.find?_some hfind
    rw [List.inj_on_of_nodup_map distinct hother mem (hsame.trans same.symm)]

/-- The name that finds its identifier taken is the next one or one of those after it. -/
lemma exists_after_cons {c : Collision} {taken rest : List String} {name : String} :
    (∃ before after, name :: rest = before ++ c.name :: after ∧ c.After (taken ++ before)) ↔
      c.name = name ∧ c.After taken ∨
        ∃ before after, rest = before ++ c.name :: after ∧ c.After (taken ++ [name] ++ before) := by
  constructor
  · rintro ⟨before, after, hfurther, hafter⟩
    cases before with
    | nil =>
      obtain ⟨rfl, -⟩ := List.cons_eq_cons.mp hfurther
      rw [List.append_nil] at hafter
      exact .inl ⟨rfl, hafter⟩
    | cons first before =>
      obtain ⟨rfl, rfl⟩ := List.cons_eq_cons.mp hfurther
      rw [← List.singleton_append, ← List.append_assoc] at hafter
      exact .inr ⟨before, after, rfl, hafter⟩
  · rintro (⟨rfl, hafter⟩ | ⟨before, after, rfl, hafter⟩)
    · refine ⟨[], rest, rfl, ?_⟩
      rwa [List.append_nil]
    · refine ⟨name :: before, after, rfl, ?_⟩
      rwa [← List.singleton_append, ← List.append_assoc]

/-- A name that takes its identifier leaves the identifiers distinct. -/
lemma nodup_map_sanitize_append {taken : List String}
    (distinct : (taken.map Identifier.sanitize).Nodup) {name : String} :
    ((taken ++ [name]).map Identifier.sanitize).Nodup ↔
      ∀ other ∈ taken, Identifier.sanitize other ≠ Identifier.sanitize name := by
  rw [List.map_append, List.map_singleton, List.nodup_append]
  constructor
  · rintro ⟨-, -, hdisjoint⟩ other hother
    exact hdisjoint _ (List.mem_map_of_mem hother) _ (List.mem_singleton_self _)
  · intro hfresh
    refine ⟨distinct, List.nodup_singleton _, fun a ha b hb => ?_⟩
    obtain ⟨other, hother, rfl⟩ := List.mem_map.mp ha
    obtain rfl := List.mem_singleton.mp hb
    exact hfresh other hother

/-- The first of some further names that finds its identifier taken, and nothing else, is
reported. -/
lemma firstCollision?_eq_some_iff {taken : List String}
    (distinct : (taken.map Identifier.sanitize).Nodup) (further : List String) (c : Collision) :
    firstCollision? taken further = some c ↔
      ∃ before after, further = before ++ c.name :: after ∧ c.After (taken ++ before) := by
  induction further generalizing taken with
  | nil => simp [firstCollision?]
  | cons name rest ih =>
    rw [exists_after_cons]
    unfold firstCollision?
    split
    · next other hother =>
      have hmem : other ∈ taken := List.mem_of_find?_eq_some hother
      have hsame : Identifier.sanitize other = Identifier.sanitize name := by
        simpa using List.find?_some hother
      rw [Option.some_inj]
      constructor
      · rintro rfl
        exact .inl ⟨rfl, distinct, hmem, hsame, rfl⟩
      · rintro (⟨rfl, hafter⟩ | ⟨before, after, -, hafter⟩)
        · have hholder := find?_sanitize_eq_some distinct hafter.holder_mem hafter.sanitize_eq
          rw [hother, Option.some_inj] at hholder
          rw [hholder, ← hafter.identifier_eq]
        · -- the identifiers up to a later name are not distinct
          have hnodup := hafter.distinct
          rw [List.map_append] at hnodup
          have hfresh := (nodup_map_sanitize_append distinct).mp (List.nodup_append.mp hnodup).1
          exact absurd hsame (hfresh other hmem)
    · next hnone =>
      have hfresh : ∀ other ∈ taken,
          Identifier.sanitize other ≠ Identifier.sanitize name := by
        simpa using List.find?_eq_none.mp hnone
      rw [ih ((nodup_map_sanitize_append distinct).mpr hfresh)]
      constructor
      · exact .inr
      · rintro (⟨rfl, hafter⟩ | hlater)
        · exact absurd hafter.sanitize_eq (hfresh _ hafter.holder_mem)
        · exact hlater

/-! ## Modules that cannot be written -/

variable {spec : Spec}

/-- What is reported of a specification is the first exported name that finds its identifier
taken. -/
lemma text_eq_error_iff {c : Collision} :
    text spec = .error c ↔
      ∃ before after, exportedNames spec = before ++ c.name :: after ∧ c.After before := by
  have hdistinct : ([routerName].map Identifier.sanitize).Nodup := List.nodup_singleton _
  have htext : text spec = .error c ↔
      firstCollision? [routerName] (spec.declarations.map Declaration.name) = some c := by
    rw [text, body]
    cases firstCollision? [routerName] (spec.declarations.map Declaration.name) with
    | none => simp [Except.map]
    | some found => simp [Except.map]
  rw [htext, firstCollision?_eq_some_iff hdistinct, exportedNames]
  constructor
  · rintro ⟨before, after, hnames, hafter⟩
    exact ⟨routerName :: before, after, by rw [hnames, List.cons_append], hafter⟩
  · rintro ⟨before, after, hnames, hafter⟩
    cases before with
    | nil => exact absurd hafter.holder_mem List.not_mem_nil
    | cons first before =>
      obtain ⟨rfl, hrest⟩ := List.cons_eq_cons.mp hnames
      exact ⟨before, after, hrest, hafter⟩

/-- A specification has no module if and only if two of the exported names become the same
identifier. -/
lemma exists_text_eq_error_iff :
    (∃ c, text spec = .error c) ↔
      ∃ earlier later, [earlier, later].Sublist (exportedNames spec) ∧
        Identifier.sanitize earlier = Identifier.sanitize later := by
  have herror : (∃ c, text spec = .error c) ↔ ¬ ∃ t, text spec = .ok t := by
    cases text spec <;> simp
  rw [herror, exists_text_iff, ← exportedNames, List.Nodup, List.pairwise_map,
    List.pairwise_iff_forall_sublist]
  push Not
  rfl

/-- A module holds its aliases one after the other, each under its identifier. -/
lemma toList_of_text {t : String} (h : text spec = .ok t) :
    t.toList = Header.text.toList ++ '\n' :: (aliases spec).flatMap fun a =>
      commentChars a.description ++ ("export type ".toList ++ (a.identifier.toList ++
        (" = ".toList ++ (a.type.chars 0 ++ [';', '\n'])))) := by
  rw [text, body] at h
  split at h
  · cases h
  · cases h
    simp only [String.toList_append, String.toList_ofList, bodyChars, Alias.identifier]
    rfl

/-- The name of the router is an identifier. -/
lemma sanitize_routerName : Identifier.sanitize routerName = routerName := by
  decide +kernel

/-- There is no module exactly if two exported names become the same identifier; then the first name
that finds its identifier taken is reported, with the name that took it and the identifier.  A
module that is written holds the aliases in the order of the declarations and then that of the
router, under identifiers that are pairwise distinct. -/
theorem collisions_and_aliases (spec : Spec) :
    ((∃ c, text spec = .error c) ↔
      ∃ earlier later, [earlier, later].Sublist (exportedNames spec) ∧
        Identifier.sanitize earlier = Identifier.sanitize later) ∧
    (∀ c, text spec = .error c ↔
      ∃ before after, exportedNames spec = before ++ c.name :: after ∧ c.After before) ∧
    (∀ c : Collision, c.cause = "`" ++ c.holder ++ "` and `" ++ c.name ++
      "` are both exported as `" ++ c.identifier ++ "`") ∧
    ∀ t, text spec = .ok t →
      t.toList = Header.text.toList ++ '\n' :: (aliases spec).flatMap (fun a =>
        commentChars a.description ++ ("export type ".toList ++ (a.identifier.toList ++
          (" = ".toList ++ (a.type.chars 0 ++ [';', '\n']))))) ∧
      (aliases spec).map Alias.identifier =
        spec.declarations.map (fun d => Identifier.sanitize d.name) ++ [routerName] ∧
      ((aliases spec).map Alias.identifier).Nodup := by
  refine ⟨exists_text_eq_error_iff, fun c => text_eq_error_iff, fun c => rfl, fun t ht => ?_⟩
  refine ⟨toList_of_text ht, ?_, nodup_map_identifier ht⟩
  rw [map_identifier_aliases, sanitize_routerName]

/-- Of two names that find their identifiers taken, the first is reported. -/
theorem collision_of_pets :
    let spec := componentsSpec ["Api.Pet", "ApiRouter_", "Api_Pet", "ApiRouter"]
    text spec = .error ⟨"Api.Pet", "Api_Pet", "Api_Pet"⟩ := by
  intro spec
  have hafter : Collision.After ⟨"Api.Pet", "Api_Pet", "Api_Pet"⟩
      ["ApiRouter", "Api.Pet", "ApiRouter_"] :=
    ⟨by decide +kernel, by decide, by decide +kernel, by decide +kernel⟩
  exact ((collisions_and_aliases spec).2.1 _).mpr ⟨_, ["ApiRouter"], by decide +kernel, hafter⟩

end Module

end TypedRouter.TypeScript
