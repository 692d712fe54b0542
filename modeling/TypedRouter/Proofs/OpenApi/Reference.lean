import TypedRouter.Proofs.Router.References
import TypedRouter.Proofs.Text.Trim
import TypedRouter.Proofs.TypeScript.Comments

/-!
# Names in references

A component may have any name, but a reference to it is split at its slashes, so a slash in the name
is written as `~1`, and then a tilde has to be written too, as `~0`.  What is written for a name is
read as this name again, with whatever blanks around the reference.

Reading replaces the one pair of characters everywhere and then the other.  The order matters, since
`~01` stands for `~1` and not for a slash.
-/

namespace TypedRouter.OpenApi

open Router Text TypeScript

/-! ## Replacing a pair of characters -/

section Replace

variable {after char c : Char} {cs ds rest : List Char}

/-- A tilde with the character that follows it is replaced. -/
lemma replaceTilde_tilde (after char : Char) (rest : List Char) :
    replaceTilde after char ('~' :: after :: rest) = char :: replaceTilde after char rest := by
  rw [replaceTilde, if_pos rfl]

/-- A character that does not begin a pair is kept. -/
lemma replaceTilde_cons (h : ¬ ['~', after] <+: c :: rest) :
    replaceTilde after char (c :: rest) = c :: replaceTilde after char rest := by
  by_cases hc : c = '~'
  · subst hc
    cases rest with
    | nil => rfl
    | cons d rest =>
      have hd : d ≠ after := by
        rintro rfl
        exact h ⟨rest, rfl⟩
      rw [replaceTilde, if_neg hd]
  · simp [replaceTilde, hc]

/-- A tilde with a certain character after it is replaced wherever it occurs, and nothing else
is. -/
theorem replaced_iff : Replaced ['~', after] [char] cs ds ↔ replaceTilde after char cs = ds := by
  constructor
  · intro h
    induction h with
    | nil => rfl
    | mark rest ih => rw [← ih]; exact replaceTilde_tilde after char _
    | other free rest ih => rw [replaceTilde_cons free, ih]
  · rintro rfl
    fun_induction replaceTilde after char cs with
    | case1 rest ih => exact .mark ih
    | case2 c rest hc ih => exact .other (by simp [Ne.symm hc]) ih
    | case3 c rest hother ih =>
      refine .other ?_ ih
      rintro ⟨more, hmore⟩
      obtain ⟨rfl, rfl⟩ := List.cons_eq_cons.mp hmore
      exact hother _ _ rfl rfl
    | case4 => exact .nil

/-- A text does not vanish when something in it is replaced. -/
lemma replaceTilde_ne_nil (h : cs ≠ []) : replaceTilde after char cs ≠ [] := by
  obtain ⟨c, rest, rfl⟩ := List.exists_cons_of_ne_nil h
  by_cases hprefix : ['~', after] <+: c :: rest
  · obtain ⟨more, hmore⟩ := hprefix
    rw [← hmore]
    exact replaceTilde_tilde after char more ▸ List.cons_ne_nil _ _
  · exact replaceTilde_cons hprefix ▸ List.cons_ne_nil _ _

end Replace

/-! ## Writing and reading a name -/

/-- How a character of a name is written in a reference. -/
def escapeNameChar (c : Char) : List Char :=
  if c = '~' then ['~', '0'] else if c = '/' then ['~', '1'] else [c]

/-- How a name is written in a reference. -/
def escapeName (cs : List Char) : List Char := cs.flatMap escapeNameChar

/-- How a character of a name is written where slashes stand for themselves. -/
def escapeTilde (c : Char) : List Char := if c = '~' then ['~', '0'] else [c]

/-- What the reference to a component begins with. -/
def componentsPath : List Char := "#/components/schemas/".toList

/-- The reference to the component of a name. -/
def referenceTo (name : String) : List Char := componentsPath ++ escapeName name.toList

section Names

variable {c : Char} {cs : List Char}

/-- A character that is no tilde and no slash stands for itself. -/
lemma escapeNameChar_of_ne (htilde : c ≠ '~') (hslash : c ≠ '/') : escapeNameChar c = [c] := by
  rw [escapeNameChar, if_neg htilde, if_neg hslash]

/-- No character is escaped as nothing. -/
lemma escapeNameChar_ne_nil (c : Char) : escapeNameChar c ≠ [] := by
  unfold escapeNameChar
  split_ifs <;> simp

/-- A character that is no tilde stands for itself. -/
lemma escapeTilde_of_ne (htilde : c ≠ '~') : escapeTilde c = [c] := if_neg htilde

/-- A name is escaped character by character. -/
@[simp] lemma escapeName_cons (c : Char) (cs : List Char) :
    escapeName (c :: cs) = escapeNameChar c ++ escapeName cs := List.flatMap_cons

/-- Once slashes are put back, only the tildes are written differently. -/
lemma replaceTilde_escapeName (cs : List Char) :
    replaceTilde '1' '/' (escapeName cs) = cs.flatMap escapeTilde := by
  induction cs with
  | nil => rfl
  | cons c cs ih =>
    rw [escapeName_cons, List.flatMap_cons, ← ih]
    by_cases htilde : c = '~'
    · subst htilde
      have hpair : ¬ ['~', '1'] <+: '~' :: '0' :: escapeName cs := by simp
      have hzero : ¬ ['~', '1'] <+: '0' :: escapeName cs := by simp
      exact (replaceTilde_cons hpair).trans (congrArg ('~' :: ·) (replaceTilde_cons hzero))
    · by_cases hslash : c = '/'
      · subst hslash
        exact replaceTilde_tilde '1' '/' (escapeName cs)
      · have hkeep : ¬ ['~', '1'] <+: c :: escapeName cs := by simp [Ne.symm htilde]
        rw [escapeNameChar_of_ne htilde hslash, escapeTilde_of_ne htilde, List.singleton_append,
          replaceTilde_cons hkeep, List.singleton_append]

/-- Once tildes are put back, nothing is written differently. -/
lemma replaceTilde_escapeTilde (cs : List Char) :
    replaceTilde '0' '~' (cs.flatMap escapeTilde) = cs := by
  induction cs with
  | nil => rfl
  | cons c cs ih =>
    rw [List.flatMap_cons]
    by_cases htilde : c = '~'
    · subst htilde
      exact (replaceTilde_tilde '0' '~' _).trans (congrArg ('~' :: ·) ih)
    · have hkeep : ¬ ['~', '0'] <+: c :: cs.flatMap escapeTilde := by simp [Ne.symm htilde]
      rw [escapeTilde_of_ne htilde, List.singleton_append, replaceTilde_cons hkeep, ih]

/-- Reading a written name gives the name. -/
theorem unescapeName_escapeName (cs : List Char) : unescapeName (escapeName cs) = cs := by
  rw [unescapeName, replaceTilde_escapeName, replaceTilde_escapeTilde]

/-- There is no slash in an escaped name. -/
lemma slash_notMem_escapeName (cs : List Char) : '/' ∉ escapeName cs := by
  intro hmem
  obtain ⟨c, -, hc⟩ := List.mem_flatMap.mp hmem
  unfold escapeNameChar at hc
  split_ifs at hc with htilde hslash
  · simp at hc
  · simp at hc
  · exact hslash (List.mem_singleton.mp hc).symm

/-- No name but the empty one is escaped as nothing. -/
lemma escapeName_ne_nil (h : cs ≠ []) : escapeName cs ≠ [] := by
  intro hnil
  obtain ⟨c, hc⟩ := List.exists_mem_of_ne_nil cs h
  exact escapeNameChar_ne_nil c (List.flatMap_eq_nil_iff.mp hnil c hc)

/-- A written name ends with a blank only if the name does. -/
lemma isBlank_getLast?_escapeName (h : ∀ c, cs.getLast? = some c → isBlank c = false)
    (hc : (escapeName cs).getLast? = some c) : isBlank c = false := by
  rcases List.eq_nil_or_concat cs with rfl | ⟨front, d, rfl⟩
  · cases hc
  · have hd : isBlank d = false := h d (by simp)
    have hlast : (escapeNameChar d).getLast? = some c := by
      have hne := escapeNameChar_ne_nil d
      obtain ⟨e, he⟩ := Option.isSome_iff_exists.mp (List.getLast?_isSome.mpr hne)
      rw [escapeName, List.concat_eq_append, List.flatMap_append, List.getLast?_append] at hc
      simpa [he] using hc
    unfold escapeNameChar at hlast
    split_ifs at hlast
    · obtain rfl : '0' = c := Option.some.inj hlast
      decide
    · obtain rfl : '1' = c := Option.some.inj hlast
      decide
    · obtain rfl : d = c := Option.some.inj hlast
      exact hd

end Names

/-! ## Reading a reference -/

section References

variable {reference name : List Char}

/-- The path of a component, piece by piece. -/
lemma componentsPath_append (token : List Char) :
    componentsPath ++ token = '#' :: '/' ::
      ("components".toList ++ '/' :: ("schemas".toList ++ '/' :: token)) := by
  have hpath : componentsPath = '#' :: '/' ::
      ("components".toList ++ '/' :: ("schemas".toList ++ ['/'])) := by decide
  rw [hpath]
  simp

/-- A reference names a component if it has one name, without a slash, below the path of component
schemas. -/
lemma componentChars?_eq_some_iff :
    componentChars? reference = some name ↔ ∃ token, trim reference = componentsPath ++ token ∧
      token ≠ [] ∧ '/' ∉ token ∧ unescapeName token = name := by
  constructor
  · intro h
    unfold componentChars? at h
    split at h
    · next pointer htrim =>
      split at h
      · next first second token hsplit =>
        split_ifs at h with hparts
        obtain ⟨rfl, rfl, hne⟩ := hparts
        have hjoin := join_split '/' pointer
        rw [hsplit] at hjoin
        refine ⟨token, ?_, hne, ?_, Option.some.inj h⟩
        · rw [htrim, ← hjoin, componentsPath_append]
          rfl
        · have hmem : token ∈ split '/' pointer := by
            rw [hsplit]
            simp
          exact notMem_of_mem_split hmem
      · cases h
    · cases h
  · rintro ⟨token, htrim, hne, hslash, rfl⟩
    have hsplit : split '/' ("components".toList ++ '/' :: ("schemas".toList ++ '/' :: token)) =
        ["components".toList, "schemas".toList, token] := by
      rw [split_append_cons (by decide), split_append_cons (by decide), split_of_notMem hslash]
    rw [componentsPath_append] at htrim
    unfold componentChars?
    rw [htrim]
    simp only [hsplit, true_and]
    exact if_pos hne

/-- The reference to a component neither begins nor ends with a blank, if the name does not end with
one. -/
lemma isTrimmed_referenceTo {name : String} (hne : name ≠ "")
    (hlast : ∀ c, name.toList.getLast? = some c → isBlank c = false) :
    IsTrimmed isBlank (referenceTo name) := by
  have htoken : escapeName name.toList ≠ [] := escapeName_ne_nil (by simpa using hne)
  constructor
  · intro c hc
    obtain rfl : '#' = c := by
      rw [referenceTo, componentsPath_append] at hc
      exact Option.some.inj hc
    decide
  · intro c hc
    rw [referenceTo, List.getLast?_append] at hc
    obtain ⟨d, hd⟩ := Option.isSome_iff_exists.mp (List.getLast?_isSome.mpr htoken)
    rw [hd, Option.some_or] at hc
    rw [hc] at hd
    exact isBlank_getLast?_escapeName hlast hd

end References

section Names

variable {reference name : String}

/-- Reading a reference gives the name that both replacements make of its token. -/
theorem componentName?_eq_some_iff :
    componentName? reference = some name ↔
      ∃ token slashed, trim reference.toList = componentsPath ++ token ∧
        token ≠ [] ∧ '/' ∉ token ∧ Replaced ['~', '1'] ['/'] token slashed ∧
        Replaced ['~', '0'] ['~'] slashed name.toList := by
  have hchars : componentName? reference = some name ↔
      componentChars? reference.toList = some name.toList := by
    rw [componentName?, Option.map_eq_some_iff]
    constructor
    · rintro ⟨cs, hcs, rfl⟩
      rw [hcs, String.toList_ofList]
    · intro h
      exact ⟨name.toList, h, String.ofList_toList⟩
  rw [hchars, componentChars?_eq_some_iff]
  constructor
  · rintro ⟨token, htrim, hne, hslash, hname⟩
    exact ⟨token, _, htrim, hne, hslash, replaced_iff.mpr rfl, replaced_iff.mpr hname⟩
  · rintro ⟨token, slashed, htrim, hne, hslash, hfirst, hsecond⟩
    rw [replaced_iff] at hfirst hsecond
    exact ⟨token, htrim, hne, hslash, by rw [unescapeName, hfirst, hsecond]⟩

/-- No reference is read as the empty name. -/
lemma ne_empty_of_componentName? (h : componentName? reference = some name) : name ≠ "" := by
  obtain ⟨token, slashed, -, hne, -, hfirst, hsecond⟩ := componentName?_eq_some_iff.mp h
  rw [replaced_iff] at hfirst hsecond
  rintro rfl
  rw [← hfirst] at hsecond
  exact replaceTilde_ne_nil (replaceTilde_ne_nil hne) hsecond

/-- A written reference is read as its name, whatever blanks are around it. -/
lemma componentName?_of_referenceTo {before after : List Char} (hne : name ≠ "")
    (hlast : ∀ c, name.toList.getLast? = some c → isBlank c = false)
    (hbefore : ∀ c ∈ before, isBlank c = true) (hafter : ∀ c ∈ after, isBlank c = true)
    (hreference : reference.toList = before ++ referenceTo name ++ after) :
    componentName? reference = some name := by
  have htrim : trim reference.toList = referenceTo name := by
    rw [hreference]
    exact trimBy_append (isTrimmed_referenceTo hne hlast) hbefore hafter
  have htoken : escapeName name.toList ≠ [] := escapeName_ne_nil (by simpa using hne)
  have hchars : componentChars? reference.toList = some name.toList :=
    componentChars?_eq_some_iff.mpr
      ⟨_, htrim, htoken, slash_notMem_escapeName _, unescapeName_escapeName _⟩
  rw [componentName?, hchars, Option.map_some, String.ofList_toList]

/-- A schema that sets none of the keywords that come first is resolved by its reference. -/
lemma ofSchema_of_reference {index : ReferenceIndex} {s : Schema}
    (href : s.reference = some reference) (hname : componentName? reference = some name)
    (variants : s.variants = none) (types : s.types = []) (oneOf : s.oneOf = none) :
    TypeExpr.ofSchema index s = .ref name := by
  have htype : s.singleType? = none := by
    rw [Schema.singleType?, types]
    rfl
  have hreferred : s.referredName? = some name := by
    rw [Schema.referredName?, href]
    exact hname
  rw [TypeExpr.ofSchema_eq, Shape.ofSchema, variants, htype, oneOf, hreferred]
  exact congrArg TypeExpr.ref (ReferenceIndex.spelling_eq index name)

end Names

/-- References to components are read as they are written.  What is written for a name that is not
empty and does not end with a blank, with any blanks around it, is read as this name; so in a
document that declares the name, a schema with this reference and none of the keywords that come
first is resolved to the name, and the name does not dangle.  Conversely, a reference is read as a
name exactly if it is, without the blanks around it, the path of component schemas with one token
that is not empty and has no slash, and the name is what becomes of this token if `~1` is replaced
everywhere by a slash and then `~0` everywhere by a tilde; and this is never empty. -/
theorem references_read_as_written :
    (∀ (name reference : String) (before after : List Char), name ≠ "" →
        (∀ c, name.toList.getLast? = some c → isBlank c = false) →
        (∀ c ∈ before, isBlank c = true) → (∀ c ∈ after, isBlank c = true) →
        reference.toList = before ++ referenceTo name ++ after →
          componentName? reference = some name ∧
            ∀ doc : Document, name ∈ (Spec.ofDocument doc).names →
              (∀ s : Schema, s.reference = some reference → s.variants = none → s.types = [] →
                s.oneOf = none → TypeExpr.ofSchema (.ofDocument doc) s = .ref name) ∧
              name ∉ (Spec.ofDocument doc).dangling) ∧
      ∀ reference name : String,
        (componentName? reference = some name ↔
          ∃ token slashed, trim reference.toList = componentsPath ++ token ∧
            token ≠ [] ∧ '/' ∉ token ∧ Replaced ['~', '1'] ['/'] token slashed ∧
            Replaced ['~', '0'] ['~'] slashed name.toList) ∧
        (componentName? reference = some name → name ≠ "") := by
  refine ⟨fun name reference before after hne hlast hbefore hafter hreference => ?_,
    fun reference name => ⟨componentName?_eq_some_iff, ne_empty_of_componentName?⟩⟩
  have hname := componentName?_of_referenceTo hne hlast hbefore hafter hreference
  refine ⟨hname, fun doc declared => ⟨fun s href variants types oneOf => ?_, fun hmem => ?_⟩⟩
  · exact ofSchema_of_reference href hname variants types oneOf
  · exact (Spec.mem_danglingNames_iff.mp hmem).2 declared

/-- A document with a component whose name looks like a written slash. -/
def lookalikeComponents : Document where
  components := some { schemas := [("~1/~", { types := [.string] })] }

/-- What looks like a written slash in a name is read as it stands. -/
theorem reference_to_lookalike :
    let reference := "\t#/components/schemas/~01~1~0 \n"
    reference.toList = "\t".toList ++ referenceTo "~1/~" ++ " \n".toList ∧
      componentName? reference = some "~1/~" ∧
      TypeExpr.ofSchema (.ofDocument lookalikeComponents) { reference := some reference } =
        .ref "~1/~" ∧
      "~1/~" ∉ (Spec.ofDocument lookalikeComponents).dangling := by
  intro reference
  have hreference : reference.toList = "\t".toList ++ referenceTo "~1/~" ++ " \n".toList := by
    decide
  have hlast : ∀ c, "~1/~".toList.getLast? = some c → isBlank c = false := by
    intro c hc
    obtain rfl : '~' = c := Option.some.inj hc
    decide
  have hbefore : ∀ c ∈ "\t".toList, isBlank c = true := List.all_eq_true.mp (by decide)
  have hafter : ∀ c ∈ " \n".toList, isBlank c = true := List.all_eq_true.mp (by decide)
  obtain ⟨hname, hdoc⟩ := references_read_as_written.1 "~1/~" reference "\t".toList " \n".toList
    (by decide) hlast hbefore hafter hreference
  obtain ⟨hresolved, hdeclared⟩ := hdoc lookalikeComponents (by decide)
  exact ⟨hreference, hname, hresolved _ rfl rfl rfl rfl, hdeclared⟩

end TypedRouter.OpenApi
