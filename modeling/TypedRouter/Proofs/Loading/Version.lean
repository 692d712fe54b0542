import TypedRouter.Loading.Document
import TypedRouter.Proofs.Text.Digits
import TypedRouter.Proofs.TypeScript.Word

/-!
# Which versions are accepted

A version text has parts between points.  It is one of version 3.1 if the first part begins with a
numeral of three and the second with one of one, whatever else stands in them and in the parts that
follow.  Numerals may have zeros before them and have no bound, so a number beyond 64 bits is no
version, whatever it would leave in 64 bits.

A document declares its version by a text, or by a number that counts as its text.  The number is
replaced by the text before the check.  Since a text is left as it is, a document that was read is
read as itself again.
-/

namespace TypedRouter.Loading

open Json OpenApi Text

/-- A version text whose first two parts begin with numerals of two numbers. -/
def IsVersion (major minor : ℕ) (version : List Char) : Prop :=
  ∃ first second others, version = join '.' (first :: second :: others) ∧
    (∀ part ∈ first :: second :: others, '.' ∉ part) ∧
    BeginsWith major first ∧ BeginsWith minor second

/-- What a value declares as its version: a text, or a number as text. -/
inductive DeclaresVersion (raw : Value) : String → Prop where
  | string {version : String} (h : raw.get? "openapi" = some (.string version)) :
    DeclaresVersion raw version
  | number {n : Number} (h : raw.get? "openapi" = some (.number n)) : DeclaresVersion raw n.text

/-! ## Version texts -/

/-- The number at the front of a part is the one that its numeral denotes, unless that has more
than 64 bits. -/
lemma leadingNumber?_eq_some_iff {cs : List Char} {n : ℕ} :
    leadingNumber? cs = some n ↔ BeginsWith n cs ∧ n ≤ Number.maxInt := by
  rw [beginsWith_iff, leadingNumber?]
  constructor
  · intro h
    split_ifs at h with hbad
    obtain ⟨hne, hsmall⟩ : cs.takeWhile Char.isDigit ≠ [] ∧
        digitsValue (cs.takeWhile Char.isDigit) ≤ Number.maxInt := by simpa using hbad
    obtain rfl := Option.some.inj h
    exact ⟨⟨hne, rfl⟩, hsmall⟩
  · rintro ⟨⟨hne, rfl⟩, hsmall⟩
    exact if_neg (by simp [hne, hsmall])

/-- The version texts that are accepted are those of version 3.1. -/
theorem isSupported_iff {version : List Char} :
    isSupported version = true ↔ IsVersion 3 1 version := by
  constructor
  · intro h
    unfold isSupported at h
    split at h
    · next first second others hsplit =>
      rw [Bool.and_eq_true, beq_iff_eq, beq_iff_eq] at h
      refine ⟨first, second, others, ?_, fun part hpart => ?_,
        (leadingNumber?_eq_some_iff.mp h.1).1, (leadingNumber?_eq_some_iff.mp h.2).1⟩
      · rw [← hsplit, join_split]
      · exact notMem_of_mem_split (hsplit ▸ hpart)
    · cases h
  · rintro ⟨first, second, others, rfl, hpoint, hfirst, hsecond⟩
    have hmajor : leadingNumber? first = some 3 :=
      leadingNumber?_eq_some_iff.mpr ⟨hfirst, by decide⟩
    have hminor : leadingNumber? second = some 1 :=
      leadingNumber?_eq_some_iff.mpr ⟨hsecond, by decide⟩
    rw [isSupported, split_join (List.cons_ne_nil _ _) hpoint]
    simp only [hmajor, hminor, beq_self_eq_true, Bool.and_self]

/-- Zeros before a numeral and what follows it do not matter. -/
example : isSupported "003.01-rc.x".toList = true := by decide

/-- This is three beyond the numbers of 64 bits. -/
example : isSupported "18446744073709551619.1".toList = false := by decide

/-- A version is not empty. -/
lemma IsVersion.ne_nil {major minor : ℕ} {version : List Char}
    (h : IsVersion major minor version) : version ≠ [] := by
  obtain ⟨first, second, others, rfl, -⟩ := h
  exact List.append_ne_nil_of_right_ne_nil _ (List.cons_ne_nil _ _)

/-! ## Declared versions -/

section Declared

variable {raw : Value} {version : String}

/-- A value that declares its version by a number is an object. -/
lemma get?_set_self {name : String} {old new : Value} (h : raw.get? name = some old) :
    (raw.set name new).get? name = some new := by
  cases raw with
  | object members =>
    show (OrderedMap.set name new members).lookup name = some new
    rw [OrderedMap.lookup_set, if_pos rfl]
  | _ => cases h

/-- What a value declares is the version text once numbers are written as text. -/
lemma get?_versionAsText_iff :
    (versionAsText raw).get? "openapi" = some (.string version) ↔ DeclaresVersion raw version := by
  unfold versionAsText
  split
  · next n hnumber =>
    rw [get?_set_self hnumber]
    constructor
    · intro h
      obtain rfl : n.text = version := by simpa using h
      exact .number hnumber
    · rintro (hstring | hnumber')
      · rw [hnumber] at hstring
        cases hstring
      · rw [hnumber] at hnumber'
        cases hnumber'
        rfl
  · next hother =>
    constructor
    · exact .string
    · rintro (hstring | hnumber)
      · exact hstring
      · exact absurd hnumber (hother _)

/-- Writing the version as text twice is writing it once. -/
lemma versionAsText_versionAsText (raw : Value) :
    versionAsText (versionAsText raw) = versionAsText raw := by
  have hnumber : ∀ n, (versionAsText raw).get? "openapi" ≠ some (.number n) := by
    intro n
    conv_lhs => unfold versionAsText
    split
    · next hnumber => simp [get?_set_self hnumber]
    · next hother => exact hother n
  conv_lhs => unfold versionAsText
  split
  · next n hn => exact absurd hn (hnumber n)
  · rfl

/-- A document declares one version at most. -/
lemma DeclaresVersion.unique {other : String} (h : DeclaresVersion raw version)
    (h' : DeclaresVersion raw other) : version = other := by
  rw [← get?_versionAsText_iff] at h h'
  simpa [h] using h'

/-- Only a text can be an empty version, since no number has an empty text. -/
lemma declaresVersion_empty_iff :
    DeclaresVersion raw "" ↔ raw.get? "openapi" = some (.string "") := by
  constructor
  · intro h
    generalize hempty : "" = version at h
    cases h with
    | string hstring => exact hempty ▸ hstring
    | @number n hnumber =>
      have hchars : n.chars = [] := by
        rw [← String.ofList_eq_empty_iff]
        exact hempty.symm
      exact absurd hchars (TypeScript.startsNumber_number n).ne_nil
  · exact .string

/-- What the check finds in a value that declares a version. -/
lemma checkVersion_of_declares (h : DeclaresVersion raw version) :
    checkVersion (versionAsText raw) =
      if version = "" then .error .missing
      else if isSupported version.toList then .ok ()
      else .error (.unsupported version) := by
  rw [checkVersion, get?_versionAsText_iff.mpr h]
  simp only [String.isEmpty_iff]

/-- What the check finds in a value that declares no version. -/
lemma checkVersion_of_not_declares (h : ¬ ∃ version, DeclaresVersion raw version) :
    checkVersion (versionAsText raw) = .error .missing := by
  unfold checkVersion
  split
  · next version hversion => exact absurd ⟨version, get?_versionAsText_iff.mp hversion⟩ h
  · rfl

/-- The check passes for the values that declare version 3.1. -/
lemma checkVersion_eq_ok_iff :
    checkVersion (versionAsText raw) = .ok () ↔
      ∃ version, DeclaresVersion raw version ∧ IsVersion 3 1 version.toList := by
  by_cases hdeclared : ∃ version, DeclaresVersion raw version
  · obtain ⟨version, hversion⟩ := hdeclared
    rw [checkVersion_of_declares hversion]
    constructor
    · intro h
      split_ifs at h with hempty hsupported
      exact ⟨version, hversion, isSupported_iff.mp hsupported⟩
    · rintro ⟨other, hother, hthree⟩
      obtain rfl := hversion.unique hother
      have hempty : version ≠ "" := fun h => hthree.ne_nil (String.toList_eq_nil_iff.mpr h)
      rw [if_neg hempty, if_pos (isSupported_iff.mpr hthree)]
  · rw [checkVersion_of_not_declares hdeclared]
    exact iff_of_false (by simp) fun ⟨version, hversion, _⟩ => hdeclared ⟨version, hversion⟩

/-- The check misses a version where none is declared, or an empty one. -/
lemma checkVersion_eq_missing_iff :
    checkVersion (versionAsText raw) = .error .missing ↔
      (∀ version, ¬ DeclaresVersion raw version) ∨ raw.get? "openapi" = some (.string "") := by
  rw [← declaresVersion_empty_iff]
  by_cases hdeclared : ∃ version, DeclaresVersion raw version
  · obtain ⟨version, hversion⟩ := hdeclared
    rw [checkVersion_of_declares hversion]
    constructor
    · intro h
      split_ifs at h with hempty
      · exact .inr (hempty ▸ hversion)
      · cases h
    · rintro (hnone | hempty)
      · exact absurd hversion (hnone version)
      · exact if_pos (hversion.unique hempty)
  · rw [checkVersion_of_not_declares hdeclared]
    exact iff_of_true rfl (.inl (not_exists.mp hdeclared))

/-- The check reports every other version as it is declared. -/
lemma checkVersion_eq_unsupported_iff :
    checkVersion (versionAsText raw) = .error (.unsupported version) ↔
      DeclaresVersion raw version ∧ version ≠ "" ∧ ¬ IsVersion 3 1 version.toList := by
  by_cases hdeclared : ∃ version, DeclaresVersion raw version
  · obtain ⟨declared, hdeclared⟩ := hdeclared
    rw [checkVersion_of_declares hdeclared]
    constructor
    · intro h
      split_ifs at h with hempty hsupported
      · cases h
      · cases h
        exact ⟨hdeclared, hempty, mt isSupported_iff.mpr hsupported⟩
    · rintro ⟨hversion, hempty, hthree⟩
      obtain rfl := hdeclared.unique hversion
      rw [if_neg hempty, if_neg (mt isSupported_iff.mp hthree)]
  · rw [checkVersion_of_not_declares hdeclared]
    exact iff_of_false (by simp) fun ⟨hversion, _⟩ => hdeclared ⟨version, hversion⟩

end Declared

/-! ## Loaded documents -/

namespace Loaded

/-- Only the check reports a version. -/
lemma ofValue_eq_error_version_iff {raw : Value} {e : VersionError} :
    ofValue raw = .error (.version e) ↔ checkVersion (versionAsText raw) = .error e := by
  unfold ofValue
  dsimp only
  cases hcheck : checkVersion (versionAsText raw) with
  | error found => simp
  | ok _ =>
    cases hdecode : Document.ofValue (versionAsText raw) with
    | error p => simp
    | ok doc => simp

/-- The value of a loaded document is the one it was loaded from, with the version as text. -/
lemma raw_of_ofValue {raw : Value} {loaded : Loaded} (h : ofValue raw = .ok loaded) :
    loaded.raw = versionAsText raw := by
  unfold ofValue at h
  dsimp only at h
  split at h
  · cases h
  · split at h
    · cases h
    · cases h
      rfl

/-- A value is loaded as the one with its version as text is. -/
lemma ofValue_versionAsText (raw : Value) : ofValue (versionAsText raw) = ofValue raw := by
  unfold ofValue
  rw [versionAsText_versionAsText]

/-- The check passes exactly for the values that declare version 3.1.  Of the others, those that
declare no version or an empty one are reported as lacking it, and every other version is reported
as it is declared.  The value of a document that was loaded is loaded as the same document. -/
theorem ofValue_accepts_version (raw : Value) :
    ((∀ e, ofValue raw ≠ .error (.version e)) ↔
        ∃ version, DeclaresVersion raw version ∧ IsVersion 3 1 version.toList) ∧
      (ofValue raw = .error (.version .missing) ↔
        (∀ version, ¬ DeclaresVersion raw version) ∨ raw.get? "openapi" = some (.string "")) ∧
      (∀ version, ofValue raw = .error (.version (.unsupported version)) ↔
        DeclaresVersion raw version ∧ version ≠ "" ∧ ¬ IsVersion 3 1 version.toList) ∧
      ∀ loaded, ofValue raw = .ok loaded → ofValue loaded.raw = .ok loaded := by
  refine ⟨?_, ?_, fun version => ?_, fun loaded h => ?_⟩
  · rw [← checkVersion_eq_ok_iff]
    cases hcheck : checkVersion (versionAsText raw) with
    | error e =>
      have hreported : ofValue raw = .error (.version e) :=
        ofValue_eq_error_version_iff.mpr hcheck
      exact iff_of_false (fun h => h e hreported) (by simp)
    | ok _ =>
      refine iff_of_true (fun e h => ?_) rfl
      rw [ofValue_eq_error_version_iff, hcheck] at h
      cases h
  · rw [ofValue_eq_error_version_iff, checkVersion_eq_missing_iff]
  · rw [ofValue_eq_error_version_iff, checkVersion_eq_unsupported_iff]
  · rw [raw_of_ofValue h, ofValue_versionAsText, h]

/-- A document whose version is the number `3.1`. -/
def numberedDocument : Value :=
  .object [("paths", .object []),
    ("openapi", .number (.float ⟨false, 0x18CCCCCCCCCCCD, -51⟩))]

/-- A version that is a number is accepted, and also when it has become a text. -/
theorem ofValue_accepts_number :
    DeclaresVersion numberedDocument "3.1" ∧ IsVersion 3 1 "3.1".toList ∧
      (∀ e, ofValue numberedDocument ≠ .error (.version e)) ∧
      ∃ loaded, ofValue numberedDocument = .ok loaded ∧
        loaded.raw = .object [("paths", .object []), ("openapi", .string "3.1")] ∧
        ofValue loaded.raw = .ok loaded := by
  have htext : (Number.float ⟨false, 0x18CCCCCCCCCCCD, -51⟩).text = "3.1" := by decide +kernel
  have hdeclares : DeclaresVersion numberedDocument "3.1" := htext ▸ .number rfl
  have hthree : IsVersion 3 1 "3.1".toList := isSupported_iff.mp (by decide)
  obtain ⟨haccepted, -, -, hagain⟩ := ofValue_accepts_version numberedDocument
  have hchecked := haccepted.mpr ⟨"3.1", hdeclares, hthree⟩
  have hraw : versionAsText numberedDocument =
      .object [("paths", .object []), ("openapi", .string "3.1")] := by
    show Value.object [("paths", .object []), ("openapi", .string _)] = _
    rw [htext]
  obtain ⟨loaded, hloaded⟩ : ∃ loaded, ofValue numberedDocument = .ok loaded := by
    rw [← ofValue_versionAsText, hraw]
    exact ⟨_, rfl⟩
  exact ⟨hdeclares, hthree, hchecked, loaded, hloaded, (raw_of_ofValue hloaded).trans hraw,
    hagain loaded hloaded⟩

end Loaded

end TypedRouter.Loading
