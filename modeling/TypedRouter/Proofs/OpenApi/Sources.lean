import TypedRouter.OpenApi.Document.Decode
import TypedRouter.Proofs.Json.Reader

/-!
# A document from a text and from a value

A document can be read from a JSON text as the text comes, or from the value that the text holds.
The decoders are the same, but what they walk through is not: a text may break off, name a member
twice, or hold parts that cannot be read, and a value has none of this.

A text that holds a value has no faults.  If none of its objects names a member twice either, what
is read from it is the outline of that value, name by name and item by item.  So the two ways give
the same document, or both give none.
-/

namespace TypedRouter.Outline

open Json Json.Reader

/-! ## Names that differ -/

/-- The names of the members of an object, as far as they can be read. -/
def memberNames (members : List (Outline × Outline)) : List String :=
  members.filterMap fun m => m.1.nameText.toOption

mutual

/-- Whether no object inside an outline gives one name to two members. -/
def namesDiffer : Outline → Bool
  | .scalar _ value => namesDiffer value
  | .list items _ => namesDifferInItems items
  | .object members _ => decide (memberNames members).Nodup && namesDifferInMembers members
  | .tagged inner => namesDiffer inner
  | .unreadable _ inner => namesDiffer inner
  | _ => true
termination_by structural o => o

/-- Whether no object inside the items of a list gives one name to two members. -/
def namesDifferInItems : List Outline → Bool
  | [] => true
  | x :: xs => namesDiffer x && namesDifferInItems xs
termination_by structural xs => xs

/-- Whether no object inside the members of another gives one name to two members. -/
def namesDifferInMembers : List (Outline × Outline) → Bool
  | [] => true
  | (_, x) :: rest => namesDiffer x && namesDifferInMembers rest
termination_by structural xs => xs

end

/-! ## The outline of a value -/

/-- An outline that is read as a value, if at all, is the outline of that value. -/
def IsOfItsValue (o : Outline) : Prop :=
  ∀ v, o.namesDiffer = true → o.toValue = .ok v → o = ofValue v

/-- A name that a JSON text gives and that can be read is a text. -/
lemma eq_text_of_nameText {o : Outline} (h : IsName o) {name : String}
    (hname : o.nameText = .ok name) : o = .text name := by
  cases h with
  | text s => exact congrArg Outline.text (Except.ok.inj hname)
  | broken f => cases hname
  | unreadable f inner => cases hname

/-- Items with different names are those of their values. -/
lemma eq_ofItems {items : List Outline} (each : ∀ o ∈ items, IsOfItsValue o) {position : Nat}
    {values : List Value} (differ : namesDifferInItems items = true)
    (h : itemValues position items = .ok values) : items = ofItems values := by
  induction items generalizing position values with
  | nil =>
    cases h
    rfl
  | cons x xs ih =>
    rw [namesDifferInItems, Bool.and_eq_true] at differ
    obtain ⟨v, hv, h⟩ := Decoded.bind_eq_ok.mp h
    obtain ⟨vs, hvs, h⟩ := Decoded.bind_eq_ok.mp h
    cases h
    have hx := each x List.mem_cons_self v differ.1 (Decoded.under_eq_ok.mp hv)
    have hxs := ih (fun o ho => each o (List.mem_cons_of_mem x ho)) differ.2 hvs
    rw [ofItems, ← hx, ← hxs]

/-- The members that are read as named values are those of the outline, in order. -/
lemma eq_ofMembers {members : List (Outline × Outline)} (names : ∀ m ∈ members, IsName m.1)
    (each : ∀ m ∈ members, IsOfItsValue m.2) {values : List (String × Value)}
    (differ : namesDifferInMembers members = true) (h : memberValues members = .ok values) :
    members = ofMembers values ∧ memberNames members = values.map Prod.fst := by
  induction members generalizing values with
  | nil =>
    cases h
    exact ⟨rfl, rfl⟩
  | cons member rest ih =>
    obtain ⟨k, x⟩ := member
    rw [namesDifferInMembers, Bool.and_eq_true] at differ
    obtain ⟨name, hname, h⟩ := Decoded.bind_eq_ok.mp h
    obtain ⟨v, hv, h⟩ := Decoded.bind_eq_ok.mp h
    obtain ⟨vs, hvs, h⟩ := Decoded.bind_eq_ok.mp h
    cases h
    have hk := eq_text_of_nameText (names _ List.mem_cons_self) (Decoded.under_eq_ok.mp hname)
    have hx := each _ List.mem_cons_self v differ.1 (Decoded.under_eq_ok.mp hv)
    obtain ⟨hrest, hnames⟩ := ih (fun m hm => names m (List.mem_cons_of_mem _ hm))
      (fun m hm => each m (List.mem_cons_of_mem _ hm)) differ.2 hvs
    dsimp only at hk hx
    subst hk
    constructor
    · rw [ofMembers, ← hx, ← hrest]
    · rw [List.map_cons, ← hnames]
      rfl

/-- A part of a JSON text that is read as a value is the outline of that value, unless an object
inside it names a member twice. -/
theorem isOfItsValue_of_isJson {o : Outline} (h : IsJson o) : IsOfItsValue o := by
  induction h with
  | null | bool _ | number _ | text _ =>
    intro v _ hv
    cases hv
    rfl
  | list stop values ih =>
    intro v differ hv
    obtain ⟨vs, hvs, hv⟩ := Decoded.bind_eq_ok.mp hv
    obtain ⟨_, hstop, hv⟩ := Decoded.bind_eq_ok.mp hv
    cases hv
    rw [ofValue, ← eq_ofItems ih differ hvs, Decoded.stopped_eq_ok.mp hstop]
  | object stop names values ih =>
    intro v differ hv
    rw [namesDiffer, Bool.and_eq_true, decide_eq_true_iff] at differ
    obtain ⟨ms, hms, hv⟩ := Decoded.bind_eq_ok.mp hv
    obtain ⟨_, hstop, hv⟩ := Decoded.bind_eq_ok.mp hv
    cases hv
    obtain ⟨hmembers, hnames⟩ := eq_ofMembers names ih differ.2 hms
    rw [hnames] at differ
    rw [OrderedMap.ofList_of_nodup differ.1, ofValue, ← hmembers, Decoded.stopped_eq_ok.mp hstop]
  | broken _ | unreadable _ _ =>
    intro v _ hv
    cases hv

end TypedRouter.Outline

namespace TypedRouter.Json.Value

/-- The value that a text holds is read from the outline of the text. -/
lemma toValue_of_ofText {text : String} {v : Value} (h : ofText text = .ok v) :
    (Outline.read text.toList).1.toValue = .ok v := by
  unfold ofText at h
  dsimp only at h
  split at h
  · cases h
  · next w hw =>
    split at h
    · cases h
    · split at h
      · cases h
        exact hw
      · cases h

/-- A text that holds a value, and names no member twice, is read into the outline of the value. -/
theorem read_eq_ofValue {text : String} {v : Value} (whole : ofText text = .ok v)
    (differ : (Outline.read text.toList).1.namesDiffer = true) :
    (Outline.read text.toList).1 = Outline.ofValue v :=
  Outline.isOfItsValue_of_isJson (Outline.isJson_read text.toList) v differ
    (toValue_of_ofText whole)

end TypedRouter.Json.Value

namespace TypedRouter.OpenApi.Document

open Json

/-- Reading a text as it comes changes the cause of a problem at most. -/
lemma ofJson_eq_ok {text : String} {doc : Document} :
    ofJson text = .ok doc ↔ decode (Outline.read text.toList).1 = .ok doc := by
  unfold ofJson
  split
  · next heq => simp [heq]
  · rfl

/-- A document is read from a text that holds a value if and only if it is read from the value, as
long as no object in the text names a member twice. -/
theorem ofJson_eq_ok_iff_ofValue {text : String} {v : Value} (whole : Value.ofText text = .ok v)
    (differ : (Outline.read text.toList).1.namesDiffer = true) (doc : Document) :
    ofJson text = .ok doc ↔ ofValue v = .ok doc := by
  rw [ofJson_eq_ok, Value.read_eq_ofValue whole differ, ofValue]

/-- A document with one operation, which takes a parameter and gives a part that is not written
out. -/
def petsText : String :=
  "\x7b\x22openapi\x22:\x223.1\x22,\x22paths\x22:\x7b\x22/pets\x22:\x7b\x22get\x22:\x7b" ++
    "\x22parameters\x22:[\x7b\x22name\x22:\x22limit\x22,\x22in\x22:\x22query\x22\x7d]," ++
    "\x22responses\x22:\x7b\x22200\x22:\x7b\x22$ref\x22:\x22pet\x22\x7d\x7d\x7d\x7d\x7d\x7d"

/-- The document is read both ways. -/
theorem petsText_read_both_ways :
    ∃ v doc, Value.ofText petsText = .ok v ∧
      (Outline.read petsText.toList).1.namesDiffer = true ∧ ofJson petsText = .ok doc ∧
        ofValue v = .ok doc ∧ doc.paths.map Prod.fst = ["/pets"] := by
  have hfound : ((Value.ofText petsText).isOk &&
      (Outline.read petsText.toList).1.namesDiffer &&
        ((ofJson petsText).toOption.map fun doc => doc.paths.map Prod.fst) == some ["/pets"]) =
      true := by
    decide +kernel
  rw [Bool.and_eq_true, Bool.and_eq_true, beq_iff_eq, Option.map_eq_some_iff] at hfound
  obtain ⟨⟨whole, differ⟩, doc, hdoc, hpaths⟩ := hfound
  cases hv : Value.ofText petsText with
  | error f =>
    rw [hv] at whole
    cases whole
  | ok v =>
    cases hj : ofJson petsText with
    | error p =>
      rw [hj] at hdoc
      cases hdoc
    | ok found =>
      rw [hj] at hdoc
      obtain rfl : found = doc := Option.some.inj hdoc
      exact ⟨v, found, rfl, differ, rfl, (ofJson_eq_ok_iff_ofValue hv differ found).mp hj, hpaths⟩

/-- In a text, a member that a record has twice is a fault; in the value, the last one counts. -/
example :
    (ofJson "\x7b\x22openapi\x22:\x223\x22,\x22openapi\x22:\x223\x22\x7d").isOk = false ∧
      ((Value.ofText "\x7b\x22openapi\x22:\x223\x22,\x22openapi\x22:\x223\x22\x7d").bind
        fun v => (ofValue v).mapError fun _ => .malformed).isOk = true := by
  decide +kernel

end TypedRouter.OpenApi.Document
