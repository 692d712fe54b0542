import TypedRouter.Client.Call
import TypedRouter.Proofs.Router.Leaves
import TypedRouter.Router.Spec

/-!
# Call paths

A leaf of a router and a procedure of a client stand for the same operation, but they are made on
two ways that share nothing.  The leaf comes out of a document, where the operation is declared for
a method.  The procedure comes out of a call path, whose last two elements are read as the names of
a method and of a kind; the client has its own table of methods, and its own rule for which of them
are queries.

Both sides agree on all seven methods.  So whatever texts are put in place of the parameters of a
leaf, the call path with its method and its kind names the procedure that the leaf stands for.  In
the other direction a call path names a procedure only if it ends with a method and the kind of this
method, however long it is and whatever its other elements are called, and the procedure has kept
all that is needed to write the call path again.
-/

namespace TypedRouter

open OpenApi Router

/-- Whether a text can stand in a call in place of a segment: literal text stands for itself, and
any text can stand for a parameter. -/
def OpenApi.Segment.Takes : Segment → String → Prop
  | .literal text, value => value = text
  | .param _, _ => True

namespace Client

/-! ## Methods and kinds -/

/-- Each method goes by the same name in call paths and in documents. -/
lemma tokenOfName?_name (m : Method) : tokenOfName? m.name = some (methodToken m) := by
  cases m <;> rfl

/-- There are no other names of methods in call paths. -/
lemma exists_method_of_tokenOfName? {name token : String} (h : tokenOfName? name = some token) :
    ∃ m : Method, m.name = name ∧ methodToken m = token := by
  unfold tokenOfName? at h
  split at h
  · exact ⟨.get, rfl, Option.some.inj h⟩
  · exact ⟨.post, rfl, Option.some.inj h⟩
  · exact ⟨.put, rfl, Option.some.inj h⟩
  · exact ⟨.patch, rfl, Option.some.inj h⟩
  · exact ⟨.delete, rfl, Option.some.inj h⟩
  · exact ⟨.head, rfl, Option.some.inj h⟩
  · exact ⟨.options, rfl, Option.some.inj h⟩
  · cases h

/-- The kind that a client derives from a method is the one that the router gives it. -/
lemma kindOfToken_methodToken (m : Method) : kindOfToken (methodToken m) = m.kind := by
  cases m <;> rfl

/-- A method can be told from its name in a request. -/
lemma find?_methodToken (m : Method) :
    (Method.all.find? fun other => methodToken other == methodToken m) = some m := by
  cases m <;> rfl

/-! ## Reading and writing call paths -/

namespace Procedure

/-- The call path that names a procedure.  There is none if its method has no name in call
paths. -/
def callPath? (p : Procedure) : Option (List String) :=
  (Method.all.find? fun m => methodToken m == p.method).map fun m =>
    p.segments ++ [m.name, p.kind.name]

/-- A procedure has a call path if its method is one of the seven. -/
lemma callPath?_eq_some_iff {p : Procedure} {path : List String} :
    p.callPath? = some path ↔
      ∃ m : Method, p.method = methodToken m ∧ path = p.segments ++ [m.name, m.kind.name] := by
  unfold callPath? kind
  rw [Option.map_eq_some_iff]
  constructor
  · rintro ⟨m, hm, rfl⟩
    have htoken : methodToken m = p.method := by simpa using List.find?_some hm
    exact ⟨m, htoken.symm, by rw [← htoken, kindOfToken_methodToken]⟩
  · rintro ⟨m, hm, rfl⟩
    exact ⟨m, by rw [hm, find?_methodToken], by rw [hm, kindOfToken_methodToken]⟩

/-- The last two elements of a call path are read as a method and its kind, and all others are
segments, whatever they are. -/
lemma ofCallPath?_eq_some_iff {path : List String} {p : Procedure} :
    ofCallPath? path = some p ↔
      ∃ m : Method, p.method = methodToken m ∧ path = p.segments ++ [m.name, m.kind.name] := by
  constructor
  · intro h
    unfold ofCallPath? at h
    split at h
    · next kind name segments hpath =>
      obtain ⟨token, htoken, h⟩ := Option.bind_eq_some_iff.mp h
      obtain ⟨m, rfl, rfl⟩ := exists_method_of_tokenOfName? htoken
      dsimp only at h
      split at h
      · next hkind =>
        obtain rfl := Option.some.inj h
        have hend : path = segments.reverse ++ [m.name, kind] := by
          rw [← List.reverse_reverse path, hpath]
          simp
        rw [Procedure.kind, kindOfToken_methodToken] at hkind
        exact ⟨m, rfl, by rw [hend, hkind]⟩
      · cases h
    · cases h
  · rintro ⟨m, hm, rfl⟩
    obtain ⟨segments, method⟩ := p
    obtain rfl : method = methodToken m := hm
    have hreverse : (segments ++ [m.name, m.kind.name]).reverse =
        m.kind.name :: m.name :: segments.reverse := by simp
    unfold ofCallPath?
    rw [hreverse]
    simp [tokenOfName?_name, Procedure.kind, kindOfToken_methodToken]

/-- Reading a call path undoes writing one. -/
theorem ofCallPath?_eq_some_iff_callPath? {path : List String} {p : Procedure} :
    ofCallPath? path = some p ↔ p.callPath? = some path := by
  rw [ofCallPath?_eq_some_iff, callPath?_eq_some_iff]

end Procedure

/-- A call path is understood if it denotes a procedure, and as this one. -/
@[simp] lemma procedureOf_eq_ok_iff {path : List String} {p : Procedure} :
    procedureOf path = .ok p ↔ Procedure.ofCallPath? path = some p := by
  unfold procedureOf
  cases Procedure.ofCallPath? path with
  | none => simp
  | some q => simp

/-- A text without a procedure is reported as a whole. -/
lemma procedureOf_of_ofCallPath?_eq_none {path : List String}
    (h : Procedure.ofCallPath? path = none) :
    procedureOf path = .error (.badCallPath (".".intercalate path)) := by
  unfold procedureOf
  rw [h]

/-! ## Leaves -/

/-- The kind of a leaf is that of its method. -/
lemma kind_of_mem_leaves {doc : Document} {leaf : Leaf}
    (h : leaf ∈ (Spec.ofDocument doc).root.leaves) : leaf.2.kind = leaf.2.method.kind := by
  obtain ⟨path, -, operation, -, rfl⟩ := Tree.mem_leaves_build.mp h
  rfl

/-- Every leaf of a router can be called: texts that can stand for its segments, followed by its
method and its kind, are the call path of a procedure with these segments, this method and this
kind.  A call path names a procedure if and only if it ends with the name of one of the seven
methods and the kind that the router gives it, and then it is the call path of this procedure; every
other is reported, with its elements joined by points. -/
theorem callPaths_of_leaves (doc : Document) :
    (∀ leaf ∈ (Spec.ofDocument doc).root.leaves, ∀ values,
        List.Forall₂ Segment.Takes leaf.1 values →
          ∃ p, procedureOf (values ++ [leaf.2.method.name, leaf.2.kind.name]) = .ok p ∧
            p.segments = values ∧ p.method = methodToken leaf.2.method ∧ p.kind = leaf.2.kind) ∧
      ∀ path : List String,
        (∃ segments, ∃ m : Method, path = segments ++ [m.name, m.kind.name] ∧
            ∃ p, procedureOf path = .ok p ∧ p.callPath? = some path) ∨
          (∀ segments, ∀ m : Method, path ≠ segments ++ [m.name, m.kind.name]) ∧
            procedureOf path = .error (.badCallPath (".".intercalate path)) := by
  constructor
  · intro leaf hleaf values _
    have hkind := kind_of_mem_leaves hleaf
    let p : Procedure := ⟨values, methodToken leaf.2.method⟩
    have hp : Procedure.ofCallPath? (values ++ [leaf.2.method.name, leaf.2.kind.name]) = some p :=
      Procedure.ofCallPath?_eq_some_iff.mpr ⟨leaf.2.method, rfl, by rw [hkind]⟩
    refine ⟨p, procedureOf_eq_ok_iff.mpr hp, rfl, rfl, ?_⟩
    rw [hkind]
    exact kindOfToken_methodToken leaf.2.method
  · intro path
    cases hpath : Procedure.ofCallPath? path with
    | some p =>
      left
      obtain ⟨m, -, hend⟩ := Procedure.ofCallPath?_eq_some_iff.mp hpath
      exact ⟨p.segments, m, hend, p, procedureOf_eq_ok_iff.mpr hpath,
        Procedure.ofCallPath?_eq_some_iff_callPath?.mp hpath⟩
    | none =>
      right
      refine ⟨fun segments m hend => ?_, procedureOf_of_ofCallPath?_eq_none hpath⟩
      have hsome : Procedure.ofCallPath? path = some ⟨segments, methodToken m⟩ :=
        Procedure.ofCallPath?_eq_some_iff.mpr ⟨m, rfl, hend⟩
      rw [hpath] at hsome
      cases hsome

/-- A document with one path, whose literal segments are called like a method and a kind. -/
def lookalikeDocument : Document where
  paths := [("/get/\x7bid\x7d/query", { get := some {} })]

/-- Segments that are called like a method and a kind are segments all the same. -/
theorem callPath_of_lookalike :
    ∃ leaf ∈ (Spec.ofDocument lookalikeDocument).root.leaves,
      List.Forall₂ Segment.Takes leaf.1 ["get", "42", "query"] ∧
        procedureOf ["get", "42", "query", "get", "query"] =
          .ok ⟨["get", "42", "query"], "GET"⟩ := by
  let leaf : Leaf := ([.literal "get", .param "id", .literal "query"],
    Procedure.ofOperation (.ofDocument lookalikeDocument) .get {})
  have hleaf : leaf ∈ (Spec.ofDocument lookalikeDocument).root.leaves := by
    refine Tree.mem_leaves_build.mpr ⟨_, List.mem_singleton_self _, (.get, {}), ?_, ?_⟩
    · exact List.mem_singleton_self _
    · have hsegments : segments "/get/\x7bid\x7d/query" =
          [.literal "get", .param "id", .literal "query"] := by decide
      rw [hsegments]
  have htakes : List.Forall₂ Segment.Takes leaf.1 ["get", "42", "query"] :=
    .cons rfl (.cons trivial (.cons rfl .nil))
  obtain ⟨p, hp, hsegments, hmethod, -⟩ :=
    (callPaths_of_leaves lookalikeDocument).1 leaf hleaf _ htakes
  refine ⟨leaf, hleaf, htakes, ?_⟩
  obtain rfl : p = ⟨["get", "42", "query"], "GET"⟩ := by
    obtain ⟨segments, method⟩ := p
    cases hsegments
    cases hmethod
    rfl
  exact hp

end Client

end TypedRouter
