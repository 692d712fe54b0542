import TypedRouter.Proofs.Url.Percent
import TypedRouter.Text.Split
import TypedRouter.Url.Extend

/-!
# Reading forms

A query is read piece by piece: ampersands separate the pairs, the first equals sign of a piece ends
the name, and in names and values a plus sign stands for a space and percent signs spell bytes.
Nothing between two ampersands is no pair.

A name or a value that is written is percent-encoded, but for its spaces.  So it has no ampersand,
equals sign or plus sign of its own, and reading a query that was written gives its pairs.  What is
before an ampersand is read without what is after it, so pairs that are added to a query, whatever
is in it, are read after those that were there.
-/

namespace TypedRouter.Url

open Text

namespace Form

/-- A plus sign stands for a space. -/
def unplus (c : Char) : Char := if c = '+' then ' ' else c

/-- The name or the value that a text spells. -/
def decode (cs : List Char) : String :=
  String.ofList (Utf8.decodeLossy (Percent.decode (cs.map unplus)))

/-- The pair that a piece of a query spells.  Without an equals sign it is a name with an empty
value. -/
def readPair (piece : List Char) : String × String :=
  let (name, value) := Reader.cut '=' piece
  (decode name, decode (value.getD []))

/-- The pairs of a query. -/
def read (query : List Char) : List (String × String) :=
  ((split '&' query).filter fun piece => !piece.isEmpty).map readPair

/-! ## Names and values -/

/-- Whether a character of a name or a value is encoded: all but spaces and those that stand for
themselves. -/
def isEscaped (c : Char) : Bool := !isPlain c && c != ' '

/-- There is no plus sign in the escape of a character. -/
lemma map_unplus_escapeChar (c : Char) :
    (Percent.escapeChar c).map unplus = Percent.escapeChar c := by
  refine (List.map_congr_left fun d hd => if_neg ?_).trans (List.map_id _)
  rintro rfl
  exact absurd (Percent.escapeChar_subset_marks c hd) (by decide)

/-- With spaces for its plus signs, a character is percent-encoded as it needs to be. -/
lemma map_unplus_encodeChar (c : Char) :
    (encodeChar c).map unplus = if isEscaped c then Percent.escapeChar c else [c] := by
  unfold encodeChar
  by_cases hplain : isPlain c
  · have hplus : c ≠ '+' := by
      rintro rfl
      exact absurd hplain (by decide)
    rw [if_pos hplain, if_neg (by simp [isEscaped, hplain]), List.map_singleton, unplus,
      if_neg hplus]
  by_cases hspace : c = ' '
  · subst hspace
    decide
  · rw [if_neg hplain, if_neg hspace, if_pos (by simp [isEscaped, hplain, hspace]),
      map_unplus_escapeChar]

/-- With spaces put back for its plus signs, an encoded text is a percent-encoded one. -/
lemma map_unplus_encode (s : String) :
    (encode s).map unplus = Percent.encode isEscaped s.toList := by
  rw [encode, List.map_flatMap]
  exact congrArg (s.toList.flatMap ·) (funext map_unplus_encodeChar)

/-- A name or a value is read as it was written. -/
theorem decode_encode (s : String) : decode (encode s) = s := by
  rw [decode, map_unplus_encode, Percent.decode_encode (by decide), Utf8.decodeLossy_encode,
    String.ofList_toList]

/-- A mark that does not stand for itself is not in a name or a value, unless it is one of those
that spell bytes and spaces. -/
lemma notMem_encode {c : Char} (hplain : isPlain c = false) (hplus : c ≠ '+')
    (hmark : c ∉ Percent.marks) (s : String) : c ∉ encode s := by
  intro hmem
  obtain ⟨d, -, hd⟩ := List.mem_flatMap.mp hmem
  unfold encodeChar at hd
  split_ifs at hd with hplain' hspace
  · rw [← List.mem_singleton.mp hd, hplain] at hplain'
    cases hplain'
  · exact hplus (List.mem_singleton.mp hd)
  · exact hmark (Percent.escapeChar_subset_marks d hd)

/-! ## Pairs -/

/-- A text that is written before a mark is cut off at the mark. -/
lemma cut_append {mark : Char} {front : List Char} (h : mark ∉ front) (rest : List Char) :
    Reader.cut mark (front ++ mark :: rest) = (front, some rest) := by
  have hfront : ∀ c ∈ front, (c != mark) = true := fun c hc =>
    bne_iff_ne.mpr (ne_of_mem_of_not_mem hc h)
  simp only [Reader.cut, List.dropWhile_append_of_pos hfront, List.takeWhile_append_of_pos hfront,
    List.dropWhile_cons, List.takeWhile_cons, bne_self_eq_false, Bool.false_eq_true, if_false,
    List.append_nil]

/-- A pair is read as it was written. -/
lemma readPair_pair (p : String × String) : readPair (pair p) = p := by
  have hequals : '=' ∉ encode p.1 := notMem_encode (by decide) (by decide) (by decide) p.1
  rw [readPair, pair, cut_append hequals]
  simp only [Option.getD_some, decode_encode]

/-- No pair holds the mark that stands between pairs. -/
lemma amp_notMem_pair (p : String × String) : '&' ∉ pair p := by
  have hamp (s : String) : '&' ∉ encode s := notMem_encode (by decide) (by decide) (by decide) s
  rw [pair, List.mem_append, List.mem_cons, not_or, not_or]
  exact ⟨hamp p.1, by decide, hamp p.2⟩

/-- No pair is written as nothing. -/
@[simp] lemma pair_ne_nil (p : String × String) : pair p ≠ [] :=
  List.append_ne_nil_of_right_ne_nil _ (List.cons_ne_nil _ _)

/-- A pair is read as it was. -/
lemma read_pair (p : String × String) : read (pair p) = [p] := by
  have hne : (pair p).isEmpty = false := List.isEmpty_eq_false_iff.mpr (pair_ne_nil p)
  rw [read, split_of_notMem (amp_notMem_pair p), List.filter_cons_of_pos (by rw [hne]; rfl),
    List.filter_nil, List.map_singleton, readPair_pair]

/-- An ampersand separates what is before it from what is after it. -/
lemma read_append (query rest : List Char) :
    read (query ++ '&' :: rest) = read query ++ read rest := by
  rw [read, split_append, List.filter_append, List.map_append, read, read]

/-! ## Queries -/

/-- One pair is written without a mark. -/
@[simp] lemma pairs_singleton (p : String × String) : pairs [p] = pair p :=
  List.intercalate_singleton

/-- Before further pairs a pair is followed by a mark. -/
lemma pairs_cons (p : String × String) {ps : List (String × String)} (hps : ps ≠ []) :
    pairs (p :: ps) = pair p ++ '&' :: pairs ps := by
  obtain ⟨next, rest, rfl⟩ := List.exists_cons_of_ne_nil hps
  rw [pairs, List.map_cons, List.map_cons, List.intercalate_cons_cons, pairs, List.map_cons,
    List.append_assoc, List.singleton_append]

/-- Between two groups of pairs there is one mark. -/
lemma pairs_append {ps qs : List (String × String)} (hps : ps ≠ []) (hqs : qs ≠ []) :
    pairs (ps ++ qs) = pairs ps ++ '&' :: pairs qs := by
  induction ps with
  | nil => exact absurd rfl hps
  | cons p ps ih =>
    rcases eq_or_ne ps [] with rfl | hne
    · rw [List.singleton_append, pairs_cons p hqs, pairs_singleton]
    · rw [List.cons_append, pairs_cons p (List.append_ne_nil_of_left_ne_nil hne qs), ih hne,
        pairs_cons p hne, List.append_assoc, List.cons_append]

/-- No group of pairs is written as nothing. -/
lemma pairs_ne_nil {ps : List (String × String)} (hps : ps ≠ []) : pairs ps ≠ [] := by
  obtain ⟨p, rest, rfl⟩ := List.exists_cons_of_ne_nil hps
  rcases eq_or_ne rest [] with rfl | hne
  · rw [pairs_singleton]
    exact pair_ne_nil p
  · rw [pairs_cons p hne]
    exact List.append_ne_nil_of_right_ne_nil _ (List.cons_ne_nil _ _)

/-- A query is read as it was written. -/
theorem read_pairs (ps : List (String × String)) : read (pairs ps) = ps := by
  induction ps with
  | nil => rfl
  | cons p ps ih =>
    rcases eq_or_ne ps [] with rfl | hne
    · rw [pairs_singleton, read_pair]
    · rw [pairs_cons p hne, read_append, read_pair, ih, List.singleton_append]

/-- A query with another at its end. -/
def extend (query added : List Char) : List Char :=
  if query = [] then added else query ++ '&' :: added

/-- The pairs of a query are followed by those that are at its end. -/
lemma read_extend (query added : List Char) :
    read (extend query added) = read query ++ read added := by
  unfold extend
  split_ifs with hquery
  · rw [hquery]
    rfl
  · exact read_append query added

/-- Pairs can be put at the end of a query all at once or one list after the other. -/
lemma extend_extend {ps qs : List (String × String)} (hps : ps ≠ []) (hqs : qs ≠ [])
    (query : List Char) :
    extend (extend query (pairs ps)) (pairs qs) = extend query (pairs (ps ++ qs)) := by
  rw [pairs_append hps hqs]
  unfold extend
  split_ifs with hquery hpairs hboth
  · exact absurd hpairs (pairs_ne_nil hps)
  · rfl
  · exact absurd hboth (List.append_ne_nil_of_left_ne_nil hquery _)
  · rw [List.append_assoc, List.cons_append]

end Form

/-! ## Queries of URLs -/

/-- The pairs of the query of a URL, if it has one. -/
def formPairs (u : Url) : List (String × String) :=
  Form.read (u.query.getD [])

section AddPairs

variable {u : Url} {ps qs : List (String × String)}

/-- Pairs go to the end of the query. -/
lemma addPairs_of_ne_nil (hps : ps ≠ []) :
    u.addPairs ps =
      { u with query := some (Form.extend (u.query.getD []) (Form.pairs ps)) } := by
  rw [addPairs, if_neg (mt List.isEmpty_iff.mp hps)]
  obtain _ | (_ | ⟨c, query⟩) := u.query
  · rfl
  · rfl
  · simp [Form.extend]

/-- Pairs that are added are read after those that are there. -/
theorem formPairs_addPairs (u : Url) (ps : List (String × String)) :
    (u.addPairs ps).formPairs = u.formPairs ++ ps := by
  rcases eq_or_ne ps [] with rfl | hps
  · exact (List.append_nil _).symm
  · rw [addPairs_of_ne_nil hps, formPairs, formPairs, Option.getD_some, Form.read_extend,
      Form.read_pairs]

/-- Pairs can be added all at once or one list after the other. -/
theorem addPairs_addPairs (u : Url) (ps qs : List (String × String)) :
    (u.addPairs ps).addPairs qs = u.addPairs (ps ++ qs) := by
  rcases eq_or_ne ps [] with rfl | hps
  · rfl
  rcases eq_or_ne qs [] with rfl | hqs
  · rw [List.append_nil]
    rfl
  rw [addPairs_of_ne_nil hps, addPairs_of_ne_nil hqs,
    addPairs_of_ne_nil (List.append_ne_nil_of_left_ne_nil hps qs), Option.getD_some,
    Form.extend_extend hps hqs]

end AddPairs

end TypedRouter.Url
