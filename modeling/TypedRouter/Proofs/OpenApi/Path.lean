import TypedRouter.OpenApi.Path
import TypedRouter.Proofs.Text.Trim
import Mathlib.Data.List.Destutter

/-!
# Splitting path patterns

The segments of a path pattern say all that there is to know about it, up to slashes that make no
difference.  Written out and joined with slashes they are the pattern again, once it has been made
tidy: without slashes at its ends, and with one slash in place of each run of them.  In the other
direction, segments that are written out with any number of slashes before, between and after them
are read back.

Both directions rest on the pieces of a text, those parts between its slashes that are not empty.
Making a text tidy does not change its pieces, since it only takes away slashes that stand at an end
or beside another slash; and a tidy text has no empty parts, so its pieces join to the text itself.
What remains is the reading of a single piece, which is a parameter or literal text but never both.
-/

namespace TypedRouter.OpenApi

open Text

/-! ## Pieces -/

/-- The parts of a text between its slashes that are not empty. -/
def pieces (cs : List Char) : List (List Char) :=
  (split '/' cs).filter fun piece => !piece.isEmpty

section Pieces

variable {cs piece before after : List Char}

/-- The pieces of a text are the parts between its slashes, but for the empty ones. -/
@[simp] lemma mem_pieces_iff : piece ∈ pieces cs ↔ piece ∈ split '/' cs ∧ piece ≠ [] := by
  simp [pieces]

/-- A slash divides the pieces of a text. -/
@[simp] lemma pieces_append (cs rest : List Char) :
    pieces (cs ++ '/' :: rest) = pieces cs ++ pieces rest := by
  rw [pieces, split_append, List.filter_append]
  rfl

/-- A slash in front adds no piece. -/
lemma pieces_slash (rest : List Char) : pieces ('/' :: rest) = pieces rest :=
  pieces_append [] rest

/-- A text without slashes is one piece. -/
lemma pieces_of_notMem (hne : piece ≠ []) (h : '/' ∉ piece) : pieces piece = [piece] := by
  rw [pieces, split_of_notMem h]
  simp [hne]

/-- Slashes in front of a text add no piece. -/
lemma pieces_slashes_append (h : ∀ c ∈ before, c = '/') : pieces (before ++ cs) = pieces cs := by
  induction before with
  | nil => rfl
  | cons c before ih =>
    have hc : c = '/' := h c List.mem_cons_self
    have hrest := ih fun d hd => h d (List.mem_cons_of_mem c hd)
    rw [hc, List.cons_append, pieces_slash, hrest]

/-- Slashes behind a text add no piece. -/
lemma pieces_append_slashes (h : ∀ c ∈ after, c = '/') : pieces (cs ++ after) = pieces cs := by
  cases after with
  | nil => rw [List.append_nil]
  | cons c after =>
    have hc : c = '/' := h c List.mem_cons_self
    have hrest : pieces (after ++ []) = pieces [] :=
      pieces_slashes_append fun d hd => h d (List.mem_cons_of_mem c hd)
    rw [List.append_nil] at hrest
    rw [hc, pieces_append, hrest]
    exact List.append_nil _

end Pieces

/-! ## Tidy texts -/

/-- Two characters of which at most one is a slash. -/
def NotBothSlashes (a b : Char) : Prop := ¬ (a = '/' ∧ b = '/')

/-- Whether two characters are slashes can be computed. -/
instance : DecidableRel NotBothSlashes := fun a b =>
  inferInstanceAs (Decidable (¬ (a = '/' ∧ b = '/')))

/-- A text without the slashes at its ends, and with one slash in place of each run of slashes. -/
def tidy (cs : List Char) : List Char :=
  (trimBy (· == '/') cs).destutter NotBothSlashes

section Tidy

variable {a : Char} {cs : List Char}

/-- One slash in place of a run of them leaves the pieces as they are, whatever is in front. -/
lemma pieces_append_destutter' (front : List Char) (a : Char) (cs : List Char) :
    pieces (front ++ cs.destutter' NotBothSlashes a) = pieces (front ++ a :: cs) := by
  induction cs generalizing front a with
  | nil => rfl
  | cons b cs ih =>
    by_cases h : NotBothSlashes a b
    · have hnext := ih (front ++ [a]) b
      simpa [List.destutter'_cons_pos cs h] using hnext
    · obtain ⟨rfl, rfl⟩ := not_not.mp h
      rw [List.destutter'_cons_neg cs h, ih front '/', pieces_append, pieces_append, pieces_slash]

/-- A tidy text has the pieces of the text that it was made from. -/
theorem pieces_tidy (cs : List Char) : pieces (tidy cs) = pieces cs := by
  obtain ⟨before, after, htext, hbefore, hafter⟩ := exists_append_trimBy (· == '/') cs
  have htrim : pieces cs = pieces (trimBy (· == '/') cs) := by
    conv_lhs => rw [htext]
    rw [pieces_append_slashes (by simpa using hafter),
      pieces_slashes_append (by simpa using hbefore)]
  rw [htrim, tidy]
  cases trimBy (· == '/') cs with
  | nil => rfl
  | cons a rest => exact pieces_append_destutter' [] a rest

/-- One slash in place of a run of them leaves the front of a text as it is. -/
lemma head?_destutter' (a : Char) (cs : List Char) :
    (cs.destutter' NotBothSlashes a).head? = some a := by
  induction cs generalizing a with
  | nil => rfl
  | cons b cs ih =>
    by_cases h : NotBothSlashes a b
    · rw [List.destutter'_cons_pos cs h]
      rfl
    · rw [List.destutter'_cons_neg cs h]
      exact ih a

/-- One slash in place of a run of them leaves the end of a text as it is, if that is no slash. -/
lemma getLast?_destutter' (hlast : ∀ c, (a :: cs).getLast? = some c → c ≠ '/') :
    (cs.destutter' NotBothSlashes a).getLast? = (a :: cs).getLast? := by
  induction cs generalizing a with
  | nil => rfl
  | cons b cs ih =>
    rw [List.getLast?_cons_cons] at hlast ⊢
    by_cases h : NotBothSlashes a b
    · have hne : cs.destutter' NotBothSlashes b ≠ [] := List.destutter'_ne_nil cs _
      obtain ⟨c, rest, hcons⟩ := List.exists_cons_of_ne_nil hne
      rw [List.destutter'_cons_pos cs h, hcons, List.getLast?_cons_cons, ← hcons]
      exact ih hlast
    · obtain ⟨rfl, rfl⟩ := not_not.mp h
      rw [List.destutter'_cons_neg cs h]
      exact ih hlast

/-- A tidy text neither begins nor ends with a slash. -/
lemma isTrimmed_tidy (cs : List Char) : IsTrimmed (· == '/') (tidy cs) := by
  have htrimmed := isTrimmed_trimBy (· == '/') cs
  rw [tidy]
  cases htext : trimBy (· == '/') cs with
  | nil => exact ⟨by simp, by simp⟩
  | cons a rest =>
    rw [htext] at htrimmed
    have hlast : ∀ c, (a :: rest).getLast? = some c → c ≠ '/' := by
      intro c hc
      simpa using htrimmed.last c hc
    rw [List.destutter_cons']
    constructor
    · intro c hc
      rw [head?_destutter'] at hc
      exact htrimmed.head c hc
    · intro c hc
      rw [getLast?_destutter' hlast] at hc
      exact htrimmed.last c hc

/-- Only the first part of a text without neighbouring slashes and without a slash at its end can be
empty, and only if the text is empty or begins with a slash. -/
lemma split_of_isChain {first : List Char} {others : List (List Char)}
    (chain : cs.IsChain NotBothSlashes) (hlast : ∀ c, cs.getLast? = some c → c ≠ '/')
    (hsplit : split '/' cs = first :: others) :
    [] ∉ others ∧ (first = [] → cs = [] ∨ cs.head? = some '/') := by
  -- the first piece is carried along, since a slash before the rest makes it one of the others
  induction cs generalizing first others with
  | nil =>
    obtain ⟨rfl, rfl⟩ := List.cons_eq_cons.mp hsplit
    exact ⟨List.not_mem_nil, fun _ => .inl rfl⟩
  | cons c rest ih =>
    obtain ⟨next, more, hrest⟩ := exists_split '/' rest
    have hlast' : ∀ d, rest.getLast? = some d → d ≠ '/' := by
      intro d hd
      apply hlast
      rw [List.getLast?_cons, hd]
      rfl
    obtain ⟨hmore, hnext⟩ := ih chain.of_cons hlast' hrest
    rw [split_cons hrest] at hsplit
    by_cases hc : c = '/'
    · rw [if_pos hc] at hsplit
      obtain ⟨rfl, rfl⟩ := List.cons_eq_cons.mp hsplit
      subst hc
      refine ⟨fun hmem => ?_, fun _ => .inr rfl⟩
      rcases List.mem_cons.mp hmem with hnil | hmem
      · rcases hnext hnil.symm with rfl | hhead
        · exact hlast '/' rfl rfl
        · cases rest with
          | nil => cases hhead
          | cons d rest =>
            obtain rfl : d = '/' := Option.some.inj hhead
            exact (List.isChain_cons_cons.mp chain).1 ⟨rfl, rfl⟩
      · exact hmore hmem
    · rw [if_neg hc] at hsplit
      obtain ⟨rfl, rfl⟩ := List.cons_eq_cons.mp hsplit
      exact ⟨hmore, fun hnil => absurd hnil (List.cons_ne_nil _ _)⟩

/-- The pieces of a text that is tidy already join to the text. -/
lemma join_pieces_of_isChain (chain : cs.IsChain NotBothSlashes)
    (trimmed : IsTrimmed (· == '/') cs) : join '/' (pieces cs) = cs := by
  by_cases hne : cs = []
  · subst hne
    rfl
  · obtain ⟨first, others, hsplit⟩ := exists_split '/' cs
    have hlast : ∀ c, cs.getLast? = some c → c ≠ '/' := by
      intro c hc
      simpa using trimmed.last c hc
    obtain ⟨hothers, hfirst⟩ := split_of_isChain chain hlast hsplit
    have hall : pieces cs = split '/' cs := by
      apply List.filter_eq_self.mpr
      intro piece hmem
      rw [hsplit] at hmem
      have hpiece : piece ≠ [] := by
        rintro rfl
        rcases List.mem_cons.mp hmem with hnil | hmem
        · rcases hfirst hnil.symm with hempty | hhead
          · exact hne hempty
          · simpa using trimmed.head '/' hhead
        · exact hothers hmem
      simpa using hpiece
    rw [hall, join_split]

/-- The pieces of a text join to the tidy text. -/
theorem join_pieces (cs : List Char) : join '/' (pieces cs) = tidy cs := by
  rw [← pieces_tidy]
  exact join_pieces_of_isChain (List.isChain_destutter _ _) (isTrimmed_tidy cs)

example : tidy "//users///\x7bid\x7d/".toList = "users/\x7bid\x7d".toList := by decide

end Tidy

/-! ## Segments -/

/-- A text that is a name between braces, where a name is not empty and has no braces. -/
structure IsTemplate (name cs : List Char) : Prop where
  eq : cs = '\x7b' :: (name ++ ['\x7d'])
  ne_nil : name ≠ []
  notMem_open : '\x7b' ∉ name
  notMem_close : '\x7d' ∉ name

namespace Segment

variable {cs name : List Char} {s : Segment}

/-- There are two braces. -/
lemma isBrace_eq_false_iff {c : Char} : isBrace c = false ↔ c ≠ '\x7b' ∧ c ≠ '\x7d' := by
  simp [isBrace]

/-- A name is found between braces exactly where a text is a name between braces. -/
lemma paramName?_eq_some_iff : paramName? cs = some name ↔ IsTemplate name cs := by
  constructor
  · intro h
    unfold paramName? at h
    split at h
    · next rest =>
      dsimp only at h
      split_ifs at h with hempty hclose
      obtain rfl := Option.some.inj h
      have hname : ∀ c ∈ rest.takeWhile fun c => !isBrace c, c ≠ '\x7b' ∧ c ≠ '\x7d' := by
        intro c hc
        have hbrace := List.mem_takeWhile_imp hc
        exact isBrace_eq_false_iff.mp (by simpa using hbrace)
      refine ⟨?_, by simpa using hempty, fun hmem => ?_, fun hmem => ?_⟩
      · rw [← hclose, List.takeWhile_append_dropWhile]
      · exact (hname _ hmem).1 rfl
      · exact (hname _ hmem).2 rfl
    · cases h
  · rintro ⟨rfl, hne, hopen, hclose⟩
    have hname : ∀ c ∈ name, (!isBrace c) = true := by
      intro c hc
      have hbrace : isBrace c = false :=
        isBrace_eq_false_iff.mpr ⟨fun h => hopen (h ▸ hc), fun h => hclose (h ▸ hc)⟩
      rw [hbrace]
      rfl
    have htake : (name ++ ['\x7d']).takeWhile (fun c => !isBrace c) = name := by
      rw [List.takeWhile_append_of_pos hname]
      simp [isBrace]
    have hdrop : (name ++ ['\x7d']).dropWhile (fun c => !isBrace c) = ['\x7d'] := by
      rw [List.dropWhile_append_of_pos hname]
      rfl
    rw [paramName?]
    simp [htake, hdrop, hne]

/-- Reading a piece and writing it out again gives the piece. -/
lemma chars_ofChars (cs : List Char) : (ofChars cs).chars = cs := by
  unfold ofChars
  split
  · next name hname =>
    have htemplate := paramName?_eq_some_iff.mp hname
    rw [chars, String.toList_ofList, htemplate.eq]
  · rw [chars, String.toList_ofList]

/-- A piece is a parameter exactly where it is a name between braces. -/
lemma ofChars_eq_param_iff {name : String} :
    ofChars cs = .param name ↔ IsTemplate name.toList cs := by
  rw [← paramName?_eq_some_iff]
  unfold ofChars
  cases paramName? cs with
  | none => simp
  | some found =>
    constructor
    · rintro ⟨⟩
      rw [String.toList_ofList]
    · intro h
      obtain rfl : found = name.toList := Option.some.inj h
      exact congrArg Segment.param String.ofList_toList

/-- Any other piece is literal text. -/
lemma ofChars_of_not_isTemplate (h : ∀ name, ¬ IsTemplate name cs) :
    ofChars cs = .literal (String.ofList cs) := by
  unfold ofChars
  cases hname : paramName? cs with
  | none => rfl
  | some name => exact absurd (paramName?_eq_some_iff.mp hname) (h name)

/-- A segment that a pattern can have: literal text that is a piece and no name between braces, or a
parameter whose name between braces is a piece. -/
def IsProper : Segment → Prop
  | .literal text => text ≠ "" ∧ '/' ∉ text.toList ∧ ∀ name, ¬ IsTemplate name text.toList
  | .param name => name ≠ "" ∧ '/' ∉ name.toList ∧ '\x7b' ∉ name.toList ∧ '\x7d' ∉ name.toList

/-- A proper segment is read back from what it is written as. -/
lemma ofChars_chars (h : s.IsProper) : ofChars s.chars = s := by
  cases s with
  | literal text => rw [chars, ofChars_of_not_isTemplate h.2.2, String.ofList_toList]
  | param name =>
    obtain ⟨hne, -, hopen, hclose⟩ := h
    exact ofChars_eq_param_iff.mpr ⟨rfl, by simpa using hne, hopen, hclose⟩

/-- A proper segment is written as a piece. -/
lemma pieces_chars (h : s.IsProper) : pieces s.chars = [s.chars] := by
  cases s with
  | literal text => exact pieces_of_notMem (by simpa [chars] using h.1) h.2.1
  | param name => exact pieces_of_notMem (by simp [chars]) (by simp [chars, h.2.1])

end Segment

/-! ## Patterns -/

section Patterns

variable {cs : List Char}

/-- Each piece of a path makes one segment. -/
lemma segmentsOf_eq (cs : List Char) : segmentsOf cs = (pieces cs).map Segment.ofChars := rfl

/-- The segments of a pattern are written as its pieces. -/
lemma map_chars_segmentsOf (cs : List Char) : (segmentsOf cs).map Segment.chars = pieces cs := by
  rw [segmentsOf_eq, List.map_map]
  have hid : Segment.chars ∘ Segment.ofChars = id := funext Segment.chars_ofChars
  rw [hid, List.map_id]

/-- Proper segments are read from a text that has the pieces that they are written as. -/
lemma segmentsOf_of_pieces {ss : List Segment} (hproper : ∀ s ∈ ss, s.IsProper)
    (h : pieces cs = ss.map Segment.chars) : segmentsOf cs = ss := by
  have hread : ∀ s ∈ ss, (Segment.ofChars ∘ Segment.chars) s = id s :=
    fun s hs => Segment.ofChars_chars (hproper s hs)
  rw [segmentsOf_eq, h, List.map_map, List.map_congr_left hread, List.map_id]

/-- Segments as a text.  A slash stands between any two of them, and behind each segment are as
many further slashes as are given with it. -/
def spell : List (Segment × ℕ) → List Char
  | [] => []
  | [(s, extra)] => s.chars ++ List.replicate extra '/'
  | (s, extra) :: next :: rest =>
    s.chars ++ '/' :: (List.replicate extra '/' ++ spell (next :: rest))

/-- However many slashes there are, the pieces are the segments. -/
lemma pieces_spell {padded : List (Segment × ℕ)} (hproper : ∀ p ∈ padded, p.1.IsProper) :
    pieces (spell padded) = padded.map fun p => p.1.chars := by
  have hslashes (extra : ℕ) : ∀ c ∈ List.replicate extra '/', c = '/' :=
    fun c hc => List.eq_of_mem_replicate hc
  induction padded with
  | nil => rfl
  | cons p rest ih =>
    obtain ⟨s, extra⟩ := p
    have hs := Segment.pieces_chars (hproper _ List.mem_cons_self)
    have hrest := ih fun q hq => hproper q (List.mem_cons_of_mem _ hq)
    cases rest with
    | nil => rw [spell, pieces_append_slashes (hslashes extra), hs, List.map_singleton]
    | cons q rest =>
      rw [spell, pieces_append, pieces_slashes_append (hslashes extra), hs, hrest, List.map_cons,
        List.singleton_append]
      rfl

/-- Splitting a pattern is exact and can be undone.  The segments of a pattern, joined with slashes,
are the tidy pattern; each of them is written as a text that is not empty and has no slash, and it
is a parameter exactly where this text is a name between braces, and the whole text as a literal
otherwise.  Conversely, proper segments are read from every text that has them with slashes between,
and any number of further slashes before, between and after them. -/
theorem segments_exact :
    (∀ pattern : String, join '/' ((segments pattern).map Segment.chars) = tidy pattern.toList ∧
        ∀ s ∈ segments pattern, s.chars ≠ [] ∧ '/' ∉ s.chars ∧
          (∀ name : String, s = .param name ↔ IsTemplate name.toList s.chars) ∧
          ((∀ name, ¬ IsTemplate name s.chars) → s = .literal (String.ofList s.chars))) ∧
      ∀ (before : ℕ) (padded : List (Segment × ℕ)), (∀ p ∈ padded, p.1.IsProper) →
        segments (String.ofList (List.replicate before '/' ++ spell padded)) =
          padded.map Prod.fst := by
  refine ⟨fun pattern => ⟨?_, fun s hs => ?_⟩, fun before padded hproper => ?_⟩
  · rw [segments, map_chars_segmentsOf, join_pieces]
  · rw [segments, segmentsOf_eq] at hs
    obtain ⟨piece, hpiece, rfl⟩ := List.mem_map.mp hs
    obtain ⟨hsplit, hne⟩ := mem_pieces_iff.mp hpiece
    rw [Segment.chars_ofChars]
    refine ⟨hne, notMem_of_mem_split hsplit, fun name => Segment.ofChars_eq_param_iff, fun h => ?_⟩
    exact Segment.ofChars_of_not_isTemplate h
  · rw [segments, String.toList_ofList]
    apply segmentsOf_of_pieces
    · intro s hs
      obtain ⟨p, hp, rfl⟩ := List.mem_map.mp hs
      exact hproper p hp
    · rw [pieces_slashes_append fun c hc => List.eq_of_mem_replicate hc, pieces_spell hproper,
        List.map_map]
      rfl

/-- A parameter between two literal segments, one of which is a name between braces with more text
behind it. -/
def downloadSegments : List (Segment × ℕ) :=
  [(.literal "users", 2), (.param "id", 0), (.literal "\x7bid\x7d.pdf", 1)]

/-- Each of these segments is one that a pattern can have. -/
lemma isProper_downloadSegments : ∀ p ∈ downloadSegments, p.1.IsProper := by
  have hnot {cs : List Char} (hnone : Segment.paramName? cs = none) (name : List Char) :
      ¬ IsTemplate name cs := by
    intro h
    rw [Segment.paramName?_eq_some_iff.mpr h] at hnone
    cases hnone
  have husers : (Segment.literal "users").IsProper := ⟨by decide, by decide, hnot (by decide)⟩
  have hid : (Segment.param "id").IsProper := ⟨by decide, by decide, by decide, by decide⟩
  have hfile : (Segment.literal "\x7bid\x7d.pdf").IsProper :=
    ⟨by decide, by decide, hnot (by decide)⟩
  simp [downloadSegments, husers, hid, hfile]

/-- A name between braces is a parameter if it is the whole segment, wherever there are too many
slashes. -/
theorem segments_of_download :
    (∀ p ∈ downloadSegments, p.1.IsProper) ∧
      segments "/users///\x7bid\x7d/\x7bid\x7d.pdf/" = downloadSegments.map Prod.fst ∧
      join '/' ((segments "/users///\x7bid\x7d/\x7bid\x7d.pdf/").map Segment.chars) =
        "users/\x7bid\x7d/\x7bid\x7d.pdf".toList ∧
      IsTemplate "id".toList "\x7bid\x7d".toList := by
  obtain ⟨hexact, hread⟩ := segments_exact
  have htext : String.ofList (List.replicate 1 '/' ++ spell downloadSegments) =
      "/users///\x7bid\x7d/\x7bid\x7d.pdf/" := by decide
  have hsegments := hread 1 downloadSegments isProper_downloadSegments
  rw [htext] at hsegments
  obtain ⟨hjoin, hparts⟩ := hexact "/users///\x7bid\x7d/\x7bid\x7d.pdf/"
  have htidy : tidy "/users///\x7bid\x7d/\x7bid\x7d.pdf/".toList =
      "users/\x7bid\x7d/\x7bid\x7d.pdf".toList := by decide
  have hparam : Segment.param "id" ∈ segments "/users///\x7bid\x7d/\x7bid\x7d.pdf/" := by
    rw [hsegments]
    simp [downloadSegments]
  have htemplate := ((hparts _ hparam).2.2.1 "id").mp rfl
  exact ⟨isProper_downloadSegments, hsegments, hjoin.trans htidy, htemplate⟩

end Patterns

end TypedRouter.OpenApi
