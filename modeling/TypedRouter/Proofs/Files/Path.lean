import TypedRouter.Files.Path
import Mathlib.Data.List.DropRight
import Mathlib.Tactic.Common

/-!
# What a path describes

A path describes a walk, and the walk alone tells which places the path is about: the place that it
leads to, and the places that it comes through on the way.  With two points in it, a path can come
through places that its own place is not below.

The path without its last piece describes the same walk without its last step.  Pieces that do not
count may stand at the end of a path and before its last piece, so both ends are trimmed, and both
times the walk stays the same.  As a text, it is the front of the path.

A path that does not begin with a slash can be seen from a directory.  Then it describes the walk to
the directory and after that its own.
-/

namespace TypedRouter.Files.Path

open Text

/-! ## Places -/

/-- The place that a step leads to, if nothing is in its way. -/
def Move.leads : Move → List String → List String
  | .up, here => here.dropLast
  | .into name, here => here ++ [name]

/-- The place that a walk leads to. -/
def goal : List String → List Move → List String
  | here, [] => here
  | here, move :: rest => goal (move.leads here) rest

/-- The places that a walk comes through, from where it starts to where it ends. -/
def stops : List String → List Move → List (List String)
  | here, [] => [here]
  | here, move :: rest => here :: stops (move.leads here) rest

/-- The place that a path denotes. -/
def place (path : String) : List String := goal [] (moves path)

/-- The places on the way to that of a path. -/
def ancestors (path : String) : List (List String) := stops [] (moves path).dropLast

/-- A walk stops where it starts. -/
lemma start_mem_stops (here : List String) (way : List Move) : here ∈ stops here way := by
  cases way with
  | nil => exact List.mem_singleton_self here
  | cons move rest => exact List.mem_cons_self

/-- A walk after a walk starts where the first one ends. -/
@[simp] lemma goal_append (here : List String) (way rest : List Move) :
    goal here (way ++ rest) = goal (goal here way) rest := by
  induction way generalizing here with
  | nil => rfl
  | cons move way ih => exact ih (move.leads here)

/-! ## The walk of some pieces -/

/-- The step that a piece describes. -/
def moveOf (piece : List Char) : Move :=
  if piece = ['.', '.'] then .up else .into (String.ofList piece)

/-- The walk that some pieces describe. -/
def movesOf (pieces : List (List Char)) : List Move :=
  (pieces.filter fun piece => !isIdle piece).map moveOf

/-- The moves of a path are those of its pieces. -/
lemma moves_eq (path : String) : moves path = movesOf (split '/' path.toList) := rfl

/-- The empty path describes no step. -/
@[simp] lemma moves_empty : moves "" = [] := rfl

/-- Pieces that follow others add their moves. -/
@[simp] lemma movesOf_append (pieces others : List (List Char)) :
    movesOf (pieces ++ others) = movesOf pieces ++ movesOf others := by
  unfold movesOf
  rw [List.filter_append, List.map_append]

/-- The first piece makes its move before all others. -/
lemma movesOf_cons (piece : List Char) (pieces : List (List Char)) :
    movesOf (piece :: pieces) = movesOf [piece] ++ movesOf pieces :=
  movesOf_append [piece] pieces

/-- An idle piece makes no move. -/
@[simp] lemma movesOf_idle {piece : List Char} (h : isIdle piece = true) :
    movesOf [piece] = [] := by
  simp [movesOf, h]

/-- Every other piece makes one move. -/
@[simp] lemma movesOf_piece {piece : List Char} (h : isIdle piece = false) :
    movesOf [piece] = [moveOf piece] := by
  simp [movesOf, h]

/-- Pieces at the end that do not count describe no step. -/
@[simp] lemma movesOf_rdropWhile (pieces : List (List Char)) :
    movesOf (pieces.rdropWhile isIdle) = movesOf pieces := by
  induction pieces using List.reverseRecOn with
  | nil => rfl
  | append_singleton pieces piece ih =>
    by_cases hidle : isIdle piece = true
    · simp [List.rdropWhile_concat_pos _ _ _ hidle, ih, hidle]
    · rw [List.rdropWhile_concat_neg _ _ _ hidle]

/-- The first piece is never left out. -/
lemma trimEnd_cons (piece : List Char) (pieces : List (List Char)) :
    trimEnd (piece :: pieces) = piece :: pieces.rdropWhile isIdle := rfl

/-- The pieces that are left out at the end make no move. -/
@[simp] lemma movesOf_trimEnd (pieces : List (List Char)) :
    movesOf (trimEnd pieces) = movesOf pieces := by
  cases pieces with
  | nil => rfl
  | cons piece pieces =>
    rw [trimEnd_cons, movesOf_cons, movesOf_rdropWhile, ← movesOf_cons]

/-- What is left was there. -/
lemma mem_of_mem_trimEnd {piece : List Char} {pieces : List (List Char)}
    (h : piece ∈ trimEnd pieces) : piece ∈ pieces := by
  cases pieces with
  | nil => exact h
  | cons first pieces =>
    rw [trimEnd_cons] at h
    rcases List.mem_cons.mp h with rfl | hrest
    · exact List.mem_cons_self
    · exact List.mem_cons_of_mem _ ((List.rdropWhile_prefix isIdle _).subset hrest)

/-- Pieces describe the same walk when they are put together as a path. -/
lemma moves_ofPieces {pieces : List (List Char)} (hne : pieces ≠ [])
    (h : ∀ piece ∈ pieces, '/' ∉ piece) : moves (ofPieces pieces) = movesOf pieces := by
  unfold ofPieces
  split
  · next htop =>
    rw [htop]
    rfl
  · rw [moves_eq, String.toList_ofList, split_join hne h]

/-! ## Paths -/

/-- The path without its last piece describes the walk without its last step. -/
theorem moves_parent (path : String) : moves (parent path) = (moves path).dropLast := by
  obtain ⟨first, others, hsplit⟩ := exists_split '/' path.toList
  have hmoves : moves path = movesOf (first :: others.rdropWhile isIdle) := by
    rw [moves_eq, hsplit, ← movesOf_trimEnd, trimEnd_cons]
  unfold parent
  rw [hmoves, hsplit, trimEnd_cons]
  rcases List.eq_nil_or_concat' (others.rdropWhile isIdle) with hnil | ⟨init, last, hconcat⟩
  · -- there is no piece but the first, so there is one step at most
    rw [hnil]
    cases hidle : isIdle first with
    | true => simp [hidle]
    | false => simp [hidle]
  · have hlast : isIdle last = false := by
      have hnot := List.rdropWhile_last_not isIdle others (by rw [hconcat]; simp)
      simpa [hconcat] using hnot
    have hslash : ∀ piece ∈ trimEnd (first :: init), '/' ∉ piece := by
      intro piece hpiece
      suffices hmem : piece ∈ split '/' path.toList from notMem_of_mem_split hmem
      rw [hsplit]
      rcases List.mem_cons.mp (mem_of_mem_trimEnd hpiece) with rfl | hinit
      · exact List.mem_cons_self
      · refine List.mem_cons_of_mem _ ((List.rdropWhile_prefix isIdle _).subset ?_)
        rw [hconcat]
        exact List.mem_append_left _ hinit
    obtain ⟨second, rest, hsecond⟩ := List.exists_cons_of_ne_nil
      (List.append_ne_nil_of_right_ne_nil init (List.cons_ne_nil last []))
    rw [hconcat, hsecond]
    dsimp only
    have hne : trimEnd (first :: init) ≠ [] := List.cons_ne_nil _ _
    rw [← hsecond, ← List.cons_append, List.dropLast_concat, moves_ofPieces hne hslash,
      movesOf_trimEnd, movesOf_append, movesOf_piece hlast, List.dropLast_concat]

/-- The walk to a file ends with a step to its name. -/
lemma moves_of_file? {path : String} {way : List Move} {name : String}
    (h : file? path = some (way, name)) : moves path = way ++ [.into name] := by
  unfold file? at h
  obtain ⟨last, hlast, h⟩ := Option.bind_eq_some_iff.mp h
  split at h
  · cases h
  · next hcounts =>
    obtain ⟨hidle, hpoints⟩ : isIdle last = false ∧ last ≠ ['.', '.'] := by simpa using hcounts
    obtain ⟨init, hsplit⟩ := List.getLast?_eq_some_iff.mp hlast
    have hmoves : moves path = movesOf init ++ [.into (String.ofList last)] := by
      simp [moves_eq, hsplit, hidle, moveOf, hpoints]
    obtain ⟨rfl, rfl⟩ : (moves path).dropLast = way ∧ String.ofList last = name := by simpa using h
    rw [hmoves, List.dropLast_concat]

/-! ## Paths seen from a directory -/

/-- A piece before others is followed by a separator. -/
lemma join_cons {separator : Char} {piece : List Char} {pieces : List (List Char)}
    (h : pieces ≠ []) :
    join separator (piece :: pieces) = piece ++ separator :: join separator pieces := by
  cases pieces with
  | nil => exact absurd rfl h
  | cons next rest => rfl

/-- Between two groups of pieces there is one separator. -/
lemma join_append {separator : Char} {pieces others : List (List Char)} (hne : pieces ≠ [])
    (hothers : others ≠ []) :
    join separator (pieces ++ others) =
      join separator pieces ++ separator :: join separator others := by
  induction pieces with
  | nil => exact absurd rfl hne
  | cons piece rest ih =>
    by_cases hrest : rest = []
    · subst hrest
      exact join_cons hothers
    · have happend : rest ++ others ≠ [] := List.append_ne_nil_of_left_ne_nil hrest others
      rw [List.cons_append, join_cons happend, ih hrest, join_cons hrest, List.append_assoc,
        List.cons_append]

/-- What is left is a front of the pieces. -/
lemma trimEnd_prefix (pieces : List (List Char)) : trimEnd pieces <+: pieces := by
  cases pieces with
  | nil => exact List.prefix_rfl
  | cons piece pieces =>
    rw [trimEnd_cons, List.cons_prefix_cons]
    exact ⟨rfl, List.rdropWhile_prefix isIdle pieces⟩

/-- Some pieces from the front, as a path, are the front of the path, unless they are all. -/
lemma ofPieces_prefix {pieces others : List (List Char)} (hne : pieces ≠ [])
    (hothers : others ≠ []) :
    (ofPieces pieces).toList <+: join '/' (pieces ++ others) := by
  rw [join_append hne hothers]
  unfold ofPieces
  split
  · next htop =>
    rw [htop]
    exact ⟨join '/' others, rfl⟩
  · rw [String.toList_ofList]
    exact List.prefix_append _ _

/-- The path without its last piece is the front of the path. -/
lemma parent_prefix (path : String) : (parent path).toList <+: path.toList := by
  unfold parent
  split
  · exact List.nil_prefix
  · exact List.nil_prefix
  · next _ hnil hone =>
    obtain ⟨init, last, hpieces⟩ :=
      (List.eq_nil_or_concat' (trimEnd (split '/' path.toList))).resolve_left hnil
    have hinit : init ≠ [] := by
      rintro rfl
      exact hone last hpieces
    obtain ⟨first, others, hfirst⟩ := List.exists_cons_of_ne_nil hinit
    have hne : trimEnd init ≠ [] := by
      rw [hfirst, trimEnd_cons]
      exact List.cons_ne_nil _ _
    -- the pieces that are left out are not none, since the last one is among them
    obtain ⟨left, hleft⟩ := trimEnd_prefix init
    obtain ⟨out, hout⟩ := trimEnd_prefix (split '/' path.toList)
    rw [hpieces, ← hleft, List.append_assoc, List.append_assoc] at hout
    rw [hpieces, List.dropLast_concat, ← join_split '/' path.toList, ← hout]
    exact ofPieces_prefix hne (by simp)

/-- A path seen from a directory describes the walk to the directory and then the walk that the path
describes on its own. -/
theorem moves_below {directory path : String} (h : path.toList.head? ≠ some '/') :
    moves (below directory path) = moves directory ++ moves path := by
  have hempty : movesOf [[]] = [] := movesOf_idle rfl
  have hslash : (path.toList.head? == some '/') = false := beq_false_of_ne h
  rw [below, hslash, Bool.or_false]
  split
  · next hnone =>
    rw [String.isEmpty_iff.mp hnone]
    rfl
  · split
    · next hends =>
      -- the slash at the end of the directory divides the two walks
      obtain ⟨front, hfront⟩ := List.getLast?_eq_some_iff.mp (beq_iff_eq.mp hends)
      rw [moves_eq, moves_eq, moves_eq, String.toList_append, hfront, List.append_assoc,
        List.singleton_append, split_append, split_append, movesOf_append, movesOf_append]
      show _ = movesOf _ ++ movesOf [[]] ++ _
      rw [hempty, List.append_nil]
    · rw [moves_eq, moves_eq, moves_eq, String.toList_append, String.toList_append,
        List.append_assoc]
      show movesOf (split '/' (_ ++ '/' :: _)) = _
      rw [split_append, movesOf_append]
      rfl

/-- An absolute path is seen as it is. -/
lemma below_of_isAbsolute {directory path : String} (h : path.toList.head? = some '/') :
    below directory path = path := by
  rw [below, h]
  exact if_pos (by simp)

end TypedRouter.Files.Path
