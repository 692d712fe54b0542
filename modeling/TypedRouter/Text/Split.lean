/-!
# Splitting text

A text with some separators in it has one piece more than there are separators, and pieces may
be empty.
-/

namespace TypedRouter.Text

/-- The pieces of a text between the separators. -/
def split (separator : Char) : List Char → List (List Char)
  | [] => [[]]
  | c :: rest =>
    match split separator rest with
    | [] => [[c]]
    | piece :: pieces =>
      if c = separator then [] :: piece :: pieces else (c :: piece) :: pieces

/-- The text that has these pieces. -/
def join (separator : Char) : List (List Char) → List Char
  | [] => []
  | [piece] => piece
  | piece :: pieces => piece ++ separator :: join separator pieces

/-- Whether a text has a part somewhere inside. -/
def hasPart (part : List Char) : List Char → Bool
  | [] => part.isEmpty
  | c :: rest => part.isPrefixOf (c :: rest) || hasPart part rest

/-- A character goes to the first piece of what follows it, or it ends a piece before that one. -/
theorem split_cons {separator c : Char} {rest piece : List Char} {pieces : List (List Char)}
    (h : split separator rest = piece :: pieces) :
    split separator (c :: rest) =
      if c = separator then [] :: piece :: pieces else (c :: piece) :: pieces := by
  rw [split, h]

/-- There is always a piece. -/
theorem exists_split (separator : Char) (cs : List Char) :
    ∃ piece pieces, split separator cs = piece :: pieces := by
  induction cs with
  | nil => exact ⟨[], [], rfl⟩
  | cons c rest ih =>
    obtain ⟨piece, pieces, h⟩ := ih
    rw [split_cons h]
    by_cases hc : c = separator
    · exact ⟨[], piece :: pieces, if_pos hc⟩
    · exact ⟨c :: piece, pieces, if_neg hc⟩

/-- Joining the pieces of a text gives the text. -/
@[simp] theorem join_split (separator : Char) (cs : List Char) :
    join separator (split separator cs) = cs := by
  induction cs with
  | nil => rfl
  | cons c rest ih =>
    obtain ⟨piece, pieces, h⟩ := exists_split separator rest
    rw [h] at ih
    rw [split_cons h]
    by_cases hc : c = separator
    · rw [if_pos hc, join, ih, hc, List.nil_append]
      simp
    · rw [if_neg hc]
      cases pieces with
      | nil => simpa [join] using ih
      | cons second others => simpa [join] using ih

/-- No piece has a separator in it. -/
theorem notMem_of_mem_split {separator : Char} {cs piece : List Char}
    (h : piece ∈ split separator cs) : separator ∉ piece := by
  induction cs generalizing piece with
  | nil =>
    obtain rfl : piece = [] := List.mem_singleton.mp h
    exact List.not_mem_nil
  | cons c rest ih =>
    obtain ⟨first, others, hsplit⟩ := exists_split separator rest
    rw [split_cons hsplit] at h
    rw [hsplit] at ih
    by_cases hc : c = separator
    · rw [if_pos hc] at h
      rcases List.mem_cons.mp h with rfl | hmem
      · exact List.not_mem_nil
      · exact ih hmem
    · rw [if_neg hc] at h
      rcases List.mem_cons.mp h with rfl | hmem
      · simpa [Ne.symm hc] using ih List.mem_cons_self
      · exact ih (List.mem_cons_of_mem _ hmem)

/-- A text without separators is one piece. -/
@[simp] theorem split_of_notMem {separator : Char} {cs : List Char} (h : separator ∉ cs) :
    split separator cs = [cs] := by
  induction cs with
  | nil => rfl
  | cons c rest ih =>
    obtain ⟨hc, hrest⟩ := not_or.mp (mt List.mem_cons.mpr h)
    rw [split_cons (ih hrest), if_neg (Ne.symm hc)]

/-- A separator ends the last piece of what is before it. -/
@[simp] theorem split_append (separator : Char) (cs rest : List Char) :
    split separator (cs ++ separator :: rest) = split separator cs ++ split separator rest := by
  induction cs with
  | nil =>
    obtain ⟨first, others, hsplit⟩ := exists_split separator rest
    rw [List.nil_append, split_cons hsplit, if_pos rfl, split, hsplit, List.singleton_append]
  | cons c cs ih =>
    obtain ⟨piece, pieces, hsplit⟩ := exists_split separator cs
    rw [hsplit, List.cons_append] at ih
    rw [List.cons_append, split_cons ih, split_cons hsplit]
    by_cases hc : c = separator
    · rw [if_pos hc, if_pos hc, List.cons_append, List.cons_append]
    · rw [if_neg hc, if_neg hc, List.cons_append]

/-- The first piece ends at the first separator. -/
theorem split_append_cons {separator : Char} {piece : List Char} (h : separator ∉ piece)
    (rest : List Char) :
    split separator (piece ++ separator :: rest) = piece :: split separator rest := by
  rw [split_append, split_of_notMem h, List.singleton_append]

/-- Splitting a text that was joined gives the pieces. -/
theorem split_join {separator : Char} {pieces : List (List Char)} (hne : pieces ≠ [])
    (h : ∀ piece ∈ pieces, separator ∉ piece) :
    split separator (join separator pieces) = pieces := by
  induction pieces with
  | nil => exact absurd rfl hne
  | cons piece rest ih =>
    have hpiece := h piece List.mem_cons_self
    cases rest with
    | nil => exact split_of_notMem hpiece
    | cons next rest =>
      have hrest := ih (List.cons_ne_nil _ _) fun other hother =>
        h other (List.mem_cons_of_mem _ hother)
      rw [join, split_append_cons hpiece, hrest]
      simp

end TypedRouter.Text
