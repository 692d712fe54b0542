import TypedRouter.Proofs.Url.Segments

/-!
# Adding segments to a path

A text that is added to the path of a special URL loses its tabs and line breaks and is then
encoded.  The encoding keeps it apart from the segments that are carried out: only a text that is
left as one point or two becomes such a segment, since the percent sign of any other spelling of a
point is encoded itself.  So a text adds one segment at the end, except that

* one point or two add nothing,
* a text that is left as two points takes the last segment away, unless that names a drive, and adds
  an empty one,
* the first segment that is added to a path that is only a slash takes the place of its empty one.

A text that adds nothing or takes a segment away is lost.  It does not make a path longer, and no
text adds more than one segment.  So the length of a path shows whether a text that was added to it
is lost.
-/

namespace TypedRouter.Url

open Text

/-- What a text that is added is left with: all but its tabs and line breaks. -/
def keptChars (text : String) : List Char := text.toList.filter fun c => !Reader.isDropped c

/-- The segments to which others are added: a path that is only a slash has none. -/
def openSegments (items : List (List Char)) : List (List Char) :=
  if items = [[]] then [] else items

/-- A path that is only a slash has no segments to add to. -/
@[simp] lemma openSegments_slash : openSegments [[]] = [] := rfl

/-- To any other path segments are added as it stands. -/
@[simp] lemma openSegments_of_ne {items : List (List Char)} (h : items ≠ [[]]) :
    openSegments items = items :=
  if_neg h

/-- A segment that is made from a text. -/
def segmentOf (cs : List Char) : List Char := Percent.encode Percent.specialSegment cs

/-- Adds a text to the path of a special URL that is no file. -/
def addText (items : List (List Char)) (text : String) : List (List Char) :=
  addSegment Percent.specialSegment false items text

/-! ## Segments of texts -/

/-- The segment of a text is read as the bytes of the text. -/
@[simp] lemma decode_segmentOf (cs : List Char) : Percent.decode (segmentOf cs) = Utf8.encode cs :=
  Percent.decode_encode (by decide) cs

/-- A segment that is made from a text has no slash in it. -/
lemma slash_notMem_segmentOf (cs : List Char) : '/' ∉ segmentOf cs :=
  Percent.notMem_encode (by decide) (by decide) cs

/-- Only of nothing the segment is empty. -/
@[simp] lemma segmentOf_eq_nil_iff {cs : List Char} : segmentOf cs = [] ↔ cs = [] :=
  (Percent.encode_injective (by decide)).eq_iff' rfl

/-- Only one point makes a segment that stands for the one it is in. -/
@[simp] lemma isSingleDot_segmentOf_iff {cs : List Char} :
    Reader.isSingleDot (segmentOf cs) = true ↔ cs = ['.'] := by
  constructor
  · intro h
    exact Utf8.encode_injective ((decode_segmentOf cs).symm.trans (Reader.decode_of_isSingleDot h))
  · rintro rfl
    decide +kernel

/-- Only two points make a segment that stands for the one before it. -/
@[simp] lemma isDoubleDot_segmentOf_iff {cs : List Char} :
    Reader.isDoubleDot (segmentOf cs) = true ↔ cs = ['.', '.'] := by
  constructor
  · intro h
    exact Utf8.encode_injective ((decode_segmentOf cs).symm.trans (Reader.decode_of_isDoubleDot h))
  · rintro rfl
    decide +kernel

/-- A segment that is made from a text names a drive if and only if the text does. -/
@[simp]
lemma isDrive_segmentOf (cs : List Char) : Reader.isDrive (segmentOf cs) = Reader.isDrive cs := by
  rw [Bool.eq_iff_iff, Reader.isDrive_iff, Reader.isDrive_iff]
  constructor
  · rintro ⟨c, d, hsegment, hc, hd⟩
    have hplain : ∀ x ∈ [c, d], x ≠ '%' := by
      rintro x hx rfl
      rcases List.mem_cons.mp hx with rfl | hx
      · exact absurd hc (by decide)
      · rw [← List.mem_singleton.mp hx] at hd
        exact absurd hd (by decide)
    have hdecode : Percent.decode [c, d] = Utf8.encode [c, d] := by
      rw [Percent.decode_cons_of_ne (hplain c (by simp)),
        Percent.decode_cons_of_ne (hplain d (by simp))]
      rfl
    have hcs : Utf8.encode cs = Utf8.encode [c, d] := by
      rw [← decode_segmentOf, hsegment, hdecode]
    exact ⟨c, d, Utf8.encode_injective hcs, hc, hd⟩
  · rintro ⟨c, d, rfl, hc, hd⟩
    have hmark : Percent.specialSegment d = false := by rcases hd with rfl | rfl <;> decide
    have hplain : ∀ x ∈ [c, d], Percent.specialSegment x = false := by
      simp [Percent.specialSegment_of_isAlpha hc, hmark]
    exact ⟨c, d, Percent.encode_eq_self hplain, hc, hd⟩

/-! ## One text -/

section AddText

variable {items : List (List Char)} {text : String}

/-- One point or two add nothing. -/
@[simp] lemma addText_of_points (h : text = "." ∨ text = "..") : addText items text = items :=
  if_pos h

/-- What any other text adds. -/
lemma addText_eq (h : ¬(text = "." ∨ text = "..")) :
    addText items text =
      if keptChars text = ['.', '.'] then Reader.parent (openSegments items) ++ [[]]
      else if keptChars text = ['.'] then openSegments items ++ [[]]
      else openSegments items ++ [segmentOf (keptChars text)] := by
  rw [addText, addSegment, if_neg h]
  dsimp only
  rw [Reader.addSegments_cons, Reader.addSegments, List.isEmpty_nil, if_pos rfl]
  exact if_congr isDoubleDot_segmentOf_iff rfl (if_congr isSingleDot_segmentOf_iff rfl rfl)

/-- The segment that the next one comes after; the empty one if there is none. -/
def lastSegment (items : List (List Char)) : List Char := items.getLast?.getD []

/-- The segment that was added last is the last one. -/
@[simp] lemma lastSegment_concat (items : List (List Char)) (s : List Char) :
    lastSegment (items ++ [s]) = s := by
  simp [lastSegment]

/-- A text that adds no segment after another one: one point or two, or a text of which two points
are left.  After a segment that names a drive the last of these adds an empty segment. -/
def IsLost (before : List Char) (text : String) : Prop :=
  text = "." ∨ text = ".." ∨ keptChars text = ['.', '.'] ∧ Reader.isDrive before = false

/-- Whether a text is lost can be computed. -/
instance (before : List Char) (text : String) : Decidable (IsLost before text) :=
  inferInstanceAs (Decidable (_ ∨ _))

/-- The segment that a text adds unless it is lost: points that are left of it make an empty one. -/
def addedSegment (text : String) : List Char :=
  if keptChars text = ['.'] ∨ keptChars text = ['.', '.'] then [] else segmentOf (keptChars text)

/-- The segment that a text adds names a drive if and only if what is left of the text does. -/
@[simp] lemma isDrive_addedSegment (text : String) :
    Reader.isDrive (addedSegment text) = Reader.isDrive (keptChars text) := by
  unfold addedSegment
  split_ifs with hpoints
  · rcases hpoints with h | h <;> rw [h] <;> rfl
  · exact isDrive_segmentOf _

/-- The last segment stays if it names a drive. -/
lemma parent_eq (items : List (List Char)) :
    Reader.parent items = if Reader.isDrive (lastSegment items) then items else items.dropLast := by
  unfold Reader.parent lastSegment
  cases items.getLast? <;> rfl

/-- The last segment of a path that is only a slash is empty, as if there was none. -/
@[simp] lemma lastSegment_openSegments (items : List (List Char)) :
    lastSegment (openSegments items) = lastSegment items := by
  unfold openSegments
  split_ifs with hslash
  · rw [hslash]
    rfl
  · rfl

/-- A text that is not lost adds its segment, which takes the place of the one in a path that is
only a slash. -/
lemma addText_of_not_isLost (h : ¬ IsLost (lastSegment items) text) :
    addText items text = openSegments items ++ [addedSegment text] := by
  obtain ⟨hpoint, hpoints, hdrive⟩ : text ≠ "." ∧ text ≠ ".." ∧
      (keptChars text = ['.', '.'] → Reader.isDrive (lastSegment items) = true) := by
    simpa [IsLost] using h
  rw [addText_eq (not_or.mpr ⟨hpoint, hpoints⟩), addedSegment, parent_eq, lastSegment_openSegments]
  by_cases htwo : keptChars text = ['.', '.']
  · rw [if_pos htwo, if_pos (hdrive htwo), if_pos (.inr htwo)]
  · rw [if_neg htwo]
    by_cases hone : keptChars text = ['.']
    · rw [if_pos hone, if_pos (.inl hone)]
    · rw [if_neg hone, if_neg (not_or.mpr ⟨hone, htwo⟩)]

/-- A path that is only a slash gets the segment for its own. -/
lemma addText_slash_of_not_isLost (h : ¬ IsLost [] text) :
    addText [[]] text = [addedSegment text] := by
  have hlast : ¬ IsLost (lastSegment [[]]) text := h
  exact addText_of_not_isLost hlast

/-- No path has more segments to add to than it has segments. -/
lemma length_openSegments_le (items : List (List Char)) :
    (openSegments items).length ≤ items.length := by
  unfold openSegments
  split_ifs
  · exact Nat.zero_le _
  · exact le_rfl

/-- A text that is lost makes a path no longer. -/
lemma length_addText_of_isLost (hitems : items ≠ []) (h : IsLost (lastSegment items) text) :
    (addText items text).length ≤ items.length := by
  by_cases hpoints : text = "." ∨ text = ".."
  · rw [addText_of_points hpoints]
  · obtain ⟨hkept, hdrive⟩ : keptChars text = ['.', '.'] ∧
        Reader.isDrive (lastSegment items) = false := by
      rcases h with hpoint | htwo | hkept
      · exact absurd (.inl hpoint) hpoints
      · exact absurd (.inr htwo) hpoints
      · exact hkept
    have hpos := List.length_pos_iff.mpr hitems
    have hopen := length_openSegments_le items
    rw [addText_eq hpoints, if_pos hkept, parent_eq, lastSegment_openSegments, hdrive,
      if_neg Bool.false_ne_true, List.length_append, List.length_singleton, List.length_dropLast]
    omega

/-- A text makes a path longer by no more than one segment. -/
lemma length_addText_le (hitems : items ≠ []) (text : String) :
    (addText items text).length ≤ items.length + 1 := by
  by_cases h : IsLost (lastSegment items) text
  · exact (length_addText_of_isLost hitems h).trans (Nat.le_succ _)
  · rw [addText_of_not_isLost h, List.length_append, List.length_singleton]
    exact Nat.succ_le_succ (length_openSegments_le items)

/-- A path stays one. -/
lemma addText_ne_nil (hitems : items ≠ []) (text : String) : addText items text ≠ [] := by
  by_cases hpoints : text = "." ∨ text = ".."
  · rwa [addText_of_points hpoints]
  · rw [addText_eq hpoints]
    split_ifs <;> exact List.concat_ne_nil _ _

/-- A text of which more is left than nothing or points. -/
def Fills (text : String) : Prop :=
  keptChars text ≠ [] ∧ keptChars text ≠ ['.'] ∧ keptChars text ≠ ['.', '.']

/-- Whether more is left of a text than nothing or points can be computed. -/
instance (text : String) : Decidable (Fills text) := inferInstanceAs (Decidable (_ ∧ _))

/-- Such a text adds a segment that is not empty. -/
lemma addedSegment_ne_nil_iff : addedSegment text ≠ [] ↔ Fills text := by
  unfold addedSegment Fills
  split_ifs with hpoints
  · refine iff_of_false (fun h => h rfl) fun h => ?_
    exact hpoints.elim h.2.1 h.2.2
  · rw [Ne, segmentOf_eq_nil_iff]
    exact (and_iff_left (not_or.mp hpoints)).symm

/-- Any other text leaves a path that is only a slash as it is. -/
lemma addText_slash_of_not_fills (h : IsLost [] text ∨ ¬ Fills text) :
    addText [[]] text = [[]] := by
  by_cases hlost : IsLost [] text
  · by_cases hpoints : text = "." ∨ text = ".."
    · exact addText_of_points hpoints
    · have hkept : keptChars text = ['.', '.'] := by
        rcases hlost with hpoint | htwo | hkept
        · exact absurd (.inl hpoint) hpoints
        · exact absurd (.inr htwo) hpoints
        · exact hkept.1
      rw [addText_eq hpoints, if_pos hkept]
      rfl
  · have hempty : addedSegment text = [] :=
      not_not.mp (mt addedSegment_ne_nil_iff.mp (h.resolve_left hlost))
    rw [addText_slash_of_not_isLost hlost, hempty]

end AddText

/-! ## Several texts -/

section Fold

variable {items : List (List Char)} {texts : List String}

/-- A path with a segment added to it is more than a slash, unless both were empty. -/
lemma concat_ne_slash {s : List Char} (h : items ≠ [] ∨ s ≠ []) : items ++ [s] ≠ [[]] := by
  intro heq
  rcases List.append_eq_singleton_iff.mp heq with ⟨hitems, hs⟩ | ⟨-, hs⟩
  · exact h.elim (absurd hitems) fun hne => hne (List.singleton_inj.mp hs)
  · cases hs

/-- No text is lost when texts are added one after the other: the first comes after a segment, and
each of the others after what is left of the text before it. -/
def NoneLost : List Char → List String → Prop
  | _, [] => True
  | before, text :: texts => ¬ IsLost before text ∧ NoneLost (keptChars text) texts

/-- Whether a text is lost after another can be computed. -/
instance decidableNoneLost : ∀ before texts, Decidable (NoneLost before texts)
  | _, [] => inferInstanceAs (Decidable True)
  | before, text :: texts =>
    have := decidableNoneLost (keptChars text) texts
    inferInstanceAs (Decidable (¬ IsLost before text ∧ NoneLost (keptChars text) texts))

/-- All that counts of the segment before the texts is whether it names a drive. -/
lemma noneLost_congr {before other : List Char}
    (h : Reader.isDrive before = Reader.isDrive other) :
    NoneLost before texts ↔ NoneLost other texts := by
  cases texts with
  | nil => exact .rfl
  | cons t texts => rw [NoneLost, NoneLost, IsLost, IsLost, h]

/-- The texts after one that is not lost come after its segment. -/
lemma noneLost_concat_iff (items : List (List Char)) (t : String) (texts : List String) :
    NoneLost (lastSegment (items ++ [addedSegment t])) texts ↔ NoneLost (keptChars t) texts := by
  rw [lastSegment_concat]
  exact noneLost_congr (isDrive_addedSegment t)

/-- Texts that are not lost add their segments to a path that is not only a slash. -/
lemma foldl_addText_of_noneLost (hslash : items ≠ [[]]) (hitems : items ≠ [])
    (h : NoneLost (lastSegment items) texts) :
    texts.foldl addText items = items ++ texts.map addedSegment := by
  induction texts generalizing items with
  | nil => exact (List.append_nil items).symm
  | cons t texts ih =>
    obtain ⟨ht, htexts⟩ := h
    rw [List.foldl_cons, addText_of_not_isLost ht, openSegments_of_ne hslash,
      ih (concat_ne_slash (.inl hitems)) (List.concat_ne_nil _ _)
        ((noneLost_concat_iff _ t texts).mpr htexts),
      List.append_assoc, List.map_cons, List.singleton_append]

/-- They do so below any path if the first one fills it. -/
lemma foldl_addText_of_fills {t : String} (hfills : Fills t)
    (h : NoneLost (lastSegment items) (t :: texts)) :
    (t :: texts).foldl addText items = openSegments items ++ (t :: texts).map addedSegment := by
  obtain ⟨ht, htexts⟩ := h
  have hslash : openSegments items ++ [addedSegment t] ≠ [[]] :=
    concat_ne_slash (.inr (addedSegment_ne_nil_iff.mpr hfills))
  rw [List.foldl_cons, addText_of_not_isLost ht,
    foldl_addText_of_noneLost hslash (List.concat_ne_nil _ _)
      ((noneLost_concat_iff _ t texts).mpr htexts),
    List.append_assoc, List.map_cons, List.singleton_append]

/-- Some texts make a path longer by no more than one segment each. -/
lemma length_foldl_addText_le (hitems : items ≠ []) (texts : List String) :
    (texts.foldl addText items).length ≤ items.length + texts.length := by
  induction texts generalizing items with
  | nil => exact le_rfl
  | cons t texts ih =>
    have hfirst := length_addText_le hitems t
    have hrest := ih (addText_ne_nil hitems t)
    rw [List.foldl_cons, List.length_cons]
    omega

/-- If one of the texts is lost, the path lacks a segment. -/
lemma length_foldl_addText_lt (hitems : items ≠ []) (h : ¬ NoneLost (lastSegment items) texts) :
    (texts.foldl addText items).length < items.length + texts.length := by
  induction texts generalizing items with
  | nil => exact absurd trivial h
  | cons t texts ih =>
    rw [List.foldl_cons, List.length_cons]
    by_cases ht : IsLost (lastSegment items) t
    · have hfirst := length_addText_of_isLost hitems ht
      have hrest := length_foldl_addText_le (addText_ne_nil hitems t) texts
      omega
    · have hlost : ¬ NoneLost (keptChars t) texts := fun htexts => h ⟨ht, htexts⟩
      have hfirst := length_addText_le hitems t
      rw [addText_of_not_isLost ht] at hfirst ⊢
      have hrest := ih (List.concat_ne_nil _ _)
        (mt (noneLost_concat_iff (openSegments items) t texts).mp hlost)
      omega

/-- Below a path that is only a slash the first text takes the place of the empty segment. -/
lemma length_foldl_addText_slash_le (htexts : texts ≠ []) :
    (texts.foldl addText [[]]).length ≤ texts.length := by
  obtain ⟨t, rest, rfl⟩ := List.exists_cons_of_ne_nil htexts
  have hone : (addText [[]] t).length = 1 := by
    by_cases h : IsLost [] t ∨ ¬ Fills t
    · rw [addText_slash_of_not_fills h]
      rfl
    · rw [addText_slash_of_not_isLost (not_or.mp h).1, List.length_singleton]
  have hrest := length_foldl_addText_le (addText_ne_nil (List.cons_ne_nil [] []) t) rest
  rw [List.foldl_cons, List.length_cons]
  omega

/-- A path that is more than a slash stays so when segments are added. -/
lemma openSegments_append (hslash : items ≠ [[]]) (hitems : items ≠ [])
    (added : List (List Char)) : openSegments (items ++ added) = items ++ added := by
  refine openSegments_of_ne fun heq => ?_
  rcases List.append_eq_singleton_iff.mp heq with ⟨h, -⟩ | ⟨h, -⟩
  · exact hitems h
  · exact hslash h

/-- Texts add a segment each to a path that is not only a slash if and only if none is lost. -/
lemma exists_openSegments_foldl_iff (hslash : items ≠ [[]]) (hitems : items ≠ []) :
    (∃ added, openSegments (texts.foldl addText items) = items ++ added ∧
        added.length = texts.length) ↔ NoneLost (lastSegment items) texts := by
  constructor
  · rintro ⟨added, hadded, hlength⟩
    by_contra hlost
    have hlt := length_foldl_addText_lt hitems hlost
    have hle := length_openSegments_le (texts.foldl addText items)
    rw [hadded, List.length_append] at hle
    omega
  · intro h
    refine ⟨texts.map addedSegment, ?_, List.length_map _⟩
    rw [foldl_addText_of_noneLost hslash hitems h, openSegments_append hslash hitems]

/-- A path that is only a slash gets a segment for each text if and only if none is lost and the
first fills it. -/
lemma exists_openSegments_foldl_slash_iff {t : String} :
    (∃ added, openSegments ((t :: texts).foldl addText [[]]) = added ∧
        added.length = texts.length + 1) ↔ Fills t ∧ NoneLost [] (t :: texts) := by
  constructor
  · rintro ⟨added, rfl, hlength⟩
    have hopen := length_openSegments_le ((t :: texts).foldl addText [[]])
    rw [List.foldl_cons] at hlength hopen
    by_cases h : IsLost [] t ∨ ¬ Fills t
    · -- The path is as it was, and the other texts alone cannot make it long enough.
      rw [addText_slash_of_not_fills h] at hlength hopen
      rcases eq_or_ne texts [] with rfl | htexts
      · cases hlength
      · have hle := length_foldl_addText_slash_le htexts
        omega
    · obtain ⟨hlost, hfills⟩ := not_or.mp h
      refine ⟨not_not.mp hfills, hlost, ?_⟩
      by_contra hrest
      have hconcat := mt (noneLost_concat_iff [] t texts).mp hrest
      have hlt := length_foldl_addText_lt (List.cons_ne_nil _ _) hconcat
      rw [addText_slash_of_not_isLost hlost] at hlength hopen
      rw [List.length_singleton] at hlt
      omega
  · rintro ⟨hfills, h⟩
    have hlast : NoneLost (lastSegment [[]]) (t :: texts) := h
    have hfold := foldl_addText_of_fills hfills hlast
    have hslash : (t :: texts).map addedSegment ≠ [[]] := by
      intro heq
      exact addedSegment_ne_nil_iff.mpr hfills (List.cons.inj heq).1
    rw [openSegments_slash, List.nil_append] at hfold
    rw [hfold, openSegments_of_ne hslash]
    exact ⟨_, rfl, List.length_map _⟩

/-- A text that is added brings no slash into a segment. -/
lemma noSlash_foldl_addText (hitems : NoSlash items) : NoSlash (texts.foldl addText items) := by
  induction texts generalizing items with
  | nil => exact hitems
  | cons t texts ih =>
    refine ih ?_
    by_cases hpoints : t = "." ∨ t = ".."
    · rwa [addText_of_points hpoints]
    · rw [addText, addSegment, if_neg hpoints]
      refine Reader.noSlash_addSegments ?_ (noSlash_singleton (slash_notMem_segmentOf _))
      split_ifs
      · exact fun _ h => absurd h List.not_mem_nil
      · exact hitems

/-- A text that makes a segment of its own as it stands: it is not empty and not one point or two,
and no tab or line break is in it. -/
structure IsOrdinary (text : String) : Prop where
  ne_empty : text ≠ ""
  ne_point : text ≠ "."
  ne_points : text ≠ ".."
  tab_notMem : '\t' ∉ text.toList
  feed_notMem : '\n' ∉ text.toList
  return_notMem : '\r' ∉ text.toList

/-- Whether a text is ordinary can be computed. -/
instance (text : String) : Decidable (IsOrdinary text) :=
  decidable_of_iff
    (text ≠ "" ∧ text ≠ "." ∧ text ≠ ".." ∧
      '\t' ∉ text.toList ∧ '\n' ∉ text.toList ∧ '\r' ∉ text.toList)
    ⟨fun ⟨hempty, hpoint, hpoints, htab, hfeed, hreturn⟩ =>
        ⟨hempty, hpoint, hpoints, htab, hfeed, hreturn⟩,
      fun h => ⟨h.ne_empty, h.ne_point, h.ne_points, h.tab_notMem, h.feed_notMem,
        h.return_notMem⟩⟩

/-- An ordinary text is left as it stands. -/
lemma IsOrdinary.keptChars_eq {text : String} (h : IsOrdinary text) :
    keptChars text = text.toList := by
  refine List.filter_eq_self.mpr fun c hc => ?_
  have htab := ne_of_mem_of_not_mem hc h.tab_notMem
  have hfeed := ne_of_mem_of_not_mem hc h.feed_notMem
  have hreturn := ne_of_mem_of_not_mem hc h.return_notMem
  simp [Reader.isDropped, htab, hfeed, hreturn]

/-- The segment of an ordinary text is that of the text as it stands. -/
lemma IsOrdinary.addedSegment_eq {text : String} (h : IsOrdinary text) :
    addedSegment text = segmentOf text.toList := by
  have hpoint : text.toList ≠ ['.'] := fun heq => h.ne_point (String.toList_inj.mp heq)
  have hpoints : text.toList ≠ ['.', '.'] := fun heq => h.ne_points (String.toList_inj.mp heq)
  rw [addedSegment, h.keptChars_eq, if_neg (not_or.mpr ⟨hpoint, hpoints⟩)]

/-- An ordinary text is not lost, whatever it comes after. -/
lemma IsOrdinary.not_isLost {text : String} (h : IsOrdinary text) (before : List Char) :
    ¬ IsLost before text := by
  rintro (hpoint | hpoints | ⟨hkept, -⟩)
  · exact h.ne_point hpoint
  · exact h.ne_points hpoints
  · exact h.ne_points (String.toList_inj.mp (h.keptChars_eq ▸ hkept))

/-- So no ordinary text is. -/
lemma noneLost_of_isOrdinary (h : ∀ t ∈ texts, IsOrdinary t) (before : List Char) :
    NoneLost before texts := by
  induction texts generalizing before with
  | nil => trivial
  | cons t texts ih =>
    obtain ⟨ht, htexts⟩ := List.forall_mem_cons.mp h
    exact ⟨ht.not_isLost before, ih htexts _⟩

/-- All of an ordinary text is left, and it is more than nothing or points. -/
lemma IsOrdinary.fills {text : String} (h : IsOrdinary text) : Fills text := by
  rw [Fills, h.keptChars_eq]
  exact ⟨fun heq => h.ne_empty (String.toList_eq_nil_iff.mp heq),
    fun heq => h.ne_point (String.toList_inj.mp heq),
    fun heq => h.ne_points (String.toList_inj.mp heq)⟩

/-- Ordinary texts add their segments one after the other. -/
lemma foldl_addText_of_isOrdinary (htexts : texts ≠ []) (h : ∀ t ∈ texts, IsOrdinary t)
    (items : List (List Char)) :
    texts.foldl addText items =
      openSegments items ++ texts.map fun t => segmentOf t.toList := by
  obtain ⟨t, rest, rfl⟩ := List.exists_cons_of_ne_nil htexts
  have hfirst := h t List.mem_cons_self
  rw [foldl_addText_of_fills hfirst.fills (noneLost_of_isOrdinary h _)]
  exact congrArg _ (List.map_congr_left fun u hu => (h u hu).addedSegment_eq)

end Fold

/-! ## Paths of URLs -/

section Below

variable {u : Url} {items : List (List Char)}

/-- The segments of a path without one empty segment at its end. -/
def withoutTrailing (items : List (List Char)) : List (List Char) :=
  if items.getLast? = some [] then items.dropLast else items

/-- An empty segment at the end is left out, if it is not the only one. -/
@[simp]
lemma withoutLastEmpty_concat (h : items ≠ []) : withoutLastEmpty (items ++ [[]]) = items := by
  have hpos := List.length_pos_iff.mpr h
  rw [withoutLastEmpty, if_pos ⟨by simpa using hpos, List.getLast?_concat⟩, List.dropLast_concat]

/-- A path whose last segment is not empty stays as it is. -/
lemma withoutLastEmpty_of_getLast?_ne (h : items.getLast? ≠ some []) :
    withoutLastEmpty items = items :=
  if_neg fun hlast => h hlast.2

/-- What is left is only a slash if the path was one slash or two. -/
lemma withoutLastEmpty_eq_slash_iff :
    withoutLastEmpty items = [[]] ↔ items = [[]] ∨ items = [[], []] := by
  constructor
  · intro h
    by_cases hlast : items.getLast? = some []
    · obtain ⟨front, rfl⟩ := List.getLast?_eq_some_iff.mp hlast
      rcases eq_or_ne front [] with rfl | hfront
      · exact .inl rfl
      · rw [withoutLastEmpty_concat hfront] at h
        exact .inr (by rw [h]; rfl)
    · exact .inl (withoutLastEmpty_of_getLast?_ne hlast ▸ h)
  · rintro (rfl | rfl) <;> rfl

/-- Segments are added to what is left of a path without the empty segment at its end.  But a path
of two slashes loses both its segments. -/
lemma openSegments_withoutLastEmpty (h : items ≠ [[], []]) :
    openSegments (withoutLastEmpty items) = withoutTrailing items := by
  rcases eq_or_ne items [[]] with rfl | hslash
  · rfl
  rw [openSegments_of_ne (mt withoutLastEmpty_eq_slash_iff.mp (not_or.mpr ⟨hslash, h⟩)),
    withoutTrailing]
  split_ifs with hlast
  · obtain ⟨front, rfl⟩ := List.getLast?_eq_some_iff.mp hlast
    have hfront : front ≠ [] := by
      rintro rfl
      exact hslash rfl
    rw [withoutLastEmpty_concat hfront, List.dropLast_concat]
  · exact withoutLastEmpty_of_getLast?_ne hlast

/-- Some segment is left. -/
lemma withoutLastEmpty_ne_nil (h : items ≠ []) : withoutLastEmpty items ≠ [] := by
  unfold withoutLastEmpty
  split_ifs with hlast
  · rw [← List.length_pos_iff, List.length_dropLast]
    exact Nat.sub_pos_of_lt hlast.1
  · exact h

/-- What is left was there. -/
lemma withoutLastEmpty_subset (items : List (List Char)) : withoutLastEmpty items ⊆ items := by
  unfold withoutLastEmpty
  split_ifs
  · exact List.dropLast_subset _
  · exact List.Subset.refl _

/-- When a path keeps its segments and gets one for each text: no text is lost, the first one that
is added to a path that is only a slash fills it, and the path is not two slashes. -/
structure KeepsDepth (base : List (List Char)) (texts : List String) : Prop where
  none_lost : NoneLost (lastSegment (withoutTrailing base)) texts
  fills_first : base = [[]] → ∀ t ∈ texts.head?, Fills t
  base_ne : base ≠ [[], []]

/-- This is exactly when the segments of the path are followed by as many others as there are
texts. -/
lemma exists_openSegments_iff_keepsDepth {base : List (List Char)} {texts : List String}
    (hbase : base ≠ []) (htexts : texts ≠ []) :
    (∃ added, openSegments (texts.foldl addText (withoutLastEmpty base)) =
        withoutTrailing base ++ added ∧ added.length = texts.length) ↔ KeepsDepth base texts := by
  obtain ⟨t, rest, rfl⟩ := List.exists_cons_of_ne_nil htexts
  by_cases hslashes : base = [[], []]
  · -- The empty segment that stays is the one that the first text takes the place of.
    subst hslashes
    refine iff_of_false ?_ fun h => h.base_ne rfl
    rintro ⟨added, hadded, hlength⟩
    have hle := length_foldl_addText_slash_le htexts
    have hopen := length_openSegments_le ((t :: rest).foldl addText [[]])
    rw [withoutLastEmpty_eq_slash_iff.mpr (.inr rfl)] at hadded
    rw [hadded, List.length_append, show (withoutTrailing [[], []]).length = 1 from rfl] at hopen
    omega
  rw [← openSegments_withoutLastEmpty hslashes]
  by_cases hslash : base = [[]]
  · subst hslash
    rw [withoutLastEmpty_eq_slash_iff.mpr (.inl rfl), openSegments_slash]
    simp only [List.nil_append, List.length_cons]
    rw [exists_openSegments_foldl_slash_iff]
    constructor
    · rintro ⟨hfills, hlost⟩
      exact ⟨hlost, fun _ u hu => Option.some.inj hu ▸ hfills, hslashes⟩
    · intro h
      exact ⟨h.fills_first rfl t rfl, h.none_lost⟩
  · have hopen : withoutLastEmpty base ≠ [[]] :=
      mt withoutLastEmpty_eq_slash_iff.mp (not_or.mpr ⟨hslash, hslashes⟩)
    have hwithout : withoutTrailing base = withoutLastEmpty base := by
      rw [← openSegments_withoutLastEmpty hslashes, openSegments_of_ne hopen]
    rw [openSegments_of_ne hopen,
      exists_openSegments_foldl_iff hopen (withoutLastEmpty_ne_nil hbase), ← hwithout]
    exact ⟨fun h => ⟨h, fun h' => absurd h' hslash, hslashes⟩, fun h => h.none_lost⟩

/-- A URL with texts added to its path. -/
def extend (u : Url) (texts : List String) : Url :=
  { u with path := .segments (texts.foldl addText (withoutLastEmpty u.pathSegments)) }

/-- Segments can be added to every URL of HTTP. -/
lemma IsHttp.below?_eq (h : u.IsHttp) (texts : List String) :
    u.below? texts = some (u.extend texts) := by
  obtain ⟨-, items, hpath, -, hslash⟩ := h.exists_segments
  have hfile : (u.scheme == "file".toList) = false := beq_eq_false_iff_ne.mpr (ne_file_of_http h.2)
  simp only [below?, hpath, Path.items?, isSpecial_of_http h.2, hfile, if_true, extend,
    pathSegments_of_path hpath hslash, Option.bind_eq_bind, Option.bind_some, Option.pure_def]
  rfl

/-- The path of a URL of HTTP has a segment, even if it is empty. -/
lemma IsHttp.pathSegments_ne_nil (h : u.IsHttp) : u.pathSegments ≠ [] := by
  obtain ⟨-, items, hpath, hitems, hslash⟩ := h.exists_segments
  rwa [pathSegments_of_path hpath hslash]

/-- The segments of a URL with texts added to its path. -/
lemma IsHttp.pathSegments_extend (h : u.IsHttp) (texts : List String) :
    (u.extend texts).pathSegments =
      texts.foldl addText (withoutLastEmpty u.pathSegments) := by
  obtain ⟨-, items, hpath, -, hslash⟩ := h.exists_segments
  refine pathSegments_of_path rfl (noSlash_foldl_addText ?_)
  rw [pathSegments_of_path hpath hslash]
  exact fun s hs => hslash s (withoutLastEmpty_subset items hs)

/-- Different paths below a URL of HTTP make different texts. -/
lemma IsHttp.pathSegments_eq_of_text_eq {texts others : List String} (h : u.IsHttp)
    (htext : (u.extend texts).text = (u.extend others).text) :
    (u.extend texts).pathSegments = (u.extend others).pathSegments := by
  obtain ⟨a, ha⟩ := Option.isSome_iff_exists.mp h.exists_segments.1
  have hchars := String.ofList_injective htext
  simp only [chars, leadChars, extend, ha, List.append_cancel_left_eq, List.append_cancel_right_eq,
    List.cons.injEq, true_and] at hchars
  exact congrArg (fun cs => (split '/' cs).tail) hchars

end Below

end TypedRouter.Url
