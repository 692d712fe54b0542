import TypedRouter.Proofs.Url.Percent
import TypedRouter.Url.Extend
import Mathlib.Tactic.Common

/-!
# The segments of a path

The segments of a path are what stands between its slashes.  In a URL of HTTP that some text is read
as, the path is kept as just these segments: there is at least one, and none has a slash in it.

A segment that is carried out, since it stands for the segment it is in or for the one before it,
spells one point or two: if it is decoded, these are all that is left.
-/

namespace TypedRouter.Url

open Text

/-- The segments of a path: what stands between its slashes, the first of which leads it. -/
def pathSegments (u : Url) : List (List Char) := (split '/' u.path.chars).tail

/-- A URL of HTTP: a text is read as it, and its scheme is one of the two. -/
def IsHttp (u : Url) : Prop :=
  (∃ text, ofText text = .ok u) ∧ (u.scheme = "http".toList ∨ u.scheme = "https".toList)

/-! ## Slashes -/

/-- No segment has a slash in it. -/
def NoSlash (items : List (List Char)) : Prop := ∀ s ∈ items, '/' ∉ s

/-- Segments without a slash put after others of this kind. -/
lemma NoSlash.append {items others : List (List Char)} (h : NoSlash items)
    (h' : NoSlash others) : NoSlash (items ++ others) := by
  intro s hs
  rcases List.mem_append.mp hs with hs | hs
  · exact h s hs
  · exact h' s hs

/-- A segment without a slash. -/
@[simp] lemma noSlash_singleton {s : List Char} (h : '/' ∉ s) : NoSlash [s] :=
  List.forall_mem_singleton.mpr h

/-- The text of segments without a slash is split into these segments. -/
lemma split_segmentChars {s : List Char} {items : List (List Char)} (h : NoSlash (s :: items)) :
    split '/' (s ++ segmentChars items) = s :: items := by
  induction items generalizing s with
  | nil =>
    rw [segmentChars, List.flatMap_nil, List.append_nil]
    exact split_of_notMem (h s List.mem_cons_self)
  | cons t items ih =>
    obtain ⟨hs, hitems⟩ := List.forall_mem_cons.mp h
    rw [segmentChars, List.flatMap_cons, List.cons_append, split_append_cons hs]
    exact congrArg (s :: ·) (ih hitems)

/-- A path of segments without slashes in them has these segments. -/
lemma pathSegments_of_path {u : Url} {items : List (List Char)} (hpath : u.path = .segments items)
    (h : NoSlash items) : u.pathSegments = items := by
  have hempty : NoSlash ([] :: items) := List.forall_mem_cons.mpr ⟨List.not_mem_nil, h⟩
  rw [pathSegments, hpath, Path.chars, ← List.nil_append (segmentChars items),
    split_segmentChars hempty, List.tail_cons]

/-! ## Paths that are read -/

namespace Reader

/-- No other segments are before the one that is left. -/
lemma parent_subset (items : List (List Char)) : parent items ⊆ items := by
  unfold parent
  split_ifs
  · exact List.Subset.refl _
  · exact List.dropLast_subset _

/-- A segment that is added is carried out if it is a point or two, and else it is kept. -/
lemma addSegments_cons (items : List (List Char)) (s : List Char) (rest : List (List Char)) :
    addSegments false items (s :: rest) = addSegments false
      (if isDoubleDot s then parent items ++ (if rest.isEmpty then [[]] else [])
        else if isSingleDot s then items ++ (if rest.isEmpty then [[]] else [])
        else items ++ [s]) rest := by
  rw [addSegments]
  simp only [Bool.false_and, Bool.false_eq_true, if_false]

/-- Segments that are added to others have no slashes if none of either has. -/
lemma noSlash_addSegments {items new : List (List Char)} (hitems : NoSlash items)
    (hnew : NoSlash new) : NoSlash (addSegments false items new) := by
  induction new generalizing items with
  | nil => exact hitems
  | cons s rest ih =>
    obtain ⟨hs, hrest⟩ := List.forall_mem_cons.mp hnew
    have hparent : NoSlash (parent items) := fun t ht => hitems t (parent_subset items ht)
    have hempty : NoSlash (if rest.isEmpty then [[]] else []) := by
      split_ifs
      · exact noSlash_singleton List.not_mem_nil
      · exact fun _ h => absurd h List.not_mem_nil
    rw [addSegments_cons]
    refine ih ?_ hrest
    by_cases hdouble : isDoubleDot s
    · rw [if_pos hdouble]
      exact hparent.append hempty
    by_cases hsingle : isSingleDot s
    · rw [if_neg hdouble, if_pos hsingle]
      exact hitems.append hempty
    · rw [if_neg hdouble, if_neg hsingle]
      exact hitems.append (noSlash_singleton hs)

/-- Adding segments leaves a segment. -/
lemma addSegments_ne_nil {items new : List (List Char)} (hnew : new ≠ []) :
    addSegments false items new ≠ [] := by
  induction new generalizing items with
  | nil => exact absurd rfl hnew
  | cons s rest ih =>
    rw [addSegments_cons]
    cases rest with
    | cons t rest => exact ih (List.cons_ne_nil t rest)
    | nil =>
      rw [addSegments, List.isEmpty_nil, if_pos rfl]
      split_ifs <;> exact List.concat_ne_nil _ _

/-- A path of a special URL has segments, and none has a slash in it. -/
lemma segmentsOf_spec (cs : List Char) :
    segmentsOf false true cs ≠ [] ∧ NoSlash (segmentsOf false true cs) := by
  have hsegments (cs : List Char) : segments false cs ≠ [] ∧ NoSlash (segments false cs) := by
    obtain ⟨piece, pieces, hsplit⟩ := exists_split '/' (Percent.encode Percent.path cs)
    refine ⟨addSegments_ne_nil ?_, noSlash_addSegments (fun _ h => absurd h List.not_mem_nil) ?_⟩
    · rw [hsplit]
      exact List.cons_ne_nil _ _
    · exact fun s hs => notMem_of_mem_split hs
  unfold segmentsOf
  split
  · exact ⟨List.cons_ne_nil _ _, noSlash_singleton List.not_mem_nil⟩
  · exact hsegments _
  · exact hsegments _

end Reader

section Http

variable {scheme : List Char}

/-- The schemes of HTTP are special. -/
lemma isSpecial_of_http (h : scheme = "http".toList ∨ scheme = "https".toList) :
    isSpecial scheme = true := by
  rcases h with rfl | rfl <;> decide +kernel

/-- The schemes of HTTP are not that of files. -/
lemma ne_file_of_http (h : scheme = "http".toList ∨ scheme = "https".toList) :
    scheme ≠ "file".toList := by
  rcases h with rfl | rfl <;> decide

/-- The place of a URL of HTTP is an authority with a path of segments. -/
lemma Reader.place_of_http {cs : List Char} {authority : Option Authority} {path : Path}
    (hscheme : scheme = "http".toList ∨ scheme = "https".toList)
    (h : place scheme cs = .ok (authority, path)) :
    authority.isSome ∧ ∃ items, path = .segments items ∧ items ≠ [] ∧ NoSlash items := by
  simp only [place, isSpecial_of_http hscheme, ne_file_of_http hscheme, if_true, if_false,
    authorityPlace] at h
  generalize Reader.authority scheme _ = read at h
  cases read with
  | error e => cases h
  | ok a =>
    obtain ⟨rfl, rfl⟩ := Prod.mk.inj (Except.ok.inj h)
    exact ⟨rfl, _, rfl, segmentsOf_spec _⟩

/-- A URL that is read has a scheme and a place for it. -/
lemma exists_place_of_ofText {text : String} {u : Url} (h : ofText text = .ok u) :
    ∃ cs, Reader.place u.scheme cs = .ok (u.authority, u.path) := by
  unfold ofText at h
  split at h
  · cases h
  · next scheme rest _ =>
    generalize Reader.cut '#' rest = cutAtHash at h
    obtain ⟨rest, fragment⟩ := cutAtHash
    dsimp only at h
    generalize Reader.cut '?' rest = cutAtMark at h
    obtain ⟨rest, query⟩ := cutAtMark
    dsimp only at h
    refine ⟨rest, ?_⟩
    cases hplace : Reader.place scheme rest with
    | error e =>
      rw [hplace] at h
      cases h
    | ok place =>
      rw [hplace] at h
      obtain rfl := Except.ok.inj h
      exact hplace

/-- A URL of HTTP has an authority and a path of segments, none of which has a slash in it. -/
lemma IsHttp.exists_segments {u : Url} (h : u.IsHttp) :
    u.authority.isSome ∧ ∃ items, u.path = .segments items ∧ items ≠ [] ∧ NoSlash items := by
  obtain ⟨⟨text, htext⟩, hscheme⟩ := h
  obtain ⟨cs, hplace⟩ := exists_place_of_ofText htext
  exact Reader.place_of_http hscheme hplace

end Http

/-! ## Drives -/

/-- A segment names a drive if it is a letter with a colon or a bar. -/
lemma Reader.isDrive_iff {s : List Char} :
    isDrive s = true ↔ ∃ c d, s = [c, d] ∧ c.isAlpha = true ∧ (d = ':' ∨ d = '|') := by
  unfold isDrive
  split
  · next c d => simp
  · next hother =>
    refine iff_of_false Bool.false_ne_true ?_
    rintro ⟨c, d, rfl, -⟩
    exact hother c d rfl

/-! ## Points -/

namespace Reader

/-- The spellings of a point, in small letters. -/
def points : List (List Char) := [['.'], ['%', '2', 'e']]

/-- What a character is in small letters tells the character, unless it is a capital. -/
lemma eq_or_toNat_of_toLower_eq {c d : Char} (h : c.toLower = d) :
    c = d ∨ 65 ≤ c.toNat ∧ c.toNat + 32 = d.toNat := by
  unfold Char.toLower at h
  split at h
  · next hcapital =>
    refine .inr ⟨hcapital.1, ?_⟩
    have hle : c.toNat ≤ 90 := hcapital.2
    rw [← h, ← Char.toNat_val, ← Char.toNat_val, UInt32.toNat_add]
    change c.toNat + 32 = (c.toNat + 32) % _
    omega
  · exact .inl h

/-- A mark or a digit is no capital. -/
lemma eq_of_toLower_eq {c d : Char} (h : c.toLower = d) (hd : d.toNat < 97) : c = d := by
  rcases eq_or_toNat_of_toLower_eq h with heq | ⟨hle, hnat⟩
  · exact heq
  · omega

/-- An `e` of either case is a hexadecimal digit. -/
lemma hexValue?_of_toLower_eq_e {c : Char} (h : c.toLower = 'e') : hexValue? c = some 14 := by
  rcases eq_or_toNat_of_toLower_eq h with rfl | ⟨-, hnat⟩
  · decide
  · obtain rfl : c = 'E' := Char.toNat_inj.mp (Nat.add_right_cancel hnat)
    decide

/-- Each spelling of a point is read as a point. -/
lemma decode_append_of_mem_points {s : List Char} (h : s.map Char.toLower ∈ points)
    (rest : List Char) :
    Percent.decode (s ++ rest) = Utf8.encode ['.'] ++ Percent.decode rest := by
  simp only [points, List.mem_cons, List.not_mem_nil, or_false, List.map_eq_cons_iff,
    List.map_eq_nil_iff] at h
  rcases h with ⟨a, _, rfl, ha, rfl⟩ | ⟨a, _, rfl, ha, b, _, rfl, hb, e, _, rfl, he, rfl⟩
  · obtain rfl := eq_of_toLower_eq ha (by decide)
    exact Percent.decode_cons_of_ne (by decide) rest
  · obtain rfl := eq_of_toLower_eq ha (by decide)
    obtain rfl := eq_of_toLower_eq hb (by decide)
    have htwo : hexValue? '2' = some 2 := by decide
    rw [List.cons_append, List.cons_append, List.cons_append, List.nil_append, Percent.decode,
      htwo, hexValue?_of_toLower_eq_e he]
    rfl

/-- A segment that stands for the one it is in spells a point. -/
lemma decode_of_isSingleDot {s : List Char} (h : isSingleDot s = true) :
    Percent.decode s = Utf8.encode ['.'] := by
  have hmem := List.mem_map_of_mem (f := String.toList) (List.contains_iff_mem.mp h)
  rw [String.toList_ofList, show [".", "%2e"].map String.toList = points by decide] at hmem
  have hdecode := decode_append_of_mem_points hmem []
  rwa [List.append_nil] at hdecode

/-- A segment that stands for the one before it spells two points. -/
lemma decode_of_isDoubleDot {s : List Char} (h : isDoubleDot s = true) :
    Percent.decode s = Utf8.encode ['.', '.'] := by
  have hmem := List.mem_map_of_mem (f := String.toList) (List.contains_iff_mem.mp h)
  rw [String.toList_ofList, show ["..", ".%2e", "%2e.", "%2e%2e"].map String.toList =
    points.flatMap fun p => points.map (p ++ ·) by decide] at hmem
  obtain ⟨p, hp, hmem⟩ := List.mem_flatMap.mp hmem
  obtain ⟨q, hq, hs⟩ := List.mem_map.mp hmem
  obtain ⟨first, second, rfl, rfl, rfl⟩ := List.map_eq_append_iff.mp hs.symm
  have hsecond := decode_append_of_mem_points hq []
  rw [List.append_nil] at hsecond
  rw [decode_append_of_mem_points hp, hsecond]
  rfl

end Reader

end TypedRouter.Url
