import TypedRouter.Proofs.Files.Path
import TypedRouter.Proofs.Files.Write

/-!
# What writing a file leaves as it was

A tree is compared with the one before place by place, by what there is: a file with its bytes, a
directory, or nothing.

Making the directories of a path adds directories where nothing was, at places that the path comes
through, and changes no other place.  If no file is in the way, all these places hold directories
afterwards.  Writing the file then changes its own place alone.  So after a success each place is
known: the place of the path holds the file, the places on the way hold directories, and every other
place holds what it held before.  After a failure there can be new directories on the way, and
nothing else is new, unless the disk has stopped in the middle of the file: then a front of it is at
its place.
-/

namespace TypedRouter.Files

open TypedRouter.Files.Path (Move)

namespace Node

variable {n n' : Node} {here : List String}

/-! ## Adding directories -/

/-- The second tree is the first one with new directories, each of them at one of some places where
nothing was. -/
def AddsDirectories (places : List (List String)) (n n' : Node) : Prop :=
  ∀ q, n'.kindAt? q = n.kindAt? q ∨
    q ∈ places ∧ n.kindAt? q = none ∧ n'.kindAt? q = some .directory

namespace AddsDirectories

variable {places : List (List String)}

/-- A tree is itself with no directory added. -/
lemma refl (places : List (List String)) (n : Node) : AddsDirectories places n n :=
  fun _ => .inl rfl

/-- Directories at some places are directories at more places. -/
lemma mono {others : List (List String)} (h : AddsDirectories places n n')
    (hsub : ∀ q ∈ places, q ∈ others) : AddsDirectories others n n' := by
  intro q
  rcases h q with hsame | ⟨hmem, hnone, hdir⟩
  · exact .inl hsame
  · exact .inr ⟨hsub q hmem, hnone, hdir⟩

/-- Directories can be added twice. -/
lemma trans {n'' : Node} (h : AddsDirectories places n n') (h' : AddsDirectories places n' n'') :
    AddsDirectories places n n'' := by
  intro q
  rcases h q with hsame | ⟨hmem, hnone, hdir⟩
  · rcases h' q with hsame' | ⟨hmem', hnone', hdir'⟩
    · exact .inl (hsame'.trans hsame)
    · exact .inr ⟨hmem', hsame.symm.trans hnone', hdir'⟩
  · rcases h' q with hsame' | ⟨-, hnone', -⟩
    · exact .inr ⟨hmem, hnone, hsame'.trans hdir⟩
    · rw [hdir] at hnone'
      cases hnone'

/-- No directory is lost when others are added. -/
lemma keepsDirectories (h : AddsDirectories places n n') : KeepsDirectories n n' := by
  intro q hq
  rw [isDirectory_iff_kindAt?] at hq ⊢
  rcases h q with hsame | ⟨-, -, hdir⟩
  · exact hsame.trans hq
  · exact hdir

/-- The files are the same, with the same bytes. -/
lemma file_iff (h : AddsDirectories places n n') (q : List String) (content : List UInt8) :
    n'.kindAt? q = some (.file content) ↔ n.kindAt? q = some (.file content) := by
  rcases h q with hsame | ⟨-, hnone, hdir⟩
  · rw [hsame]
  · rw [hnone, hdir]
    simp

/-- A file that a path denotes is denoted by it afterwards. -/
lemma read? (h : AddsDirectories places n n') {path : String} {content : List UInt8}
    (hread : n.read? path = some content) : n'.read? path = some content := by
  obtain ⟨way, name, here, hfile, hwalk, hat⟩ := read?_eq_some_iff.mp hread
  have hkept := (h.file_iff (here ++ [name]) content).mpr (kindAt?_eq_file_iff.mpr hat)
  exact read?_eq_some_iff.mpr
    ⟨way, name, here, hfile, h.keepsDirectories.walk hwalk, kindAt?_eq_file_iff.mp hkept⟩

end AddsDirectories

/-- A new directory is a directory that was added. -/
lemma addsDirectories_put {name : String} (hdir : n.isDirectory here = true)
    (hnone : n.at? (here ++ [name]) = none) :
    AddsDirectories [here ++ [name]] n (put empty (here ++ [name]) n) := by
  have hfree : n.isDirectory (here ++ [name]) = false := by simp [Node.isDirectory, hnone]
  intro q
  rw [kindAt?_put (fun _ _ => rfl) hdir hfree]
  by_cases hq : q = here ++ [name]
  · rw [if_pos hq]
    exact .inr ⟨List.mem_singleton.mpr hq, by rw [hq, kindAt?, hnone, Option.map_none], rfl⟩
  · exact .inl (if_neg hq)

/-- Making the directories of a walk adds directories at places that the walk comes through. -/
lemma addsDirectories_makeDirectories (hdir : n.isDirectory here = true) (way : List Move) :
    AddsDirectories (Path.stops here way) n (n.makeDirectories here way).1 := by
  induction way generalizing n here with
  | nil => exact .refl _ n
  | cons move rest ih =>
    have hrest : ∀ q ∈ Path.stops (move.leads here) rest, q ∈ Path.stops here (move :: rest) :=
      fun q hq => List.mem_cons_of_mem _ hq
    cases move with
    | up => exact (ih (isDirectory_dropLast hdir)).mono hrest
    | into name =>
      simp only [makeDirectories]
      split
      · next entries hat => exact (ih (isDirectory_iff.mpr ⟨entries, hat⟩)).mono hrest
      · exact .refl _ n
      · next hnone =>
        have hmade : (put empty (here ++ [name]) n).isDirectory (here ++ [name]) = true :=
          isDirectory_iff.mpr ⟨[], at?_put_self empty hdir⟩
        have hplace : here ++ [name] ∈ Path.stops here (.into name :: rest) :=
          hrest _ (Path.start_mem_stops _ rest)
        have hadded : AddsDirectories (Path.stops here (.into name :: rest)) n _ :=
          (addsDirectories_put hdir hnone).mono fun q hq => by rwa [List.mem_singleton.mp hq]
        exact hadded.trans ((ih hmade).mono hrest)

/-- If no file is in the way, the walk comes through directories afterwards. -/
lemma isDirectory_of_makeDirectories (hdir : n.isDirectory here = true) {way : List Move}
    {there : List String} (h : n.makeDirectories here way = (n', some there)) :
    ∀ q ∈ Path.stops here way, n'.isDirectory q = true := by
  induction way generalizing n here with
  | nil =>
    obtain ⟨rfl, -⟩ : n = n' ∧ here = there := by simpa [makeDirectories] using h
    intro q hq
    rwa [List.mem_singleton.mp hq]
  | cons move rest ih =>
    -- where the walk starts there was a directory from the beginning
    have hstart : n'.isDirectory here = true := by
      have hadded := addsDirectories_makeDirectories hdir (move :: rest)
      rw [h] at hadded
      exact hadded.keepsDirectories _ hdir
    intro q hq
    rcases List.mem_cons.mp hq with rfl | hq
    · exact hstart
    · cases move with
      | up => exact ih (isDirectory_dropLast hdir) h q hq
      | into name =>
        simp only [makeDirectories] at h
        split at h
        · next entries hat => exact ih (isDirectory_iff.mpr ⟨entries, hat⟩) h q hq
        · cases h
        · have hmade : (put empty (here ++ [name]) n).isDirectory (here ++ [name]) = true :=
            isDirectory_iff.mpr ⟨[], at?_put_self empty hdir⟩
          exact ih hmade h q hq

/-- A tree that is a file stays this file. -/
lemma makeDirectories_file (content : List UInt8) (here : List String) (way : List Move) :
    ((file content).makeDirectories here way).1 = file content := by
  induction way generalizing here with
  | nil => rfl
  | cons move rest ih =>
    cases move with
    | up => exact ih here.dropLast
    | into name =>
      obtain ⟨first, others, hplace⟩ := List.exists_cons_of_ne_nil
        (List.append_ne_nil_of_right_ne_nil here (List.cons_ne_nil name []))
      simp only [makeDirectories, hplace]
      exact ih (first :: others)

/-- So a tree in which directories were made was a directory if it is one. -/
lemma isDirectory_of_isDirectory_makeDirectories {way : List Move} {there : Option (List String)}
    (hmake : n.makeDirectories here way = (n', there)) (h : n'.isDirectory [] = true) :
    n.isDirectory [] = true := by
  cases n with
  | file content =>
    have hfile := makeDirectories_file content here way
    rw [hmake] at hfile
    rwa [← hfile]
  | directory entries => rfl

/-! ## Writing a text -/

/-- A walk that passes ends where its moves lead. -/
lemma goal_of_walk {way : List Move} {there : List String} (h : n.walk here way = some there) :
    there = Path.goal here way := by
  induction way generalizing here with
  | nil => exact (Option.some.inj h).symm
  | cons move rest ih =>
    unfold Node.walk at h
    split at h
    · cases move with
      | up => exact ih h
      | into name => exact ih h
    · cases h

/-- The directories on the way to a path are added, whatever happens then. -/
lemma addsDirectories_makeDirectory_parent (n : Node) (path : String) :
    AddsDirectories (Path.ancestors path) n (n.makeDirectory (Path.parent path)).1 := by
  unfold makeDirectory Path.ancestors
  rw [Path.moves_parent]
  cases n with
  | file content =>
    rw [makeDirectories_file]
    exact .refl _ _
  | directory entries => exact addsDirectories_makeDirectories rfl _

/-- Bytes that are written come into a tree in which the directories on the way were added, and
change the place of their path alone, where no directory is. -/
lemma exists_added_of_write? {path : String} {bytes : List UInt8} {made : Node}
    {here : List String} (hmake : n.makeDirectory (Path.parent path) = (made, some here))
    (hwrite : made.write? path bytes = some n') :
    AddsDirectories (Path.ancestors path) n made ∧
      (∀ q ∈ Path.ancestors path, made.isDirectory q = true) ∧
        made.isDirectory (Path.place path) = false ∧
          ∀ q, n'.kindAt? q =
            if q = Path.place path then some (.file bytes) else made.kindAt? q := by
  obtain ⟨way, name, there, hfile, hwalk, hdir, hfree, rfl⟩ := write?_eq_some_iff.mp hwrite
  have hplace : Path.place path = there ++ [name] := by
    rw [Path.place, Path.moves_of_file? hfile, Path.goal_append, goal_of_walk hwalk]
    rfl
  have hadded := addsDirectories_makeDirectory_parent n path
  unfold makeDirectory at hmake hadded
  rw [hmake] at hadded
  have htop : n.isDirectory [] = true := by
    have hmade : made.isDirectory [] = true :=
      isDirectory_of_append (hdir : made.isDirectory ([] ++ there) = true)
    exact isDirectory_of_isDirectory_makeDirectories hmake hmade
  have hway : ∀ q ∈ Path.ancestors path, made.isDirectory q = true := by
    unfold Path.ancestors
    rw [← Path.moves_parent]
    exact isDirectory_of_makeDirectories htop hmake
  rw [hplace]
  exact ⟨hadded, hway, hfree, kindAt?_put (fun _ _ => rfl) hdir hfree⟩

/-- The second tree is the first one, up to the place of a path and to directories on the way to
it. -/
structure Confined (path : String) (n n' : Node) : Prop where
  /-- All files but the one at the place are the same, with the same bytes. -/
  others : ∀ q ≠ Path.place path, ∀ bytes,
    n'.kindAt? q = some (.file bytes) ↔ n.kindAt? q = some (.file bytes)
  /-- No directory is removed. -/
  directories : ∀ q, n.kindAt? q = some .directory → n'.kindAt? q = some .directory
  /-- All that is new, but for the place, is directories on the way to it. -/
  created : ∀ q ≠ Path.place path, n.kindAt? q = none → n'.kindAt? q ≠ none →
    q ∈ Path.ancestors path ∧ n'.kindAt? q = some .directory

namespace Confined

variable {path : String}

/-- A tree that does not change is confined to any path. -/
lemma refl (path : String) (n : Node) : Confined path n n where
  others := fun _ _ _ => .rfl
  directories := fun _ h => h
  created := fun _ _ hnone hsome => absurd hnone hsome

/-- Two changes that are confined to a path make one that is. -/
lemma trans {n'' : Node} (h : Confined path n n') (h' : Confined path n' n'') :
    Confined path n n'' where
  others := fun q hq bytes => (h'.others q hq bytes).trans (h.others q hq bytes)
  directories := fun q hq => h'.directories q (h.directories q hq)
  created := by
    intro q hq hnone hsome
    by_cases hmiddle : n'.kindAt? q = none
    · exact h'.created q hq hmiddle hsome
    · obtain ⟨hmem, hdir⟩ := h.created q hq hnone hmiddle
      exact ⟨hmem, h'.directories q hdir⟩

end Confined

/-- To add directories on the way is no change anywhere else. -/
lemma AddsDirectories.confined {path : String}
    (h : AddsDirectories (Path.ancestors path) n n') : Confined path n n' where
  others := fun q _ bytes => h.file_iff q bytes
  directories := fun q hq =>
    isDirectory_iff_kindAt?.mp (h.keepsDirectories _ (isDirectory_iff_kindAt?.mpr hq))
  created := by
    intro q _ hnone hsome
    rcases h q with hsame | ⟨hmem, -, hdir⟩
    · exact absurd (hsame.trans hnone) hsome
    · exact ⟨hmem, hdir⟩

/-- The second tree is the first one with a file at the place of a path, and with the directories on
the way to it. -/
structure Overwrites (path : String) (content : List UInt8) (n n' : Node) : Prop
    extends Confined path n n' where
  /-- The path denotes the file. -/
  read : n'.read? path = some content
  /-- The file is at the place of the path. -/
  place : n'.kindAt? (Path.place path) = some (.file content)
  /-- There are directories all the way. -/
  way : ∀ q ∈ Path.ancestors path, n'.kindAt? q = some .directory

/-- Bytes that are written overwrite their path. -/
lemma overwrites_of_write? {path : String} {bytes : List UInt8} {made : Node} {here : List String}
    (hmake : n.makeDirectory (Path.parent path) = (made, some here))
    (hwrite : made.write? path bytes = some n') : Overwrites path bytes n n' := by
  obtain ⟨hadded, hway, hfree, hkinds⟩ := exists_added_of_write? hmake hwrite
  have helse : ∀ q ≠ Path.place path, n'.kindAt? q = made.kindAt? q := fun q hq => by
    rw [hkinds, if_neg hq]
  -- what is a directory before the file is put to its place is one afterwards
  have hkept : ∀ q, made.isDirectory q = true → n'.kindAt? q = some .directory := by
    intro q hq
    have hne : q ≠ Path.place path := by
      rintro rfl
      rw [hfree] at hq
      cases hq
    rw [helse q hne]
    exact isDirectory_iff_kindAt?.mp hq
  have hconfined := hadded.confined
  exact {
    others := fun q hq bytes => by
      rw [helse q hq]
      exact hconfined.others q hq bytes
    directories := fun q hq =>
      hkept q (isDirectory_iff_kindAt?.mpr (hconfined.directories q hq))
    created := fun q hq hnone hsome => by
      rw [helse q hq] at hsome ⊢
      exact hconfined.created q hq hnone hsome
    read := read?_of_write? hwrite
    place := by rw [hkinds, if_pos rfl]
    way := fun q hq => hkept q (hway q hq) }

/-! ## What is left of an attempt -/

section WriteText

variable {path text : String} {disk : Disk} {e : WriteError}

/-- A text that is written overwrites its path, whatever disk takes it. -/
theorem overwrites_of_writeText (h : n.writeText path text disk = (n', .ok ())) :
    Overwrites path (Text.Utf8.encode text.toList) n n' := by
  obtain ⟨-, e, he⟩ | ⟨left, hopened, hleft⟩ := writeText_cases n path text disk
  · cases (Prod.mk.inj (h.symm.trans he)).2
  · obtain ⟨rfl, hresult⟩ := Prod.mk.inj (h.symm.trans hleft)
    have hall : disk.takesAll (Text.Utf8.encode text.toList) = true := by
      by_contra hnot
      rw [if_neg hnot] at hresult
      cases hresult
    obtain ⟨made, here, bytes, hmake, htaken, hwrite⟩ := opened?_eq_some_iff.mp hopened
    obtain rfl := Option.some.inj (htaken.symm.trans (Disk.taken?_of_takesAll hall))
    exact overwrites_of_write? hmake hwrite

/-- An attempt that fails leaves a front of the file at its place if it has come that far.
Otherwise it can leave new directories on the way, and nothing else. -/
theorem front?_of_writeText_error (h : n.writeText path text disk = (n', .error e)) :
    match n.front? path (Text.Utf8.encode text.toList) disk with
    | some bytes => Overwrites path bytes n n'
    | none => AddsDirectories (Path.ancestors path) n n' := by
  obtain ⟨hopened, e', he⟩ | ⟨left, hopened, hleft⟩ := writeText_cases n path text disk
  · have hfront : n.front? path (Text.Utf8.encode text.toList) disk = none := by
      simp [front?, hopened]
    rw [hfront, (Prod.mk.inj (h.symm.trans he)).1]
    exact addsDirectories_makeDirectory_parent n path
  · obtain ⟨rfl, hresult⟩ := Prod.mk.inj (h.symm.trans hleft)
    have hpart : disk.takesAll (Text.Utf8.encode text.toList) = false := by
      by_contra hall
      rw [if_pos (Bool.not_eq_false _ ▸ hall)] at hresult
      cases hresult
    obtain ⟨made, here, bytes, hmake, htaken, hwrite⟩ := opened?_eq_some_iff.mp hopened
    have hfront : n.front? path (Text.Utf8.encode text.toList) disk = some bytes := by
      simp [front?, hpart, hopened, htaken]
    rw [hfront]
    exact overwrites_of_write? hmake hwrite

/-- An attempt that fails on a disk that works can leave new directories on the way, and nothing
else. -/
theorem addsDirectories_of_writeText_error (h : n.writeText path text = (n', .error e)) :
    AddsDirectories (Path.ancestors path) n n' :=
  front?_of_writeText_error h

/-- Whatever comes of an attempt, it is confined to the path and the way to it. -/
lemma confined_of_writeText (n : Node) (path text : String) (disk : Disk) :
    Confined path n (n.writeText path text disk).1 := by
  obtain ⟨-, e, he⟩ | ⟨left, hopened, hleft⟩ := writeText_cases n path text disk
  · rw [he]
    exact (addsDirectories_makeDirectory_parent n path).confined
  · obtain ⟨made, here, bytes, hmake, -, hwrite⟩ := opened?_eq_some_iff.mp hopened
    rw [hleft]
    exact (overwrites_of_write? hmake hwrite).toConfined

end WriteText

end Node

end TypedRouter.Files
