import TypedRouter.Files.Write
import Mathlib.Data.List.Infix
import Mathlib.Tactic.Lemma

/-!
# Files that were written

What a tree holds after a text was written to a path.

Trees are compared place by place, by what there is: a file with its bytes, a directory, or nothing.
A file that is put into a directory where no other directory is changes its own place alone.  So a
walk that passed before passes after, the path denotes the same place, and a text that was written
is read back from the same path.
-/

namespace TypedRouter.Files

open TypedRouter.Files.Path (Move)

/-- A disk that takes all bytes of a file takes these bytes. -/
lemma Disk.taken?_of_takesAll {disk : Disk} {content : List UInt8}
    (h : disk.takesAll content = true) : disk.taken? content = some content := by
  cases disk with
  | works => rfl
  | refuses => cases h
  | stopsAfter room => exact congrArg some (List.take_of_length_le (of_decide_eq_true h))

/-- What a node is, whatever else a directory holds. -/
inductive Kind where
  | file (content : List UInt8)
  | directory
  deriving DecidableEq, Repr

namespace Node

variable {n n' : Node} {here : List String}

/-! ## What is at a place -/

/-- The top of a tree is the tree. -/
@[simp] lemma at?_nil (n : Node) : n.at? [] = some n := by
  cases n <;> rfl

/-- A place in a directory is found below the entry that its first name denotes. -/
@[simp]
lemma at?_directory_cons (entries : List (String × Node)) (name : String) (rest : List String) :
    (directory entries).at? (name :: rest) = (entries.lookup name).bind (at? · rest) := rfl

/-- A place below another is found from there. -/
lemma at?_append (n : Node) (place rest : List String) :
    n.at? (place ++ rest) = (n.at? place).bind (at? · rest) := by
  induction place generalizing n with
  | nil => simp
  | cons name place ih =>
    cases n with
    | file content => rfl
    | directory entries =>
      simp only [List.cons_append, at?_directory_cons, ih]
      cases entries.lookup name <;> rfl

/-- A place is a directory if a directory is found there. -/
lemma isDirectory_iff {place : List String} :
    n.isDirectory place = true ↔ ∃ entries, n.at? place = some (directory entries) := by
  unfold isDirectory
  split
  · next entries h => simp [h]
  · next h => simpa using fun entries he => h entries he

/-- What a node is. -/
def kind : Node → Kind
  | .file content => .file content
  | .directory _ => .directory

/-- What there is at a place: a file, a directory, or nothing. -/
def kindAt? (n : Node) (place : List String) : Option Kind := (n.at? place).map kind

/-- The same, without what the directory holds. -/
lemma isDirectory_iff_kindAt? {place : List String} :
    n.isDirectory place = true ↔ n.kindAt? place = some .directory := by
  rw [isDirectory_iff, kindAt?]
  constructor
  · rintro ⟨entries, h⟩
    rw [h]
    rfl
  · intro h
    obtain ⟨m, hm, hkind⟩ := Option.map_eq_some_iff.mp h
    cases m with
    | file content => cases hkind
    | directory entries => exact ⟨entries, hm⟩

/-- Everything above a directory is a directory. -/
lemma isDirectory_of_append {place rest : List String} (h : n.isDirectory (place ++ rest) = true) :
    n.isDirectory place = true := by
  obtain ⟨entries, he⟩ := isDirectory_iff.mp h
  rw [at?_append] at he
  obtain ⟨m, hm, hrest⟩ := Option.bind_eq_some_iff.mp he
  cases m with
  | directory others => exact isDirectory_iff.mpr ⟨others, hm⟩
  | file content => cases rest <;> simp [at?] at hrest

/-- Above a directory there is a directory. -/
lemma isDirectory_dropLast (h : n.isDirectory here = true) :
    n.isDirectory here.dropLast = true := by
  obtain ⟨rest, hrest⟩ := List.dropLast_prefix here
  rw [← hrest] at h
  exact isDirectory_of_append h

/-- A file is told by its bytes, so that its kind says all about it. -/
@[simp] lemma kindAt?_eq_file_iff {place : List String} {content : List UInt8} :
    n.kindAt? place = some (.file content) ↔ n.at? place = some (file content) := by
  rw [kindAt?]
  cases n.at? place with
  | none => simp
  | some m => cases m <;> simp [kind]

/-! ## Putting something at a place -/

/-- What is put into a directory is there. -/
lemma at?_put_self (new : Node) {name : String} (h : n.isDirectory here = true) :
    (put new (here ++ [name]) n).at? (here ++ [name]) = some new := by
  induction here generalizing n with
  | nil =>
    obtain ⟨entries, he⟩ := isDirectory_iff.mp h
    obtain rfl : n = directory entries := by simpa using he
    simp [put]
  | cons k here ih =>
    obtain ⟨entries, he⟩ := isDirectory_iff.mp h
    cases n with
    | file content => simp [at?] at he
    | directory children =>
      rw [at?_directory_cons] at he
      obtain ⟨child, hchild, he⟩ := Option.bind_eq_some_iff.mp he
      simpa [put, hchild] using
        ih (isDirectory_iff.mpr ⟨entries, he⟩)

/-- What is put into a directory changes no place but its own and those below. -/
lemma kindAt?_put_of_not_prefix (new : Node) {name : String} {q : List String}
    (hdir : n.isDirectory here = true) (hq : ¬ here ++ [name] <+: q) :
    (put new (here ++ [name]) n).kindAt? q = n.kindAt? q := by
  induction here generalizing n q with
  | nil =>
    obtain ⟨entries, he⟩ := isDirectory_iff.mp hdir
    obtain rfl : n = directory entries := by simpa using he
    cases q with
    | nil => rfl
    | cons k rest =>
      have hk : k ≠ name := by
        rintro rfl
        exact hq (List.cons_prefix_cons.mpr ⟨rfl, List.nil_prefix⟩)
      simp only [List.nil_append, put, kindAt?, at?_directory_cons, OrderedMap.lookup_set,
        if_neg hk]
  | cons first here ih =>
    obtain ⟨entries, he⟩ := isDirectory_iff.mp hdir
    cases n with
    | file content => cases he
    | directory children =>
      rw [at?_directory_cons] at he
      obtain ⟨child, hchild, hinner⟩ := Option.bind_eq_some_iff.mp he
      cases q with
      | nil => rfl
      | cons k rest =>
        simp only [List.cons_append, put, kindAt?, at?_directory_cons, OrderedMap.lookup_set]
        by_cases hk : k = first
        · subst hk
          have hrest : ¬ here ++ [name] <+: rest := fun h =>
            hq (List.cons_prefix_cons.mpr ⟨rfl, h⟩)
          have hkept := ih (isDirectory_iff.mpr ⟨entries, hinner⟩) hrest
          simpa [hchild, kindAt?] using hkept
        · rw [if_neg hk]

/-- A file, or a directory without entries, that is put into a directory in place of no other
directory, changes its own place alone. -/
lemma kindAt?_put {new : Node} {name : String} (hleaf : ∀ k rest, new.at? (k :: rest) = none)
    (hdir : n.isDirectory here = true) (hfree : n.isDirectory (here ++ [name]) = false)
    (q : List String) :
    (put new (here ++ [name]) n).kindAt? q =
      if q = here ++ [name] then some new.kind else n.kindAt? q := by
  by_cases hq : q = here ++ [name]
  · rw [if_pos hq, hq, kindAt?, at?_put_self new hdir, Option.map_some]
  · rw [if_neg hq]
    by_cases hbelow : here ++ [name] <+: q
    · -- there is nothing below the place, neither before nor after
      obtain ⟨rest, rfl⟩ := hbelow
      cases rest with
      | nil => exact absurd (List.append_nil _) hq
      | cons k rest =>
        have hafter : (put new (here ++ [name]) n).at? (here ++ [name] ++ k :: rest) = none := by
          rw [at?_append, at?_put_self new hdir, Option.bind_some, hleaf]
        have hbefore : n.at? (here ++ [name] ++ k :: rest) = none := by
          rw [at?_append]
          cases hat : n.at? (here ++ [name]) with
          | none => rfl
          | some m =>
            cases m with
            | file content => rfl
            | directory entries => simp [isDirectory, hat] at hfree
        rw [kindAt?, kindAt?, hafter, hbefore]
    · exact kindAt?_put_of_not_prefix new hdir hbelow

/-! ## Walks and paths -/

/-- What is a directory in the first tree is one in the second. -/
def KeepsDirectories (n n' : Node) : Prop :=
  ∀ place, n.isDirectory place = true → n'.isDirectory place = true

/-- A file that is put where no directory is leaves the directories. -/
lemma keepsDirectories_put_file {name : String} (content : List UInt8)
    (hdir : n.isDirectory here = true) (hfree : n.isDirectory (here ++ [name]) = false) :
    KeepsDirectories n (put (file content) (here ++ [name]) n) := by
  intro place hplace
  have hne : place ≠ here ++ [name] := by
    rintro rfl
    rw [hfree] at hplace
    cases hplace
  rw [isDirectory_iff_kindAt?] at hplace ⊢
  rwa [kindAt?_put (fun _ _ => rfl) hdir hfree, if_neg hne]

/-- A walk that passed passes where all directories were kept. -/
lemma KeepsDirectories.walk (h : KeepsDirectories n n') {way : List Move}
    {there : List String} (hw : n.walk here way = some there) :
    n'.walk here way = some there := by
  induction way generalizing here with
  | nil => exact hw
  | cons move way ih =>
    cases hd : n.isDirectory here with
    | false => simp [Node.walk, hd] at hw
    | true =>
      have hd' : n'.isDirectory here = true := h here hd
      cases move with
      | up =>
        simp only [Node.walk, hd, hd', if_true] at hw ⊢
        exact ih hw
      | into name =>
        simp only [Node.walk, hd, hd', if_true] at hw ⊢
        exact ih hw

/-- A file is read if the walk to it passes and ends beside it. -/
lemma read?_eq_some_iff {path : String} {content : List UInt8} :
    n.read? path = some content ↔
      ∃ way name here, Path.file? path = some (way, name) ∧ n.walk [] way = some here ∧
        n.at? (here ++ [name]) = some (file content) := by
  unfold Node.read?
  simp only [Option.bind_eq_bind, Option.bind_eq_some_iff, Prod.exists]
  refine exists_congr fun way => exists_congr fun name => ?_
  constructor
  · rintro ⟨hfile, here, hwalk, h⟩
    refine ⟨here, hfile, hwalk, ?_⟩
    split at h
    · next found hat =>
      obtain rfl : found = content := by simpa using h
      exact hat
    · cases h
  · rintro ⟨here, hfile, hwalk, hat⟩
    exact ⟨hfile, here, hwalk, by simp [hat]⟩

/-- A file is written if the walk to it passes and ends in a directory, where no other directory has
its name. -/
lemma write?_eq_some_iff {path : String} {content : List UInt8} :
    n.write? path content = some n' ↔
      ∃ way name here, Path.file? path = some (way, name) ∧ n.walk [] way = some here ∧
        n.isDirectory here = true ∧ n.isDirectory (here ++ [name]) = false ∧
        put (file content) (here ++ [name]) n = n' := by
  unfold write?
  simp only [Option.bind_eq_bind, Option.bind_eq_some_iff, Prod.exists]
  refine exists_congr fun way => exists_congr fun name => ?_
  constructor
  · rintro ⟨hfile, here, hwalk, h⟩
    split at h
    · next hd =>
      simp only [Bool.and_eq_true, Bool.not_eq_true'] at hd
      exact ⟨here, hfile, hwalk, hd.1, hd.2, by simpa using h⟩
    · cases h
  · rintro ⟨here, hfile, hwalk, hd, hn, rfl⟩
    exact ⟨hfile, here, hwalk, by simp [hd, hn]⟩

/-- What is written to a path is read from this path. -/
lemma read?_of_write? {path : String} {content : List UInt8}
    (h : n.write? path content = some n') : n'.read? path = some content := by
  obtain ⟨way, name, here, hfile, hwalk, hdir, hfree, rfl⟩ := write?_eq_some_iff.mp h
  exact read?_eq_some_iff.mpr ⟨way, name, here, hfile,
    (keepsDirectories_put_file content hdir hfree).walk hwalk, at?_put_self _ hdir⟩

/-! ## Attempts -/

/-- The tree with what the disk takes of a file, if an attempt to write the file comes so far that
it is opened. -/
def opened? (n : Node) (path : String) (content : List UInt8) (disk : Disk) : Option Node :=
  match n.makeDirectory (Path.parent path) with
  | (_, none) => none
  | (made, some _) => (disk.taken? content).bind (made.write? path)

/-- The front of a file that an attempt to write it leaves at its place: the file was opened, and
the disk has not taken all of it. -/
def front? (n : Node) (path : String) (content : List UInt8) (disk : Disk) :
    Option (List UInt8) :=
  if disk.takesAll content then none
  else (n.opened? path content disk).bind fun _ => disk.taken? content

/-- A file is opened if its directories could be made, the disk lets it be, and it can be written
there. -/
lemma opened?_eq_some_iff {path : String} {content : List UInt8} {disk : Disk} :
    n.opened? path content disk = some n' ↔
      ∃ made here bytes, n.makeDirectory (Path.parent path) = (made, some here) ∧
        disk.taken? content = some bytes ∧ made.write? path bytes = some n' := by
  unfold opened?
  cases n.makeDirectory (Path.parent path) with
  | mk made place => cases place <;> simp [Option.bind_eq_some_iff]

/-- Directories are made first.  If the file can be opened then, it is left with what the disk takes
of it, and the attempt succeeds if that is all. -/
lemma writeText_cases (n : Node) (path text : String) (disk : Disk) :
    (n.opened? path (Text.Utf8.encode text.toList) disk = none ∧
        ∃ e, n.writeText path text disk = ((n.makeDirectory (Path.parent path)).1, .error e)) ∨
      ∃ n', n.opened? path (Text.Utf8.encode text.toList) disk = some n' ∧
        n.writeText path text disk =
          (n', if disk.takesAll (Text.Utf8.encode text.toList) then .ok ()
            else .error (.unwritable path)) := by
  unfold writeText writeBytes opened?
  dsimp only
  cases n.makeDirectory (Path.parent path) with
  | mk made place =>
    cases place with
    | none => exact .inl ⟨rfl, _, rfl⟩
    | some here =>
      cases hwrite : (disk.taken? (Text.Utf8.encode text.toList)).bind (made.write? path) with
      | none => exact .inl ⟨hwrite, .unwritable path, by simp [hwrite]⟩
      | some n' => exact .inr ⟨n', hwrite, by simp [hwrite]⟩

end Node

end TypedRouter.Files
