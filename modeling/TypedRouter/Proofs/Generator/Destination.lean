import TypedRouter.Proofs.Files.Frame
import TypedRouter.Proofs.Generator.Run
import TypedRouter.Proofs.Text.Utf8
import Mathlib.Data.List.Basic
import Mathlib.Data.Option.Basic

/-!
# What a run leaves at the destination

A run of one job in which nobody else changes the destination: whenever a call succeeds, the
destination holds the module of the document that the latest writing call has loaded.  That call
is the successful one itself if it wrote.  If it skipped, the two documents were loaded with
values that are the same in the sense of the loader.

This sameness ignores the order of object members, and the order of the components is kept in a
module.  So a schema whose components were put in another order is skipped, and the destination
keeps the module of the old order.  With equal values this cannot happen, since a document is
what its value decodes to.

A call that fails does not write, but it can have emptied the destination before the disk broke off,
and then it leaves a front of its own module there.  The memory does not know of it.  So the module
of the latest call that wrote is at the destination only if no call has left a front since;
otherwise the latest front is.
-/

namespace TypedRouter.Generator

open Loading TypeScript Files Router

/-- The bytes of the module of the document that a call finds. -/
def Call.module? (call : Call) : Option (List UInt8) := do
  let loaded ← call.load.toOption
  let text ← (Module.text (.ofDocument loaded.doc)).toOption
  return Text.Utf8.encode text.toList

/-- A document that is loaded and has a text has a module. -/
lemma Call.module?_eq {call : Call} {loaded : Loaded} {text : String}
    (load : call.load = .ok loaded) (format : Module.text (.ofDocument loaded.doc) = .ok text) :
    call.module? = some (Text.Utf8.encode text.toList) := by
  simp [Call.module?, load, format, Except.toOption]

/-- The front of its module that a call leaves at the destination after a run: the disk has broken
off once the file was opened. -/
def Call.front? (call : Call) (earlier : List Call) : Option (List UInt8) :=
  match (call.cycle earlier).result with
  | .error (.write _) =>
    call.module?.bind fun content =>
      call.world.files.front? call.job.destination content call.disk
  | _ => none

/-- A call that does not fail while it writes leaves no front. -/
@[simp] lemma Call.front?_eq_none {call : Call} {earlier : List Call}
    (h : ∀ e, (call.cycle earlier).result ≠ .error (.write e)) : call.front? earlier = none := by
  unfold Call.front?
  split
  · next e he => exact absurd he (h e)
  · rfl

/-- A call that fails while it writes leaves what the disk has taken. -/
@[simp] lemma Call.front?_of_writeError {call : Call} {earlier : List Call} {e : WriteError}
    (h : (call.cycle earlier).result = .error (.write e)) :
    call.front? earlier = call.module?.bind fun content =>
      call.world.files.front? call.job.destination content call.disk := by
  rw [Call.front?, h]

/-- The latest front that was left at the destination after the latest call that wrote. -/
def frontSince? : List Call → Option (List UInt8)
  | [] => none
  | call :: earlier =>
    if call.writes earlier then none else (call.front? earlier).or (frontSince? earlier)

/-- A call that wrote leaves its whole module. -/
@[simp] lemma frontSince?_of_written {call : Call} {earlier : List Call}
    (h : (call.cycle earlier).result = .ok .written) : frontSince? (call :: earlier) = none := by
  rw [frontSince?, if_pos (Call.writes_iff.mpr h)]

/-- Any other call leaves its own front, or the one that it found. -/
@[simp] lemma frontSince?_of_ne {call : Call} {earlier : List Call}
    (h : (call.cycle earlier).result ≠ .ok .written) :
    frontSince? (call :: earlier) = (call.front? earlier).or (frontSince? earlier) := by
  rw [frontSince?, if_neg (mt Call.writes_iff.mp h)]

/-- A call that skips leaves what it found. -/
lemma frontSince?_of_unchanged {call : Call} {earlier : List Call}
    (h : (call.cycle earlier).result = .ok .unchanged) :
    frontSince? (call :: earlier) = frontSince? earlier := by
  simp [h]

/-- No front is left as long as each disk takes the whole module. -/
lemma frontSince?_eq_none {calls : List Call}
    (h : ∀ call ∈ calls, ∀ content ∈ call.module?, call.disk.takesAll content = true) :
    frontSince? calls = none := by
  induction calls with
  | nil => rfl
  | cons call earlier ih =>
    obtain ⟨hcall, hearlier⟩ := List.forall_mem_cons.mp h
    have hfront : call.front? earlier = none := by
      unfold Call.front?
      split
      · refine Option.bind_eq_none_iff.mpr fun content hcontent => ?_
        exact if_pos (hcall content hcontent)
      · rfl
    rw [frontSince?, hfront, Option.none_or, ih hearlier, ite_self]

/-- The files that a run leaves, if there was a call. -/
def filesAfter? : List Call → Option Node
  | [] => none
  | call :: earlier => some (call.cycle earlier).files

/-- A run of one job, in which each call finds the destination as the call before has left it.
All other files, the documents behind URLs, and the disks can be any. -/
inductive Undisturbed (job : Job) : List Call → Prop
  | nil : Undisturbed job []
  | cons {world : World} {disk : Disk} {earlier : List Call} (before : Undisturbed job earlier)
      (kept : ∀ files ∈ filesAfter? earlier,
        world.files.read? job.destination = files.read? job.destination) :
      Undisturbed job (⟨world, job, disk⟩ :: earlier)

/-- The destination holds the module of the latest call that wrote, or the front that a call has
left there since. -/
def HoldsLatest (job : Job) (calls : List Call) : Prop :=
  ∀ writer, latestWritten? calls = some writer →
    ∃ bytes files, writer.module? = some bytes ∧ filesAfter? calls = some files ∧
      files.read? job.destination = some ((frontSince? calls).getD bytes)

/-- A call that writes puts its own module at the destination.  A call that fails while it writes
can leave a front there, and every other leaves what is there. -/
lemma holdsLatest_cons {job : Job} {world : World} {disk : Disk} {earlier : List Call}
    (before : HoldsLatest job earlier)
    (kept : ∀ files ∈ filesAfter? earlier,
      world.files.read? job.destination = files.read? job.destination) :
    HoldsLatest job (⟨world, job, disk⟩ :: earlier) := by
  intro writer hwriter
  have hends := Call.cycle_ends ⟨world, job, disk⟩ earlier
  generalize hcycle : Call.cycle ⟨world, job, disk⟩ earlier = cycle at hends
  have hfiles : filesAfter? (⟨world, job, disk⟩ :: earlier) = some cycle.files := by
    rw [filesAfter?, hcycle]
  -- what is there after the earlier calls stays as long as nothing but directories is added
  have keeps
      (hadded : Node.AddsDirectories (Path.ancestors job.destination) world.files cycle.files)
      (hskips : cycle.result ≠ .ok .written)
      (hfront : Call.front? ⟨world, job, disk⟩ earlier = none) :
      ∃ bytes files, writer.module? = some bytes ∧
        filesAfter? (⟨world, job, disk⟩ :: earlier) = some files ∧
          files.read? job.destination =
            some ((frontSince? (⟨world, job, disk⟩ :: earlier)).getD bytes) := by
    rw [← hcycle] at hskips
    rw [latestWritten?_of_ne hskips] at hwriter
    rw [frontSince?_of_ne hskips, hfront, Option.none_or]
    obtain ⟨bytes, old, hmodule, hold, hread⟩ := before writer hwriter
    exact ⟨bytes, cycle.files, hmodule, hfiles, hadded.read? ((kept old hold).trans hread)⟩
  cases hends with
  | unloaded => exact keeps (.refl _ _) (by simp) (by simp [hcycle])
  | unchanged => exact keeps (.refl _ _) (by simp) (by simp [hcycle])
  | unformatted => exact keeps (.refl _ _) (by simp) (by simp [hcycle])
  | @unwritten loaded text _ files load _ format write =>
    have hleft := Node.front?_of_writeText_error write
    have hmodule : Call.module? ⟨world, job, disk⟩ = _ := Call.module?_eq load format
    have hfront : Call.front? ⟨world, job, disk⟩ earlier =
        world.files.front? job.destination (Text.Utf8.encode text.toList) disk := by
      simp [hcycle, hmodule]
    cases hcase : world.files.front? job.destination (Text.Utf8.encode text.toList) disk with
    | none =>
      rw [hcase] at hleft hfront
      exact keeps hleft (by simp) hfront
    | some front =>
      rw [hcase] at hleft hfront
      have hlatest : latestWritten? earlier = some writer := by simpa [hcycle] using hwriter
      obtain ⟨bytes, -, hwrote, -, -⟩ := before writer hlatest
      exact ⟨bytes, files, hwrote, hfiles, by
        simpa [hcycle, hmodule, hcase] using hleft.read⟩
  | @written loaded text files load _ format write =>
    obtain rfl : ⟨world, job, disk⟩ = writer := by simpa [hcycle] using hwriter
    exact ⟨_, files, Call.module?_eq load format, hfiles, by
      simpa [hcycle] using (Node.overwrites_of_writeText write).read⟩

/-- After every undisturbed run the destination holds the module of the latest call that wrote, or
the front that was left there since. -/
theorem holdsLatest_of_undisturbed {job : Job} {calls : List Call} (h : Undisturbed job calls) :
    HoldsLatest job calls := by
  induction h with
  | nil => exact fun writer hwriter => by cases hwriter
  | cons _ kept before => exact holdsLatest_cons before kept

/-! ## Components in another order -/

/-- The bytes of a module are those of the header, and then those of its aliases. -/
lemma encode_text {spec : Spec} {text : String} (h : Module.text spec = .ok text) :
    Text.Utf8.encode text.toList =
      Text.Utf8.encode (Header.text.toList ++ ['\n']) ++
        Text.Utf8.encode (Module.bodyChars (Module.aliases spec)) := by
  unfold Module.text Module.body at h
  split at h
  · cases h
  · obtain rfl := Except.ok.inj h
    simp [Text.Utf8.encode]

/-- The text of a document that has two components and no paths. -/
def componentsChars (first second : Char) : List Char :=
  "\x7b\"openapi\":\"3.1\",\"components\":\x7b\"schemas\":\x7b\"".toList ++
    first :: "\":\x7b\x7d,\"".toList ++ second :: "\":\x7b\x7d\x7d\x7d\x7d".toList

/-- A call that finds a schema beside some other files. -/
def schemaCall (schema : List Char) (files : List (String × Node)) : Call where
  world := ⟨.directory (("schema", .file (Text.Utf8.encode schema)) :: files), .unreachable⟩
  job := ⟨.file "schema", "router.d.ts"⟩

/-- A call that finds the components `A` and `B`, in this order. -/
def inOrder : Call := schemaCall (componentsChars 'A' 'B') []

/-- A call that finds them in the other order, and the module of the first call. -/
def swapped : Call :=
  schemaCall (componentsChars 'B' 'A') [("router.d.ts", .file (inOrder.module?.getD []))]

/-- What there is after the error is left out was there before. -/
lemma eq_ok_of_toOption {ε α : Type} {x : Except ε α} {a : α} (h : x.toOption = some a) :
    x = .ok a := by
  cases x with
  | error e => cases h
  | ok b => exact congrArg Except.ok (Option.some.inj h)

/-- A result that is no error has a value. -/
lemma exists_eq_ok_of_isOk {ε α : Type} {x : Except ε α} (h : x.isOk = true) :
    ∃ a, x = .ok a := by
  cases x with
  | error e => cases h
  | ok b => exact ⟨b, rfl⟩

/-- The two calls find documents with values that are the same to the loader.  Each of the documents
has a module, and the bytes of the modules differ. -/
lemma exists_loaded_swapped :
    ∃ new old newText oldText, swapped.load = .ok new ∧ inOrder.load = .ok old ∧
      new.raw.same old.raw = true ∧ Module.text (.ofDocument new.doc) = .ok newText ∧
        Module.text (.ofDocument old.doc) = .ok oldText ∧
          Text.Utf8.encode newText.toList ≠ Text.Utf8.encode oldText.toList := by
  -- both documents are evaluated once, for everything that is said about them
  have hfound : (swapped.load.toOption.bind fun new => inOrder.load.toOption.map fun old =>
      new.raw.same old.raw && (Module.text (.ofDocument new.doc)).isOk &&
        (Module.text (.ofDocument old.doc)).isOk &&
          Text.Utf8.encode (Module.bodyChars (Module.aliases (.ofDocument new.doc))) !=
            Text.Utf8.encode (Module.bodyChars (Module.aliases (.ofDocument old.doc)))) =
      some true := by decide +kernel
  obtain ⟨new, hnew, hfound⟩ := Option.bind_eq_some_iff.mp hfound
  obtain ⟨old, hold, hfound⟩ := Option.map_eq_some_iff.mp hfound
  simp only [Bool.and_eq_true, bne_iff_ne] at hfound
  obtain ⟨⟨⟨hsame, hnewText⟩, holdText⟩, hne⟩ := hfound
  obtain ⟨newText, hnewText⟩ := exists_eq_ok_of_isOk hnewText
  obtain ⟨oldText, holdText⟩ := exists_eq_ok_of_isOk holdText
  refine ⟨new, old, newText, oldText, eq_ok_of_toOption hnew, eq_ok_of_toOption hold, hsame,
    hnewText, holdText, fun hbytes => hne ?_⟩
  rw [encode_text hnewText, encode_text holdText] at hbytes
  exact List.append_cancel_left hbytes

/-- The document of the first call has a module. -/
lemma exists_text_inOrder :
    ∃ loaded text, inOrder.load = .ok loaded ∧
      Module.text (.ofDocument loaded.doc) = .ok text := by
  obtain ⟨_, loaded, _, text, -, load, -, -, format, -⟩ := exists_loaded_swapped
  exact ⟨loaded, text, load, format⟩

/-- The first call writes. -/
lemma latestWritten?_inOrder : latestWritten? [inOrder] = some inOrder := by
  obtain ⟨_, text, load, format⟩ := exists_text_inOrder
  have hwrite : (inOrder.world.files.writeText inOrder.job.destination text inOrder.disk).2 =
    .ok () := rfl
  have hresult : (inOrder.cycle []).result = .ok .written :=
    inOrder.result_of_write load format hwrite
  exact latestWritten?_of_written hresult

/-- The first call leaves no front. -/
lemma frontSince?_inOrder : frontSince? [inOrder] = none :=
  frontSince?_eq_none fun call hcall content _ => by rw [List.mem_singleton.mp hcall]; rfl

/-- The second call finds the module of the first at the destination. -/
lemma read?_swapped :
    swapped.world.files.read? inOrder.job.destination = inOrder.module? := by
  obtain ⟨_, _, load, format⟩ := exists_text_inOrder
  have hmodule := Call.module?_eq load format
  have hfile : Path.file? "router.d.ts" = some ([], "router.d.ts") := by decide
  have hread : swapped.world.files.read? "router.d.ts" = some (inOrder.module?.getD []) :=
    Node.read?_eq_some_iff.mpr ⟨[], "router.d.ts", [], hfile, rfl, rfl⟩
  rw [hmodule, Option.getD_some] at hread
  exact hread.trans hmodule.symm

/-- A call that finds the module of the first call at the destination can be the second of a run. -/
lemma undisturbed_of_read? {world : World} {disk : Disk}
    (h : world.files.read? inOrder.job.destination = inOrder.module?) :
    Undisturbed inOrder.job [⟨world, inOrder.job, disk⟩, inOrder] := by
  have hfirst : Undisturbed inOrder.job [inOrder] := .cons .nil fun files h => by cases h
  obtain ⟨bytes, files, hmodule, hfiles, hread⟩ :=
    holdsLatest_of_undisturbed hfirst inOrder latestWritten?_inOrder
  rw [frontSince?_inOrder, Option.getD_none] at hread
  refine .cons hfirst fun left hleft => ?_
  obtain rfl : files = left := Option.some.inj (hfiles.symm.trans hleft)
  exact h.trans (hmodule.trans hread.symm)

/-- The second call finds what the first has left. -/
lemma undisturbed_swapped : Undisturbed inOrder.job [swapped, inOrder] :=
  undisturbed_of_read? read?_swapped

/-- The second call skips, since the order of the components does not count. -/
lemma swapped_cycle :
    swapped.cycle [inOrder] = ⟨.ok .unchanged, after [inOrder], swapped.world.files⟩ := by
  obtain ⟨loaded, written, _, _, hload, hwritten, hsame, -⟩ := exists_loaded_swapped
  have hunchanged : (after [inOrder]).loader.isUnchanged loaded = true :=
    isUnchanged_after_iff.mpr ⟨inOrder, written, latestWritten?_inOrder, hwritten, hsame⟩
  exact Call.cycle_of_isUnchanged hload hunchanged

/-! ## An attempt that is broken off -/

/-- A call that finds the components `A` and `C`, and a disk that takes nothing of the module. -/
def emptied : Call :=
  { schemaCall (componentsChars 'A' 'C') [("router.d.ts", .file (inOrder.module?.getD []))] with
    disk := .stopsAfter 0 }

/-- A call that finds the first components again, and the empty file. -/
def restored : Call := schemaCall (componentsChars 'A' 'B') [("router.d.ts", .file [])]

/-- The document of the broken-off call has a module, and its value is not the one of the first
document, which is the same as itself. -/
lemma exists_loaded_emptied :
    ∃ new old newText, emptied.load = .ok new ∧ inOrder.load = .ok old ∧
      new.raw.same old.raw = false ∧ old.raw.same old.raw = true ∧
        Module.text (.ofDocument new.doc) = .ok newText := by
  have hfound : (emptied.load.toOption.bind fun new => inOrder.load.toOption.map fun old =>
      !new.raw.same old.raw && old.raw.same old.raw && (Module.text (.ofDocument new.doc)).isOk) =
      some true := by decide +kernel
  obtain ⟨new, hnew, hfound⟩ := Option.bind_eq_some_iff.mp hfound
  obtain ⟨old, hold, hfound⟩ := Option.map_eq_some_iff.mp hfound
  simp only [Bool.and_eq_true, Bool.not_eq_true'] at hfound
  obtain ⟨⟨hother, hself⟩, htext⟩ := hfound
  obtain ⟨newText, htext⟩ := exists_eq_ok_of_isOk htext
  exact ⟨new, old, newText, eq_ok_of_toOption hnew, eq_ok_of_toOption hold, hother, hself, htext⟩

/-- The broken-off call fails, and leaves an empty file. -/
lemma emptied_cycle :
    (emptied.cycle [inOrder]).result = .error (.write (.unwritable "router.d.ts")) ∧
      (emptied.cycle [inOrder]).files.read? inOrder.job.destination = some [] ∧
        emptied.front? [inOrder] = some [] := by
  obtain ⟨new, old, text, load, hold, hother, -, format⟩ := exists_loaded_emptied
  have hchanged : (after [inOrder]).loader.isUnchanged new = false := by
    refine Bool.eq_false_iff.mpr fun hunchanged => ?_
    obtain ⟨writer, written, hwriter, hwritten, hsame⟩ := isUnchanged_after_iff.mp hunchanged
    obtain rfl : inOrder = writer := Option.some.inj (latestWritten?_inOrder.symm.trans hwriter)
    obtain rfl : old = written := Except.ok.inj (hold.symm.trans hwritten)
    exact absurd hsame (Bool.eq_false_iff.mp hother)
  obtain ⟨first, rest, hcontent⟩ : ∃ first rest, Text.Utf8.encode text.toList = first :: rest := by
    refine List.exists_cons_of_ne_nil fun hnil => ?_
    rw [encode_text format] at hnil
    have hheader : Text.Utf8.encode (Header.text.toList ++ ['\n']) = Text.Utf8.encode [] :=
      (List.append_eq_nil_iff.mp hnil).1
    exact List.concat_ne_nil _ _ (Text.Utf8.encode_injective hheader)
  have hmodule := Call.module?_eq load format
  rw [hcontent] at hmodule
  have hwrite : emptied.world.files.writeText emptied.job.destination text emptied.disk =
      (.directory [("schema", .file (Text.Utf8.encode (componentsChars 'A' 'C'))),
        ("router.d.ts", .file [])], .error (.unwritable "router.d.ts")) := by
    rw [Node.writeText, hcontent]
    rfl
  obtain ⟨hfiles, hresult⟩ := Call.cycle_of_write load hchanged format hwrite
  have hfailed : (emptied.cycle [inOrder]).result =
    .error (.write (.unwritable "router.d.ts")) := hresult
  refine ⟨hfailed, by rw [hfiles]; rfl, ?_⟩
  rw [Call.front?, hfailed]
  dsimp only
  rw [hmodule]
  rfl

/-- Such a call leaves the memory alone. -/
lemma latestWritten?_emptied : latestWritten? [emptied, inOrder] = some inOrder := by
  rw [latestWritten?_of_error emptied_cycle.1, latestWritten?_inOrder]

/-- The call after the broken-off one finds the empty file. -/
lemma undisturbed_restored : Undisturbed inOrder.job [restored, emptied, inOrder] := by
  have hemptied : Undisturbed inOrder.job [emptied, inOrder] := undisturbed_of_read? read?_swapped
  refine .cons hemptied fun left hleft => ?_
  obtain rfl : (emptied.cycle [inOrder]).files = left := Option.some.inj hleft
  exact emptied_cycle.2.1.symm

/-- The call that finds the first document again skips, and leaves the empty file. -/
lemma restored_cycle :
    restored.cycle [emptied, inOrder] =
      ⟨.ok .unchanged, after [emptied, inOrder], restored.world.files⟩ := by
  obtain ⟨_, old, _, -, hold, -, hsame, -⟩ := exists_loaded_emptied
  have hload : restored.load = .ok old := hold
  have hunchanged : (after [emptied, inOrder]).loader.isUnchanged old = true :=
    isUnchanged_after_iff.mpr ⟨inOrder, old, latestWritten?_emptied, hold, hsame⟩
  exact Call.cycle_of_isUnchanged hload hunchanged

/-! ## Successful calls -/

/-- Whenever a call of an undisturbed run succeeds, the destination holds the module of the
document that the latest writing call has loaded, unless a call that came later left a front of its
own module there.  Either this document is the one that the successful call has loaded, or the call
skipped, and the two were loaded from values that are the same to the loader but not equal. -/
theorem destination_of_ok {job : Job} {call : Call} {earlier : List Call} {outcome : CycleOutcome}
    (run : Undisturbed job (call :: earlier)) (ok : (call.cycle earlier).result = .ok outcome) :
    ∃ writer loaded written bytes,
      latestWritten? (call :: earlier) = some writer ∧
        call.load = .ok loaded ∧ writer.load = .ok written ∧ writer.module? = some bytes ∧
          (call.cycle earlier).files.read? job.destination =
              some ((frontSince? (call :: earlier)).getD bytes) ∧
            (written = loaded ∨ outcome = .unchanged ∧ loaded.raw ≠ written.raw ∧
              loaded.raw.same written.raw = true) := by
  obtain ⟨writer, loaded, written, hwriter, hload, hwritten, hsame⟩ :=
    latestWritten?_of_ok ok
  obtain ⟨bytes, files, hmodule, hfiles, hread⟩ := holdsLatest_of_undisturbed run writer hwriter
  obtain rfl := Option.some.inj hfiles
  exact ⟨writer, loaded, written, bytes, hwriter, hload, hwritten, hmodule, hread, hsame⟩

/-- The call that finds the components in the other order succeeds, and the destination holds the
module of the first.  The call that comes after the broken-off one succeeds too, and the destination
is empty. -/
theorem destination_of_swapped :
    (Undisturbed inOrder.job [swapped, inOrder] ∧
      (swapped.cycle [inOrder]).result = .ok .unchanged ∧
        ∃ bytes, inOrder.module? = some bytes ∧
          (swapped.cycle [inOrder]).files.read? inOrder.job.destination = some bytes) ∧
      Undisturbed inOrder.job [restored, emptied, inOrder] ∧
        (restored.cycle [emptied, inOrder]).result = .ok .unchanged ∧
          (restored.cycle [emptied, inOrder]).files.read? inOrder.job.destination = some [] := by
  have hswapped : (swapped.cycle [inOrder]).result = .ok .unchanged := by rw [swapped_cycle]
  have hrestored : (restored.cycle [emptied, inOrder]).result = .ok .unchanged := by
    rw [restored_cycle]
  refine ⟨⟨undisturbed_swapped, hswapped, ?_⟩, undisturbed_restored, hrestored, ?_⟩
  · obtain ⟨writer, _, _, bytes, hwriter, -, -, hmodule, hread, -⟩ :=
      destination_of_ok undisturbed_swapped hswapped
    rw [latestWritten?_of_unchanged hswapped, latestWritten?_inOrder] at hwriter
    obtain rfl : inOrder = writer := Option.some.inj hwriter
    rw [frontSince?_of_unchanged hswapped, frontSince?_inOrder, Option.getD_none] at hread
    exact ⟨bytes, hmodule, hread⟩
  · obtain ⟨_, _, _, bytes, -, -, -, -, hread, -⟩ :=
      destination_of_ok undisturbed_restored hrestored
    obtain ⟨hfailed, -, hfront⟩ := emptied_cycle
    have hskips : (emptied.cycle [inOrder]).result ≠ .ok .written := by
      rw [hfailed]
      exact nofun
    rw [frontSince?_of_unchanged hrestored, frontSince?_of_ne hskips, hfront] at hread
    exact hread

/-- A call can succeed and leave at the destination another module than the one of the document
that it has loaded: the components were put in another order, and the call skipped. -/
theorem swapped_destination_is_stale :
    Undisturbed inOrder.job [swapped, inOrder] ∧
      (swapped.cycle [inOrder]).result = .ok .unchanged ∧
        ∃ bytes, swapped.module? = some bytes ∧
          (swapped.cycle [inOrder]).files.read? inOrder.job.destination ≠ some bytes := by
  obtain ⟨_, _, _, _, hload, hloadOld, -, htext, htextOld, hne⟩ := exists_loaded_swapped
  refine ⟨undisturbed_swapped, by rw [swapped_cycle], _, Call.module?_eq hload htext, ?_⟩
  rw [swapped_cycle, read?_swapped, Call.module?_eq hloadOld htextOld]
  exact fun h => hne (Option.some.inj h).symm

end TypedRouter.Generator
