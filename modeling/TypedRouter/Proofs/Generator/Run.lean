import TypedRouter.Generator
import Mathlib.Tactic.Lemma

/-!
# Runs of a generator

A run is a list of calls, the latest first.  Each call finds a world and a disk of its own, so that
anything can happen to the files and behind the URLs between two calls, and any attempt to write can
be broken off; what the generator itself carries from one call to the next is its memory and nothing
else.

A cycle ends in one of five ways, and in only one of them, when the module is written, does the
memory change.  After any run the memory is therefore the value of the document that the latest
writing call has loaded, and it is empty if no call has written.
-/

namespace TypedRouter.Generator

open Loading TypeScript Files Router

/-! ## How a cycle ends -/

/-- The ways in which a cycle can end. -/
inductive Ends (g : Generator) (world : World) (job : Job) (disk : Disk) : Cycle → Prop
  /-- There is no document. -/
  | unloaded {e : LoadError} (load : world.load job.schema = .error e) :
      Ends g world job disk ⟨.error (.load e), g, world.files⟩
  /-- The document has the value that is remembered. -/
  | unchanged {loaded : Loaded} (load : world.load job.schema = .ok loaded)
      (same : g.loader.isUnchanged loaded = true) :
      Ends g world job disk ⟨.ok .unchanged, g, world.files⟩
  /-- The document has no module. -/
  | unformatted {loaded : Loaded} {c : Collision} (load : world.load job.schema = .ok loaded)
      (changed : g.loader.isUnchanged loaded = false)
      (format : Module.text (.ofDocument loaded.doc) = .error c) :
      Ends g world job disk ⟨.error (.format c), g, world.files⟩
  /-- The module does not get to its place. -/
  | unwritten {loaded : Loaded} {text : String} {e : WriteError} {files : Node}
      (load : world.load job.schema = .ok loaded)
      (changed : g.loader.isUnchanged loaded = false)
      (format : Module.text (.ofDocument loaded.doc) = .ok text)
      (write : world.files.writeText job.destination text disk = (files, .error e)) :
      Ends g world job disk ⟨.error (.write e), g, files⟩
  /-- The module is written, and the document remembered. -/
  | written {loaded : Loaded} {text : String} {files : Node}
      (load : world.load job.schema = .ok loaded)
      (changed : g.loader.isUnchanged loaded = false)
      (format : Module.text (.ofDocument loaded.doc) = .ok text)
      (write : world.files.writeText job.destination text disk = (files, .ok ())) :
      Ends g world job disk ⟨.ok .written, ⟨⟨some loaded.raw⟩⟩, files⟩

/-- Every cycle ends in one of these ways. -/
theorem cycle_ends (g : Generator) (world : World) (job : Job) (disk : Disk) :
    Ends g world job disk (g.cycle world job disk) := by
  unfold cycle
  split
  · next e load => exact .unloaded load
  · next loaded load =>
    cases hsame : g.loader.isUnchanged loaded with
    | true => exact .unchanged load hsame
    | false =>
      simp only [Bool.false_eq_true, if_false, emit]
      split
      · next c text => exact .unformatted load hsame text
      · next text htext =>
        split
        · next files e write => exact .unwritten load hsame htext write
        · next files write => exact .written load hsame htext write

/-! ## Runs -/

/-- A call of a generator: the world that it finds, its job, and what the disk does with its
module. -/
structure Call where
  world : World
  job : Job
  disk : Disk := .works

/-- The generator after a run. -/
def after : List Call → Generator
  | [] => {}
  | call :: earlier => ((after earlier).cycle call.world call.job call.disk).generator

namespace Call

/-- What a call comes to after a run. -/
def cycle (call : Call) (earlier : List Call) : Cycle :=
  (after earlier).cycle call.world call.job call.disk

/-- Every call ends in one of the five ways, with the generator that the calls before have left. -/
lemma cycle_ends (call : Call) (earlier : List Call) :
    Ends (after earlier) call.world call.job call.disk (call.cycle earlier) :=
  Generator.cycle_ends _ _ _ _

/-- What a call finds in the place of its document. -/
def load (call : Call) : Except LoadError Loaded :=
  call.world.load call.job.schema

/-- Whether a call writes its module after a run. -/
def writes (call : Call) (earlier : List Call) : Bool :=
  match (call.cycle earlier).result with
  | .ok .written => true
  | _ => false

/-- A call writes if this is its result. -/
@[simp] lemma writes_iff {call : Call} {earlier : List Call} :
    call.writes earlier = true ↔ (call.cycle earlier).result = .ok .written := by
  unfold writes
  cases (call.cycle earlier).result with
  | error e => simp
  | ok outcome => cases outcome <;> simp

end Call

/-- The latest call of a run that wrote its module. -/
def latestWritten? : List Call → Option Call
  | [] => none
  | call :: earlier => if call.writes earlier then some call else latestWritten? earlier

/-- The latest call leaves the generator that a run leaves. -/
@[simp] lemma after_cons (call : Call) (earlier : List Call) :
    after (call :: earlier) = (call.cycle earlier).generator := rfl

/-- A call that wrote is the latest one that wrote. -/
@[simp] lemma latestWritten?_of_written {call : Call} {earlier : List Call}
    (h : (call.cycle earlier).result = .ok .written) :
    latestWritten? (call :: earlier) = some call := by
  rw [latestWritten?, if_pos (Call.writes_iff.mpr h)]

/-- Any other call leaves the latest one that wrote. -/
@[simp] lemma latestWritten?_of_ne {call : Call} {earlier : List Call}
    (h : (call.cycle earlier).result ≠ .ok .written) :
    latestWritten? (call :: earlier) = latestWritten? earlier := by
  rw [latestWritten?, if_neg (mt Call.writes_iff.mp h)]

/-- A call that skips is not the latest one that wrote. -/
lemma latestWritten?_of_unchanged {call : Call} {earlier : List Call}
    (h : (call.cycle earlier).result = .ok .unchanged) :
    latestWritten? (call :: earlier) = latestWritten? earlier := by
  simp [h]

/-- Neither is a call that fails. -/
lemma latestWritten?_of_error {call : Call} {earlier : List Call} {e : CycleError}
    (h : (call.cycle earlier).result = .error e) :
    latestWritten? (call :: earlier) = latestWritten? earlier := by
  simp [h]

/-- The value of the document that a call finds. -/
def Call.raw? (call : Call) : Option Json.Value :=
  call.load.toOption.map Loaded.raw

/-- A generator remembers the document of the latest call that wrote, and no other. -/
theorem last_after (calls : List Call) :
    (after calls).loader.last = (latestWritten? calls).bind Call.raw? := by
  induction calls with
  | nil => rfl
  | cons call earlier ih =>
    rw [after_cons]
    have hends := call.cycle_ends earlier
    generalize hcycle : call.cycle earlier = cycle at hends ⊢
    -- only a cycle that wrote leaves another memory than it found
    cases hends with
    | unloaded => simp [hcycle, ih]
    | unchanged => simp [hcycle, ih]
    | unformatted => simp [hcycle, ih]
    | unwritten => simp [hcycle, ih]
    | written load =>
      have hload : call.load = .ok _ := load
      simp [hcycle, Call.raw?, hload, Except.toOption]

/-- A call finds a value if it finds a document with this value. -/
lemma Call.raw?_eq_some_iff {call : Call} {raw : Json.Value} :
    call.raw? = some raw ↔ ∃ loaded, call.load = .ok loaded ∧ loaded.raw = raw := by
  unfold Call.raw?
  cases call.load with
  | error e => simp [Except.toOption]
  | ok loaded => simp [Except.toOption]

/-- A document counts as unchanged after a run if and only if the latest call that wrote has
loaded the same value. -/
theorem isUnchanged_after_iff {calls : List Call} {loaded : Loaded} :
    (after calls).loader.isUnchanged loaded = true ↔
      ∃ writer written, latestWritten? calls = some writer ∧ writer.load = .ok written ∧
        loaded.raw.same written.raw = true := by
  unfold Loader.isUnchanged
  rw [last_after, Option.any_eq_true]
  constructor
  · rintro ⟨raw, hraw, hsame⟩
    obtain ⟨writer, hwriter, hraw⟩ := Option.bind_eq_some_iff.mp hraw
    obtain ⟨written, hload, rfl⟩ := Call.raw?_eq_some_iff.mp hraw
    exact ⟨writer, written, hwriter, hload, hsame⟩
  · rintro ⟨writer, written, hwriter, hload, hsame⟩
    have hraw : writer.raw? = some written.raw := Call.raw?_eq_some_iff.mpr ⟨written, hload, rfl⟩
    exact ⟨written.raw, Option.bind_eq_some_iff.mpr ⟨writer, hwriter, hraw⟩, hsame⟩

/-- A call that finds a new document comes to what writing its module comes to. -/
lemma Call.cycle_of_write {call : Call} {earlier : List Call} {loaded : Loaded} {text : String}
    {files : Node} {result : Except WriteError Unit} (load : call.load = .ok loaded)
    (changed : (after earlier).loader.isUnchanged loaded = false)
    (format : Module.text (.ofDocument loaded.doc) = .ok text)
    (write : call.world.files.writeText call.job.destination text call.disk = (files, result)) :
    (call.cycle earlier).files = files ∧
      (call.cycle earlier).result =
        (result.mapError CycleError.write).map fun _ => .written := by
  unfold Call.load at load
  simp only [Call.cycle, Generator.cycle, load, changed, Bool.false_eq_true, if_false, emit, format,
    write]
  cases result with
  | error e => exact ⟨rfl, rfl⟩
  | ok done => exact ⟨rfl, rfl⟩

/-- To the first call of a run every document is new. -/
lemma Call.result_of_write (call : Call) {loaded : Loaded} {text : String}
    {result : Except WriteError Unit} (load : call.load = .ok loaded)
    (format : Module.text (.ofDocument loaded.doc) = .ok text)
    (write : (call.world.files.writeText call.job.destination text call.disk).2 = result) :
    (call.cycle []).result = (result.mapError CycleError.write).map fun _ => .written := by
  have hnew : (after []).loader.isUnchanged loaded = false := rfl
  subst write
  exact (Call.cycle_of_write load hnew format (Prod.eta _).symm).2

/-- A call that finds a document that counts as unchanged skips, and leaves all as it is. -/
lemma Call.cycle_of_isUnchanged {call : Call} {earlier : List Call} {loaded : Loaded}
    (load : call.load = .ok loaded) (same : (after earlier).loader.isUnchanged loaded = true) :
    call.cycle earlier = ⟨.ok .unchanged, after earlier, call.world.files⟩ := by
  unfold Call.load at load
  simp [Call.cycle, Generator.cycle, load, same]

/-- A call that succeeds has a latest writing call up to it.  This one has loaded the same
document, or the call skipped, and the two documents were loaded from values that are the same to
the loader but not equal. -/
theorem latestWritten?_of_ok {call : Call} {earlier : List Call} {outcome : CycleOutcome}
    (ok : (call.cycle earlier).result = .ok outcome) :
    ∃ writer loaded written,
      latestWritten? (call :: earlier) = some writer ∧
        call.load = .ok loaded ∧ writer.load = .ok written ∧
          (written = loaded ∨ outcome = .unchanged ∧ loaded.raw ≠ written.raw ∧
            loaded.raw.same written.raw = true) := by
  have hends := call.cycle_ends earlier
  generalize hcycle : call.cycle earlier = cycle at hends ok
  cases hends with
  | unloaded => cases ok
  | unformatted => cases ok
  | unwritten => cases ok
  | @written loaded _ _ load =>
    have hlatest : latestWritten? (call :: earlier) = some call := by simp [hcycle]
    exact ⟨call, loaded, loaded, hlatest, load, load, .inl rfl⟩
  | @unchanged loaded load same =>
    cases ok
    have hlatest : latestWritten? (call :: earlier) = latestWritten? earlier := by simp [hcycle]
    obtain ⟨writer, written, hwriter, hwritten, hsame⟩ := isUnchanged_after_iff.mp same
    refine ⟨writer, loaded, written, hlatest.trans hwriter, load, hwritten, ?_⟩
    by_cases hraw : loaded.raw = written.raw
    · exact .inl (World.eq_of_raw_eq load hwritten hraw).symm
    · exact .inr ⟨rfl, hraw, hsame⟩

end TypedRouter.Generator
