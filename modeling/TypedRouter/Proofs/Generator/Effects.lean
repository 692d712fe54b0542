import TypedRouter.Proofs.Files.Frame
import TypedRouter.Proofs.Generator.Destination

/-!
# What a cycle does to the files

A cycle can fail at five places, and each time other things have been done already.  To load a
document and to print its module changes nothing.  The directories on the way to the destination
are made before the file is written, so a cycle that fails at either of these two steps can leave
new directories, but on a disk that works no file.  A cycle that succeeds leaves the module of the
document that it has loaded, unless it skips, and then it leaves the files alone.

So the change that a cycle makes is confined to the destination and the way to it, whatever the
cycle comes to and whatever the disk does.  Changes of this kind add up to one of the same kind, and
a run that has the files to itself is confined in the same way.
-/

namespace TypedRouter.Generator

open Loading TypeScript Files Router

/-! ## One cycle -/

/-- What a cycle on a disk that works does to the files and to the memory, by what it comes to. -/
theorem cycle_effects (g : Generator) (world : World) (job : Job) :
    match (g.cycle world job).result with
    | .ok .written =>
      ∃ loaded text, world.load job.schema = .ok loaded ∧
        Module.text (.ofDocument loaded.doc) = .ok text ∧
          Node.Overwrites job.destination (Text.Utf8.encode text.toList) world.files
            (g.cycle world job).files
    | .ok .unchanged => (g.cycle world job).files = world.files
    | .error (.load _) | .error (.format _) =>
      (g.cycle world job).files = world.files ∧ (g.cycle world job).generator = g
    | .error (.write _) =>
      Node.AddsDirectories (Path.ancestors job.destination) world.files (g.cycle world job).files ∧
        (∀ place bytes, (g.cycle world job).files.kindAt? place = some (.file bytes) ↔
          world.files.kindAt? place = some (.file bytes)) ∧
            (g.cycle world job).generator = g := by
  have hends := g.cycle_ends world job .works
  generalize g.cycle world job = cycle at hends ⊢
  cases hends with
  | unloaded => exact ⟨rfl, rfl⟩
  | unchanged => rfl
  | unformatted => exact ⟨rfl, rfl⟩
  | unwritten _ _ _ write =>
    have hadded := Node.addsDirectories_of_writeText_error write
    exact ⟨hadded, hadded.file_iff, rfl⟩
  | written load _ format write =>
    exact ⟨_, _, load, format, Node.overwrites_of_writeText write⟩

/-- A call that finds a schema and nothing else, and has this destination. -/
def callTo (destination : String) : Call where
  world := inOrder.world
  job := ⟨.file "schema", destination⟩

/-- A call whose disk works is a cycle on a disk that works. -/
lemma Call.cycle_of_works (call : Call) {earlier : List Call} (works : call.disk = .works) :
    call.cycle earlier = (after earlier).cycle call.world call.job := by
  rw [Call.cycle, works]

/-- The directory is made, so the module is written. -/
lemma result_nested : ((callTo "gen/router.d.ts").cycle []).result = .ok .written := by
  obtain ⟨_, text, load, format⟩ := exists_text_inOrder
  have hwrite : (inOrder.world.files.writeText "gen/router.d.ts" text).2 = .ok () := rfl
  exact (callTo "gen/router.d.ts").result_of_write load format hwrite

/-- The schema is in the way of the directory. -/
lemma result_below :
    ((callTo "schema/router.d.ts").cycle []).result = .error (.write (.blocked "schema")) := by
  obtain ⟨_, text, load, format⟩ := exists_text_inOrder
  have hwrite : (inOrder.world.files.writeText "schema/router.d.ts" text).2 =
    .error (.blocked "schema") := rfl
  exact (callTo "schema/router.d.ts").result_of_write load format hwrite

/-- Such a call finds its schema at the top of the files. -/
lemma kindAt?_schema (schema : List Char) (files : List (String × Node)) :
    (schemaCall schema files).world.files.kindAt? ["schema"] =
      some (.file (Text.Utf8.encode schema)) := rfl

/-- A call makes the directory that its destination lacks, and one whose destination is below the
schema fails.  Both leave the schema as it is. -/
theorem effects_of_callTo :
    let schema := Kind.file (Text.Utf8.encode (componentsChars 'A' 'B'))
    let nested := (callTo "gen/router.d.ts").cycle []
    let below := (callTo "schema/router.d.ts").cycle []
    (nested.result = .ok .written ∧ nested.files.kindAt? ["gen"] = some .directory ∧
      nested.files.kindAt? ["schema"] = some schema ∧
        ∃ bytes, nested.files.kindAt? ["gen", "router.d.ts"] = some (.file bytes)) ∧
      below.result = .error (.write (.blocked "schema")) ∧
        below.files.kindAt? ["schema"] = some schema ∧ below.generator = after [] := by
  have hplace : Path.place "gen/router.d.ts" = ["gen", "router.d.ts"] := by decide
  have hway : ["gen"] ∈ Path.ancestors "gen/router.d.ts" := by decide
  have hother : ["schema"] ≠ Path.place "gen/router.d.ts" := by
    rw [hplace]
    decide
  have hschema := kindAt?_schema (componentsChars 'A' 'B') []
  have hwritten {call : Call} (works : call.disk = .works)
      (h : (call.cycle []).result = .ok .written) :
      ∃ bytes, Node.Overwrites call.job.destination bytes call.world.files
        (call.cycle []).files := by
    have heffects := cycle_effects (after []) call.world call.job
    rw [← call.cycle_of_works works, h] at heffects
    obtain ⟨_, _, -, -, hover⟩ := heffects
    exact ⟨_, hover⟩
  have hfailed {call : Call} {e : WriteError} (works : call.disk = .works)
      (h : (call.cycle []).result = .error (.write e)) :
      (∀ place bytes, (call.cycle []).files.kindAt? place = some (.file bytes) ↔
        call.world.files.kindAt? place = some (.file bytes)) ∧
          (call.cycle []).generator = after [] := by
    have heffects := cycle_effects (after []) call.world call.job
    rw [← call.cycle_of_works works, h] at heffects
    exact heffects.2
  obtain ⟨bytes, hover⟩ := hwritten rfl result_nested
  obtain ⟨hfiles, hmemory⟩ := hfailed rfl result_below
  refine ⟨⟨result_nested, hover.way _ hway, ?_, bytes, ?_⟩, result_below, ?_, hmemory⟩
  · exact (hover.others _ hother _).mpr hschema
  · exact hplace ▸ hover.place
  · exact (hfiles _ _).mpr hschema

/-! ## Runs -/

/-- Whatever a cycle comes to, the change that it makes is confined to its destination and the way
to it. -/
theorem confined_of_cycle (g : Generator) (world : World) (job : Job) (disk : Disk) :
    Node.Confined job.destination world.files (g.cycle world job disk).files := by
  have hends := g.cycle_ends world job disk
  generalize g.cycle world job disk = cycle at hends ⊢
  cases hends with
  | unloaded => exact .refl _ _
  | unchanged => exact .refl _ _
  | unformatted => exact .refl _ _
  | @unwritten _ text _ _ _ _ _ write =>
    have hconfined := Node.confined_of_writeText world.files job.destination text disk
    rwa [write] at hconfined
  | written _ _ _ write => exact (Node.overwrites_of_writeText write).toConfined

/-- A run of one job that has the files to itself: the first call finds the files of the start, and
each other call finds them as the call before has left them. -/
inductive Alone (job : Job) (start : Node) : List Call → Node → Prop
  | nil : Alone job start [] start
  | cons {world : World} {disk : Disk} {earlier : List Call}
      (before : Alone job start earlier world.files) :
      Alone job start (⟨world, job, disk⟩ :: earlier)
        (Call.cycle ⟨world, job, disk⟩ earlier).files

/-- Such a run is confined to the destination of the job and the way to it. -/
theorem confined_of_alone {job : Job} {start files : Node} {calls : List Call}
    (h : Alone job start calls files) : Node.Confined job.destination start files := by
  induction h with
  | nil => exact .refl _ _
  | cons _ before => exact before.trans (confined_of_cycle _ _ _ _)

end TypedRouter.Generator
