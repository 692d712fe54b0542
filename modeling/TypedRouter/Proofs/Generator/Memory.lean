import TypedRouter.Proofs.Generator.Destination

/-!
# What a generator remembers

The memory of a generator shows in one place only, in whether a call skips.  A call that finds a
document skips if and only if the latest call that wrote has loaded the same value.

A call that fails leaves no trace in the memory, wherever in its cycle it fails.  So the history of
a run, which holds what each call came to, can be thinned: if some of the failed calls are left out
and every other call finds the world that it found before, every other call comes to what it came
to before.
-/

namespace TypedRouter.Generator

open Loading Files

/-! ## Histories -/

/-- The calls of a run, the latest first, each with what it came to. -/
def history : List Call → List (Call × Cycle)
  | [] => []
  | call :: earlier => (call, call.cycle earlier) :: history earlier

/-- Whether a call of a history succeeded. -/
def succeeded (entry : Call × Cycle) : Bool := entry.2.result.isOk

/-- The latest call of a run is the first of its history. -/
@[simp] lemma history_cons (call : Call) (earlier : List Call) :
    history (call :: earlier) = (call, call.cycle earlier) :: history earlier := rfl

/-- A call that fails leaves the generator as it was. -/
lemma after_of_failed {call : Call} {earlier : List Call}
    (failed : (call.cycle earlier).result.isOk = false) :
    after (call :: earlier) = after earlier := by
  rw [after_cons]
  have hends := call.cycle_ends earlier
  generalize call.cycle earlier = cycle at failed hends ⊢
  cases hends with
  | unloaded => rfl
  | unformatted => rfl
  | unwritten => rfl
  | unchanged => cases failed
  | written => cases failed

/-- A call comes to the same after any two runs that leave the same generator. -/
lemma Call.cycle_congr {calls others : List Call} (call : Call) (h : after calls = after others) :
    call.cycle calls = call.cycle others := by
  rw [Call.cycle, Call.cycle, h]

/-- A part of a history that has all its successful calls lacks no call that succeeded. -/
lemma not_succeeded_of_left_out {entry : Call × Cycle} {kept entries : List (Call × Cycle)}
    (sub : kept.Sublist entries)
    (same : kept.filter succeeded = (entry :: entries).filter succeeded) :
    succeeded entry = false := by
  cases hentry : succeeded entry with
  | false => rfl
  | true =>
    rw [List.filter_cons_of_pos hentry] at same
    have hle := (sub.filter succeeded).length_le
    have heq := congrArg List.length same
    rw [List.length_cons] at heq
    omega

/-- A run without some of its failed calls leaves the same generator, and its calls come to the
same. -/
theorem after_and_history_of_sublist {calls : List Call} {kept : List (Call × Cycle)}
    (sub : kept.Sublist (history calls))
    (same : kept.filter succeeded = (history calls).filter succeeded) :
    after (kept.map Prod.fst) = after calls ∧ history (kept.map Prod.fst) = kept := by
  induction calls generalizing kept with
  | nil =>
    obtain rfl := List.sublist_nil.mp sub
    exact ⟨rfl, rfl⟩
  | cons call earlier ih =>
    rw [history_cons] at sub same
    cases sub with
    | cons _ sub =>
      have hfailed := not_succeeded_of_left_out sub same
      rw [List.filter_cons_of_neg (by simp [hfailed])] at same
      obtain ⟨hafter, hhistory⟩ := ih sub same
      exact ⟨hafter.trans (after_of_failed hfailed).symm, hhistory⟩
    | @cons_cons kept _ _ sub =>
      have hrest : kept.filter succeeded = (history earlier).filter succeeded := by
        rw [List.filter_cons, List.filter_cons] at same
        split at same
        · exact (List.cons.inj same).2
        · exact same
      obtain ⟨hafter, hhistory⟩ := ih sub hrest
      have hcycle := call.cycle_congr hafter
      refine ⟨?_, ?_⟩
      · rw [List.map_cons, after_cons, after_cons, hcycle]
      · rw [List.map_cons, history_cons, hcycle, hhistory]

/-! ## Skipped calls -/

/-- A call that finds a document skips if and only if the document counts as unchanged. -/
lemma Call.result_eq_unchanged_iff {call : Call} {earlier : List Call} {loaded : Loaded}
    (load : call.load = .ok loaded) :
    (call.cycle earlier).result = .ok .unchanged ↔
      (after earlier).loader.isUnchanged loaded = true := by
  constructor
  · intro hresult
    have hends := call.cycle_ends earlier
    generalize call.cycle earlier = cycle at hresult hends
    cases hends with
    | unloaded => cases hresult
    | unformatted => cases hresult
    | unwritten => cases hresult
    | written => cases hresult
    | @unchanged other found same =>
      obtain rfl : other = loaded := Except.ok.inj (found.symm.trans load)
      exact same
  · intro same
    rw [Call.cycle_of_isUnchanged load same]

/-- After any run, a call that finds a document skips if and only if some call of the run wrote and
the latest that did has loaded the same value.  The calls that failed do not matter: a run without
some of them has the same history but for them. -/
theorem memory_of_run (calls : List Call) :
    (∀ (call : Call) (loaded : Loaded), call.load = .ok loaded →
        ((call.cycle calls).result = .ok .unchanged ↔
          ∃ writer written, latestWritten? calls = some writer ∧ writer.load = .ok written ∧
            loaded.raw.same written.raw = true)) ∧
      ∀ kept, kept.Sublist (history calls) →
        kept.filter succeeded = (history calls).filter succeeded →
          history (kept.map Prod.fst) = kept := by
  constructor
  · intro call loaded load
    rw [Call.result_eq_unchanged_iff load, isUnchanged_after_iff]
  · intro kept sub same
    exact (after_and_history_of_sublist sub same).2

/-- A call that finds no schema. -/
def schemaless : Call where
  world := ⟨.directory [], .unreachable⟩
  job := inOrder.job

/-- Such a call fails to load, and leaves all as it is. -/
lemma schemaless_cycle (earlier : List Call) :
    schemaless.cycle earlier =
      ⟨.error (.load (.unreadable "schema")), after earlier, schemaless.world.files⟩ := by
  have hload : schemaless.world.load schemaless.job.schema = .error (.unreadable "schema") := by
    rfl
  simp [Call.cycle, Generator.cycle, hload]

/-- A call that fails between a call that wrote and a call that skips changes neither of them. -/
theorem swapped_skips_after_schemaless :
    (schemaless.cycle [inOrder]).result.isOk = false ∧
      (swapped.cycle [schemaless, inOrder]).result = .ok .unchanged ∧
        history [swapped, inOrder] =
          [(swapped, swapped.cycle [schemaless, inOrder]), (inOrder, inOrder.cycle [])] := by
  have hfailed : (schemaless.cycle [inOrder]).result.isOk = false := by
    rw [schemaless_cycle]
    rfl
  have hskips : (swapped.cycle [inOrder]).result = .ok .unchanged := by rw [swapped_cycle]
  obtain ⟨_, loaded, _, _, hload, _⟩ := latestWritten?_of_ok hskips
  have hlatest : latestWritten? [schemaless, inOrder] = latestWritten? [inOrder] :=
    latestWritten?_of_error (by rw [schemaless_cycle])
  have hwriter := ((memory_of_run [inOrder]).1 swapped loaded hload).mp hskips
  rw [← hlatest] at hwriter
  refine ⟨hfailed, ((memory_of_run [schemaless, inOrder]).1 swapped loaded hload).mpr hwriter, ?_⟩
  have hsub : [(swapped, swapped.cycle [schemaless, inOrder]), (inOrder, inOrder.cycle [])].Sublist
      (history [swapped, schemaless, inOrder]) := .cons_cons _ (.cons _ (.refl _))
  refine (memory_of_run [swapped, schemaless, inOrder]).2 _ hsub ?_
  have hentry : succeeded (schemaless, schemaless.cycle [inOrder]) = false := hfailed
  simp only [history, List.filter_cons, hentry, Bool.false_eq_true, if_false]

end TypedRouter.Generator
