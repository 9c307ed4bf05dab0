import Mathlib.Tactic.Lemma
import Hex8.Trace.Tracer

set_option relaxedAutoImplicit false
set_option autoImplicit false

/-!
# The tracer as a sliding window

The tracer remembers one instruction that is being fetched and one load that waits for its byte.
What it reports can be told without its memory: an instruction is looked for in the sample that
requests its word and in the two samples behind that. This holds of any samples at all, whether
they come from a core or not.

## Main definitions

* `Hex8.Record.requestedIn?` — the record of the instruction that the first of several samples
  requests.
* `Hex8.Tracer.outstanding` — the records of the instructions that are under way.

## Main results

* `Hex8.Tracer.records_sampleAll` — what is reported from any state of the tracer.
* `Hex8.Tracer.sampleAll_initial_eq_windows` — the records, their number and the idle state after
  any samples.
-/

namespace Hex8

namespace Record

/-- The record of the instruction whose word is requested in the first of several samples. There is
none if the word is not requested, if the tracer is reset before the instruction retires, or if the
samples end too early. -/
def requestedIn? : List Signals → Option Record
  | request :: execution :: rest =>
    if request.reset || execution.reset || !request.fetchValid then none
    else if execution.accessValid && !execution.accessWrite then
      (rest.head?.filter (!·.reset)).map fun response =>
        { pc := request.fetchAddress, inst := .decode execution.word
          areg := response.result.areg, breg := response.result.breg
          memory := .load, address := execution.accessAddress
          data := response.result.value }
    else
      some
        { pc := request.fetchAddress, inst := .decode execution.word
          areg := execution.result.areg, breg := execution.result.breg
          memory := if execution.accessValid then .store else .nothing
          address := if execution.accessValid then execution.accessAddress else 0
          data := if execution.accessValid then execution.accessData else 0 }
  | _ => none

/-- The record of a load that gets its byte in the first of several samples. -/
def loadedIn? (record : Record) (samples : List Signals) : Option Record :=
  (samples.head?.filter (!·.reset)).map (.loadedOn · record)

/-- The record of the instruction at `pc` that executes in the first of several samples. -/
def executedIn? (pc : UInt8) : List Signals → Option Record
  | [] => none
  | execution :: rest =>
    if execution.reset then none
    else if (executedOn execution pc).isLoad then (executedOn execution pc).loadedIn? rest
    else some (executedOn execution pc)

/-- An instruction is a load if a byte is requested that is not written. -/
lemma isLoad_executedOn (signals : Signals) (pc : UInt8) :
    (executedOn signals pc).isLoad = (signals.accessValid && !signals.accessWrite) := by
  rw [isLoad, executedOn]
  rcases valid : signals.accessValid <;> rcases write : signals.accessWrite <;> simp

/-- An instruction that is requested executes in the next sample. -/
lemma requestedIn?_cons (request : Signals) (rest : List Signals) :
    requestedIn? (request :: rest) =
      if request.reset || !request.fetchValid then none
      else executedIn? request.fetchAddress rest := by
  rcases rest with _ | ⟨execution, rest⟩
  · simp [requestedIn?, executedIn?]
  · simp only [requestedIn?, executedIn?, isLoad_executedOn]
    by_cases skipped : (request.reset || !request.fetchValid) = true
    · rw [if_pos skipped, if_pos]
      grind
    · rw [if_neg skipped]
      by_cases reset : execution.reset = true
      · simp [reset]
      · rw [if_neg reset, if_neg (by grind)]
        rcases valid : execution.accessValid <;> rcases write : execution.accessWrite <;>
          simp [executedOn, loadedIn?, loadedOn, valid, write]

end Record

namespace Tracer

/-- The records of the instructions that are under way, as the next samples will show them. -/
def outstanding (tracer : Tracer) (samples : List Signals) : List Record :=
  (tracer.loading.bind (Record.loadedIn? · samples)).toList ++
    (tracer.fetching.bind (Record.executedIn? · samples)).toList

/-- **One sample.** What is reported now and what is outstanding behind the sample is what has been
outstanding before, and the instruction that the sample requests. -/
lemma outstanding_cons (tracer : Tracer) (signals : Signals) (rest : List Signals) :
    (tracer.sample signals).2 ++ (tracer.sample signals).1.outstanding rest =
      tracer.outstanding (signals :: rest) ++
        (Record.requestedIn? (signals :: rest)).toList := by
  rw [Record.requestedIn?_cons]
  by_cases reset : signals.reset = true
  · -- everything that is under way is lost
    rcases tracer with ⟨_ | pc, _ | record, retired⟩ <;>
      simp [sample, outstanding, Record.loadedIn?, Record.executedIn?, reset]
  · have loaded : tracer.loading.bind (Record.loadedIn? · (signals :: rest)) =
        tracer.loading.map (.loadedOn signals) := by
      rcases tracer.loading with _ | record <;> simp [Record.loadedIn?, Option.filter, reset]
    have requested :
        (if signals.reset || !signals.fetchValid then none
          else Record.executedIn? signals.fetchAddress rest) =
        (if signals.fetchValid then some signals.fetchAddress else none).bind
          (Record.executedIn? · rest) := by
      rcases signals.fetchValid <;> simp [reset]
    rw [sample, if_neg reset, requested]
    simp only [outstanding, loaded]
    -- a load becomes outstanding, everything else that executes is reported at once
    rcases tracer.fetching with _ | pc
    · simp
    · have executed : Record.executedIn? pc (signals :: rest) =
          if (Record.executedOn signals pc).isLoad then
            (Record.executedOn signals pc).loadedIn? rest
          else some (Record.executedOn signals pc) := if_neg reset
      rcases isLoad : (Record.executedOn signals pc).isLoad <;>
        simp [executed, isLoad, Option.filter]

/-- **What is reported** is what is outstanding, and the instructions that the samples request. -/
theorem records_sampleAll (tracer : Tracer) (samples : List Signals) :
    (tracer.sampleAll samples).2 =
      tracer.outstanding samples ++
        (List.range samples.length).filterMap fun i =>
          Record.requestedIn? (samples.drop i) := by
  induction samples generalizing tracer with
  | nil =>
    rcases tracer with ⟨_ | pc, _ | record, retired⟩ <;> rfl
  | cons signals rest ih =>
    have windows : (List.range (rest.length + 1)).filterMap
          (fun i => Record.requestedIn? ((signals :: rest).drop i)) =
        (Record.requestedIn? (signals :: rest)).toList ++
          (List.range rest.length).filterMap fun i => Record.requestedIn? (rest.drop i) := by
      rw [List.range_succ_eq_map, List.filterMap_cons, List.filterMap_map, List.drop_zero]
      rcases Record.requestedIn? (signals :: rest) <;> rfl
    rw [sampleAll, List.length_cons, windows, ← List.append_assoc, ← outstanding_cons,
      List.append_assoc, ← ih]

/-! ## What is under way -/

/-- The last sample comes last. -/
lemma sampleAll_concat (tracer : Tracer) (samples : List Signals) (last : Signals) :
    (tracer.sampleAll (samples ++ [last])).1 =
      ((tracer.sampleAll samples).1.sample last).1 := by
  rw [sampleAll_append]
  rfl

/-- An instruction is being fetched exactly if the last sample requests its word. -/
lemma isSome_fetching_sample (tracer : Tracer) (signals : Signals) :
    (tracer.sample signals).1.fetching.isSome = true ↔
      signals.reset = false ∧ signals.fetchValid = true := by
  rw [sample]
  rcases signals.reset <;> rcases signals.fetchValid <;> simp

/-- An instruction is being fetched exactly if the last of the samples requests its word. -/
lemma isSome_fetching_sampleAll (samples : List Signals) :
    (initial.sampleAll samples).1.fetching.isSome = true ↔
      ∃ last ∈ samples.getLast?, last.reset = false ∧ last.fetchValid = true := by
  rcases samples.eq_nil_or_concat with rfl | ⟨earlier, last, rfl⟩
  · simp [sampleAll, initial]
  · rw [List.concat_eq_append, sampleAll_concat, isSome_fetching_sample]
    simp

/-- What can be under way behind a sample: the instruction that it requests, and a load that has
been requested before and asks for its byte in it. -/
lemma isIdle_sample_eq_false (tracer : Tracer) (signals : Signals) :
    (tracer.sample signals).1.isIdle = false ↔
      signals.reset = false ∧
        (signals.fetchValid = true ∨
          tracer.fetching.isSome = true ∧
            signals.accessValid = true ∧ signals.accessWrite = false) := by
  rw [sample]
  rcases reset : signals.reset
  · rcases tracer.fetching with _ | pc
    · rcases signals.fetchValid <;> simp [isIdle]
    · have load := Record.isLoad_executedOn signals pc
      rcases signals.fetchValid <;> rcases valid : signals.accessValid <;>
        rcases write : signals.accessWrite <;> simp_all [isIdle, Option.filter]
  · simp [isIdle]

/-- **The tracer is a sliding window.** On any samples it reports, in the order of the requests and
once each, the instructions that are requested in a sample and retire in one of the two behind it.
It counts what it reports, and is idle unless the last sample requests a word, or asks for the byte
of a load that the sample before has requested.

**Proof sketch.** Induction on the samples from any state of the tracer (`records_sampleAll`):
in every sample the records that are reported and those that are still outstanding are together
those that were outstanding before and the one that the sample requests (`outstanding_cons`). What
is under way depends on the last two samples only. -/
theorem sampleAll_initial_eq_windows (samples : List Signals) :
    (initial.sampleAll samples).2 =
        ((List.range samples.length).filterMap fun i =>
          Record.requestedIn? (samples.drop i)) ∧
      (initial.sampleAll samples).1.retired = (initial.sampleAll samples).2.length ∧
      ((initial.sampleAll samples).1.isIdle = false ↔
        ∃ last ∈ samples.getLast?, last.reset = false ∧
          (last.fetchValid = true ∨
            (∃ before ∈ samples.dropLast.getLast?,
              before.reset = false ∧ before.fetchValid = true) ∧
            last.accessValid = true ∧ last.accessWrite = false)) := by
  refine ⟨records_sampleAll initial samples, ?_, ?_⟩
  · rw [retired_sampleAll]
    exact Nat.zero_add _
  · rcases samples.eq_nil_or_concat with rfl | ⟨earlier, last, rfl⟩
    · simp [sampleAll, isIdle, initial]
    · rw [List.concat_eq_append, sampleAll_concat, isIdle_sample_eq_false,
        isSome_fetching_sampleAll]
      simp

end Tracer

end Hex8
