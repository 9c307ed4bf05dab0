import Hex8.Bus.Signals
import Hex8.Isa.Record

set_option relaxedAutoImplicit false
set_option autoImplicit false

/-!
# The tracer

The tracer watches the wires of a core, once in every cycle, and reports the instructions that
retire. An instruction whose word is requested in one cycle executes in the next one. Its record is
complete then, unless it is a load, whose byte is there one more cycle later.

## Main definitions

* `Hex8.Tracer` — the instructions that have not retired yet.
* `Hex8.Tracer.sample` — one more cycle has been seen.
* `Hex8.Tracer.sampleAll` — several more cycles have been seen.

## Main results

* `Hex8.Tracer.sampleAll_append` — what is seen in two parts is reported in two parts.
* `Hex8.Tracer.retired_sampleAll` — the tracer counts what it reports.
-/

namespace Hex8

namespace Record

/-- The record of the instruction at `pc` whose word is on the wires. -/
def executedOn (signals : Signals) (pc : UInt8) : Record :=
  let isStore := signals.accessValid && signals.accessWrite
  let isLoad := signals.accessValid && !signals.accessWrite
  { pc, inst := .decode signals.word
    areg := signals.result.areg, breg := signals.result.breg
    memory := if isStore then .store else if isLoad then .load else .nothing
    address := if signals.accessValid then signals.accessAddress else 0
    data := if isStore then signals.accessData else 0 }

/-- The record of a load whose byte is on the wires. -/
def loadedOn (signals : Signals) (record : Record) : Record :=
  { record with
    areg := signals.result.areg, breg := signals.result.breg, data := signals.result.value }

/-- Whether the record is that of a load. -/
def isLoad (record : Record) : Bool :=
  record.memory = .load

end Record

/-- The instructions that have not retired yet. -/
structure Tracer where
  /-- The address of the instruction whose word was requested in the latest cycle. -/
  fetching : Option UInt8
  /-- The load that waits for its byte. -/
  loading : Option Record
  /-- How many instructions have retired. -/
  retired : Nat
  deriving DecidableEq

namespace Tracer

/-- The tracer before the first cycle. -/
def initial : Tracer :=
  { fetching := none, loading := none, retired := 0 }

/-- The default tracer has not seen anything. -/
instance : Inhabited Tracer :=
  ⟨initial⟩

/-- Whether no instruction is under way. -/
def isIdle (tracer : Tracer) : Bool :=
  tracer.fetching.isNone && tracer.loading.isNone

/-- One more cycle has been seen. The records of the instructions that retire in it come in
program order: a load that has waited for its byte, then the instruction that executes. -/
def sample (tracer : Tracer) (signals : Signals) : Tracer × List Record :=
  if signals.reset then
    ({ tracer with fetching := none, loading := none }, [])
  else
    let loaded := tracer.loading.map (.loadedOn signals)
    let executed := tracer.fetching.map (.executedOn signals)
    let records := loaded.toList ++ (executed.filter (!·.isLoad)).toList
    ({ fetching := if signals.fetchValid then some signals.fetchAddress else none
       loading := executed.filter (·.isLoad)
       retired := tracer.retired + records.length },
     records)

/-- Several more cycles have been seen. -/
def sampleAll : Tracer → List Signals → Tracer × List Record
  | tracer, [] => (tracer, [])
  | tracer, signals :: rest =>
    let (tracer, records) := tracer.sample signals
    let (tracer, others) := sampleAll tracer rest
    (tracer, records ++ others)

/-- What is seen in two parts is reported in two parts. -/
theorem sampleAll_append (tracer : Tracer) (xs ys : List Signals) :
    tracer.sampleAll (xs ++ ys) =
      let first := tracer.sampleAll xs
      let second := first.1.sampleAll ys
      (second.1, first.2 ++ second.2) := by
  induction xs generalizing tracer with
  | nil => simp [sampleAll]
  | cons x xs ih => simp [sampleAll, ih]

/-- The tracer counts what it reports in a cycle. -/
theorem retired_sample (tracer : Tracer) (signals : Signals) :
    (tracer.sample signals).1.retired =
      tracer.retired + (tracer.sample signals).2.length := by
  unfold sample
  split <;> simp

/-- The tracer counts what it reports. -/
theorem retired_sampleAll (tracer : Tracer) (samples : List Signals) :
    (tracer.sampleAll samples).1.retired =
      tracer.retired + (tracer.sampleAll samples).2.length := by
  induction samples generalizing tracer with
  | nil => simp [sampleAll]
  | cons x xs ih => simp [sampleAll, ih, retired_sample, Nat.add_assoc]

end Tracer

end Hex8
