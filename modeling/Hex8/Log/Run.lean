import Hex8.Log.Event
import Hex8.Trace.Run

set_option relaxedAutoImplicit false
set_option autoImplicit false

/-!
# Messages about runs

What there is to say about a run of a program, on the reference machine or on a core. All of it
follows from the records and from the wires, so that neither machine has to know about messages.

## Main definitions

* `Hex8.machineEvents` — the instructions of the reference machine.
* `Hex8.cycleEvents` — the stores and the retired instructions of a cycle.
* `Hex8.coreEvents` — the cycles of a core.
* `Hex8.mismatchEvents` — the difference of two traces.
-/

namespace Hex8

/-- The instructions of the reference machine. -/
def machineEvents (records : List Record) : List Event :=
  records.map fun record => ⟨.trace, "hex8_sim::model", "model: " ++ record.text⟩

/-- A core with the given name has been built. -/
def creationEvent (name : String) : Event :=
  ⟨.debug, "hex8_sim::architectures", "creating simulator: " ++ name⟩

/-- A cycle in which the core is held in reset. -/
def resetEvent (name : String) (cycle : Nat) : Event :=
  ⟨.debug, "hex8_sim::framework", name ++ ": reset in cycle " ++ toString cycle⟩

/-- A store that the data memory has served. -/
def storeEvent (address data : UInt8) : Event :=
  ⟨.info, "hex8_sim::architectures::hardware",
    "write memory: addr = " ++ Hex.prefixedByte address ++
      ", datain = " ++ Hex.prefixedByte data⟩

/-- A retired instruction. -/
def retireEvent (record : Record) (index : Nat) : Event :=
  ⟨.trace, "hex8_sim::tracer", "retire #" ++ toString index ++ ": " ++ record.text⟩

/-- The end of a run. -/
def summaryEvent (name : String) (retired cycles : Nat) : Event :=
  ⟨.debug, "hex8_sim::test",
    name ++ ": " ++ toString retired ++ " records in " ++ toString cycles ++ " cycles"⟩

/-- The store and the retired instructions of a cycle; `index` counts the instructions before. -/
def cycleEvents (signals : Signals) (index : Nat) (records : List Record) : List Event :=
  (if signals.accessValid && signals.accessWrite then
    [storeEvent signals.accessAddress signals.accessData] else []) ++
    records.mapIdx fun i record => retireEvent record (index + i)

/-- The events of `n` cycles behind those that are given, the last one first. -/
def watchEvents {core : Core} (done : List Event) :
    Nat → Simulator core → Tracer → List Event
  | 0, _, _ => done.reverse
  | n + 1, simulator, tracer =>
    let simulator := simulator.step
    let (next, records) := tracer.sample simulator.signals
    watchEvents ((cycleEvents simulator.signals tracer.retired records).reverse ++ done) n
      simulator next

/-- The cycles of a core that is first held in reset and then runs for the given number of cycles,
in which the given number of instructions retire. -/
def coreEvents (core : Core) (options : RunOptions) (program : Program) (retired running : Nat) :
    List Event :=
  let stream := recordStream core options program
  [creationEvent core.name] ++
    (List.range options.resetCycles).map (fun cycle => resetEvent core.name (cycle + 1)) ++
    watchEvents [] running stream.source.simulator stream.tracer ++
    [summaryEvent core.name retired (options.resetCycles + running)]

/-- The difference of two traces, if it is one of records. -/
def mismatchEvents : TraceMismatch → List Event
  | .record index field _ _ =>
    [⟨.warn, "hex8_sim::test::diff", TraceMismatch.recordSummary index field⟩]
  | .length _ _ => []

end Hex8
