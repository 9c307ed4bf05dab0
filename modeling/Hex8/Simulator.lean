import Hex8.Core.Basic

set_option relaxedAutoImplicit false
set_option autoImplicit false

/-!
# Cycle by cycle simulation

A simulator holds a core, its two memories and the wires between them, and moves them on by one
clock cycle at a time. A cycle starts with the clock edge that loads the pipeline registers; then
the signals propagate through the logic, and at its end the memories serve the requests.

## Main definitions

* `Hex8.Simulator` — a core in the middle of its work.
* `Hex8.Simulator.initiate`, `Hex8.Simulator.propagate` — the two halves of a cycle.
* `Hex8.Simulator.step`, `Hex8.Simulator.steps` — one cycle and several.

## Main results

* `Hex8.Simulator.step_of_reset` — in reset a core forgets everything and asks for nothing.
* `Hex8.Simulator.cycles_step` — every step is one cycle.
-/

namespace Hex8

/-- A core in the middle of its work. -/
structure Simulator (core : Core) where
  /-- The pipeline registers during the latest cycle. -/
  current : core.State
  /-- The pipeline registers of the next cycle. -/
  next : core.State
  /-- The memories. -/
  units : Units
  /-- The wires during the latest cycle. -/
  signals : Signals
  /-- Whether the core is held in reset. -/
  reset : Bool
  /-- How many cycles have begun. -/
  cycles : Nat

namespace Simulator

variable {core : Core}

/-- A core before its first cycle, with the given memories. -/
def ofMemory (core : Core) (imem dmem : Memory) : Simulator core :=
  { current := core.afterReset, next := core.afterReset, units := .ofMemory imem dmem
    signals := default, reset := false, cycles := 0 }

/-- Holds the core in reset from the next cycle on, or no longer does. -/
def setReset (simulator : Simulator core) (reset : Bool) : Simulator core :=
  { simulator with reset }

/-- The clock edge at which a cycle begins. -/
def initiate (simulator : Simulator core) : Simulator core :=
  { simulator with current := simulator.next, cycles := simulator.cycles + 1 }

/-- The logic of a cycle: the pipeline registers that follow, and the wires. -/
def drive (simulator : Simulator core) : core.State × Signals :=
  if simulator.reset then (core.afterReset, { (default : Signals) with reset := true })
  else core.propagate simulator.current simulator.units default

/-- The rest of a cycle: the signals propagate, then the memories serve the requests. -/
def propagate (simulator : Simulator core) : Simulator core :=
  let (next, signals) := simulator.drive
  { simulator with next, signals, units := simulator.units.clock signals }

/-- Simulates one cycle. -/
def step (simulator : Simulator core) : Simulator core :=
  simulator.initiate.propagate

/-- Simulates `n` cycles. -/
def steps : Nat → Simulator core → Simulator core
  | 0, simulator => simulator
  | n + 1, simulator => steps n simulator.step

/-- The address of the instruction that the core works on. -/
def programCounter (simulator : Simulator core) : UInt8 :=
  core.programCounter simulator.next

/-- The registers that a program can tell apart. -/
def registers (simulator : Simulator core) : RegisterFile :=
  core.registers simulator.next

/-- The content of the data memory. -/
def dmem (simulator : Simulator core) : Memory :=
  simulator.units.dmem.image

/-- Every step is one cycle. -/
@[simp] theorem cycles_step (simulator : Simulator core) :
    simulator.step.cycles = simulator.cycles + 1 := rfl

/-- In reset a core forgets everything and asks for nothing. -/
theorem step_of_reset (simulator : Simulator core) (h : simulator.reset = true) :
    simulator.step =
      { simulator with
        current := simulator.next, next := core.afterReset
        signals := { (default : Signals) with reset := true }
        cycles := simulator.cycles + 1 } := by
  have idle := simulator.units.clock_of_idle { (default : Signals) with reset := true } rfl rfl
  simp [step, initiate, propagate, drive, h, idle]

end Simulator

end Hex8
