import Hex8.Core.Basic
import Hex8.Core.Execute

set_option relaxedAutoImplicit false
set_option autoImplicit false

/-!
# The sequential core

Nothing overlaps: every instruction takes one cycle to be fetched and one to execute, and a load
takes a third one, in which its byte arrives.

## Main definitions

* `Hex8.Sequential.Phase`, `Hex8.Sequential.State` — the pipeline registers.
* `Hex8.Sequential.propagate` — the logic of one cycle.
* `Hex8.Sequential.core` — the core.
-/

namespace Hex8.Sequential

/-- What the core does in a cycle. -/
inductive Phase
  /-- It requests the instruction at the program counter. -/
  | fetch
  /-- It executes the instruction that has arrived. -/
  | execute
  /-- It takes the byte of a load into a register. -/
  | memory (destination : Register)
  deriving DecidableEq

/-- The pipeline registers. -/
structure State where
  /-- The program counter. -/
  pc : UInt8
  /-- The register `A`. -/
  areg : UInt8
  /-- The register `B`. -/
  breg : UInt8
  /-- The pending prefix. -/
  pfix : UInt8
  /-- What the core does in the next cycle. -/
  phase : Phase
  deriving DecidableEq

/-- The pipeline registers right after a reset. -/
def State.afterReset : State :=
  { pc := 0, areg := 0, breg := 0, pfix := 0, phase := .fetch }

/-- The phase that follows the execution of an instruction. -/
def Phase.afterExecute (request : Option Request) : Phase :=
  match request.bind Request.destination? with
  | some destination => .memory destination
  | none => .fetch

/-- The logic of one cycle, but for the registers on the wires. -/
def advance (state : State) (units : Units) (signals : Signals) : State × Signals :=
  match state.phase with
  | .fetch => ({ state with phase := .execute }, signals.driveFetch state.pc)
  | .execute =>
    let out := Hex8.execute
      { pc := state.pc, word := units.imem.response, areg := state.areg, breg := state.breg
        pfix := state.pfix }
    ({ pc := out.nextPc, areg := out.areg, breg := out.breg, pfix := out.pfix
       phase := .afterExecute out.request },
     signals.driveRequest? out.request)
  | .memory destination =>
    let value := units.dmem.response
    let (areg, breg) := destination.writeBack value state.areg state.breg
    ({ state with areg, breg, phase := .fetch }, signals.deliver value)

/-- The logic of one cycle. -/
def propagate (state : State) (units : Units) (signals : Signals) : State × Signals :=
  let (next, driven) := advance state units { signals with word := units.imem.response }
  (next, driven.commit next.areg next.breg)

/-- The registers that a program can tell apart. -/
def State.registers (state : State) : RegisterFile :=
  { areg := state.areg, breg := state.breg, pfix := state.pfix }

/-- The sequential core. -/
def core : Core where
  name := "seq_std"
  State := State
  afterReset := .afterReset
  propagate := propagate
  programCounter := State.pc
  registers := State.registers

end Hex8.Sequential
