import Hex8.Core.Basic
import Hex8.Core.Execute

set_option relaxedAutoImplicit false
set_option autoImplicit false

/-!
# The pipelined core

While an instruction executes, the next one is fetched. Its address is already known at that time,
also behind a branch, so that no instruction is ever fetched in vain. Only a load keeps the fetch
waiting for one cycle: its byte and the next instruction are then handled together.

```text
cycle      0    1    2    3    4
ldac       F    E
ldam            F    E    M
add                       F    E
```

## Main definitions

* `Hex8.Pipelined.State` — the pipeline registers.
* `Hex8.Pipelined.propagate` — the logic of one cycle.
* `Hex8.Pipelined.core` — the core.
-/

namespace Hex8.Pipelined

/-- The pipeline registers. -/
structure State where
  /-- The address of the latest fetch, or of the next one while a load completes. -/
  pc : UInt8
  /-- The register `A`. -/
  areg : UInt8
  /-- The register `B`. -/
  breg : UInt8
  /-- The pending prefix. -/
  pfix : UInt8
  /-- An instruction word arrives in this cycle. -/
  executing : Bool
  /-- The address of that instruction. -/
  executePc : UInt8
  /-- The destination of a load whose byte arrives in this cycle. -/
  loading : Option Register
  deriving DecidableEq

/-- The pipeline registers right after a reset. -/
def State.afterReset : State :=
  { pc := 0, areg := 0, breg := 0, pfix := 0, executing := false, executePc := 0, loading := none }

/-- Requests the instruction at an address, which executes in the next cycle. -/
def fetch (address : UInt8) (next : State) (signals : Signals) : State × Signals :=
  ({ next with pc := address, executing := true, executePc := address },
   signals.driveFetch address)

/-- Takes the byte of a load into its destination. -/
def complete (state : State) (units : Units) (signals : Signals) : State × Signals :=
  match state.loading with
  | some destination =>
    let value := units.dmem.response
    let (areg, breg) := destination.writeBack value state.areg state.breg
    ({ state with areg, breg, loading := none }, signals.deliver value)
  | none => (state, signals)

/-- Executes the instruction that has arrived, if there is one, and requests the next one, unless
a load has to complete first. -/
def advance (state : State) (units : Units) (signals : Signals) : State × Signals :=
  if state.executing then
    let out := Hex8.execute
      { pc := state.executePc, word := units.imem.response, areg := state.areg
        breg := state.breg, pfix := state.pfix }
    let loading := out.request.bind Request.destination?
    let next : State :=
      { state with
        areg := out.areg, breg := out.breg, pfix := out.pfix, executing := false, loading }
    let driven := signals.driveRequest? out.request
    if loading.isSome then ({ next with pc := out.nextPc }, driven)
    else fetch out.nextPc next driven
  else fetch state.pc state signals

/-- The logic of one cycle. -/
def propagate (state : State) (units : Units) (signals : Signals) : State × Signals :=
  let (completed, delivered) :=
    complete state units { signals with word := units.imem.response }
  let (next, driven) := advance completed units delivered
  (next, driven.commit next.areg next.breg)

/-- The address of the instruction that the core works on. -/
def State.programCounter (state : State) : UInt8 :=
  if state.executing then state.executePc else state.pc

/-- The registers that a program can tell apart. -/
def State.registers (state : State) : RegisterFile :=
  { areg := state.areg, breg := state.breg, pfix := state.pfix }

/-- The pipelined core. -/
def core : Core where
  name := "pipe_std"
  State := State
  afterReset := .afterReset
  propagate := propagate
  programCounter := State.programCounter
  registers := State.registers

end Hex8.Pipelined
