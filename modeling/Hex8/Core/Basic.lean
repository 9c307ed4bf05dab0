import Hex8.Bus.Units

set_option relaxedAutoImplicit false
set_option autoImplicit false

/-!
# Cores

A core is a clocked circuit between the two memories. In each cycle its combinational logic reads
the pipeline registers and the answers of the memories, drives the wires of the bus, and computes
the pipeline registers of the next cycle.

## Main definitions

* `Hex8.Core` — a core, by its pipeline registers and its combinational logic.
* `Hex8.RegisterFile` — the registers of a core that a program can tell apart.
* `Hex8.Signals.commit`, `Hex8.Signals.deliver` — how a core shows its registers on the wires.
-/

namespace Hex8

/-- The registers of a core that a program can tell apart. -/
structure RegisterFile where
  /-- The register `A`. -/
  areg : UInt8
  /-- The register `B`. -/
  breg : UInt8
  /-- The pending prefix. -/
  pfix : UInt8
  deriving DecidableEq

/-- The registers with the names under which they are shown. -/
def RegisterFile.named (file : RegisterFile) : List (String × UInt8) :=
  [("a", file.areg), ("b", file.breg), ("pfix", file.pfix)]

/-- A core, by its pipeline registers and its combinational logic. -/
structure Core where
  /-- The name of the core. -/
  name : String
  /-- The pipeline registers. -/
  State : Type
  /-- The pipeline registers right after a reset. -/
  afterReset : State
  /-- The logic of one cycle: the pipeline registers of the next cycle, and the wires. Wires that
  the core does not drive keep their values. -/
  propagate : State → Units → Signals → State × Signals
  /-- The address of the instruction that the core works on. -/
  programCounter : State → UInt8
  /-- The registers that a program can tell apart. -/
  registers : State → RegisterFile

namespace Signals

/-- The wires with the registers at the end of the cycle. -/
def commit (signals : Signals) (areg breg : UInt8) : Signals :=
  { signals with result := { signals.result with areg, breg } }

/-- The wires with the byte of a completed load. -/
def deliver (signals : Signals) (value : UInt8) : Signals :=
  { signals with result := { signals.result with value } }

end Signals

end Hex8
