import Hex8.Bus.Signals
import Hex8.Isa.Inst

set_option relaxedAutoImplicit false
set_option autoImplicit false

/-!
# The execute unit

The part that all cores share: combinational logic that takes an instruction word and the
registers, and answers with the new registers, the next address and a request to the data memory.

## Main definitions

* `Hex8.Execute.Input`, `Hex8.Execute.Output` — what goes in and what comes out.
* `Hex8.execute` — the unit.

## Design

A load leaves both registers as they were. Its byte arrives a cycle later, and the core then
writes it into the destination that the request names.
-/

namespace Hex8

namespace Execute

/-- What the execute unit is given. -/
structure Input where
  /-- The address of the instruction. -/
  pc : UInt8
  /-- The instruction word. -/
  word : UInt8
  /-- The register `A`. -/
  areg : UInt8
  /-- The register `B`. -/
  breg : UInt8
  /-- The pending prefix. -/
  pfix : UInt8

/-- What the execute unit answers. -/
structure Output where
  /-- The register `A`. -/
  areg : UInt8
  /-- The register `B`. -/
  breg : UInt8
  /-- The prefix for the next instruction. -/
  pfix : UInt8
  /-- The address of the next instruction. -/
  nextPc : UInt8
  /-- The access to the data memory that the instruction needs. -/
  request : Option Request

end Execute

/-- Decodes and executes one instruction word. -/
def execute (input : Execute.Input) : Execute.Output :=
  let inst := Inst.decode input.word
  let operand := operand input.pfix inst.imm
  let target := input.pc + operand
  let out : Execute.Output :=
    { areg := input.areg, breg := input.breg, pfix := 0, nextPc := input.pc + 1, request := none }
  match inst.op with
  | .ldam => { out with request := some (.load .a operand) }
  | .ldbm => { out with request := some (.load .b operand) }
  | .stam => { out with request := some (.store operand input.areg) }
  | .ldac => { out with areg := operand }
  | .ldbc => { out with breg := operand }
  | .ldap => { out with areg := target }
  | .ldai => { out with request := some (.load .a (input.areg + operand)) }
  | .ldbi => { out with request := some (.load .b (input.breg + operand)) }
  | .stai => { out with request := some (.store (input.breg + operand) input.areg) }
  | .br => { out with nextPc := target }
  | .brz => if input.areg = 0 then { out with nextPc := target } else out
  | .brn => if input.areg >>> 7 = 1 then { out with nextPc := target } else out
  | .brb => { out with nextPc := input.breg }
  | .add => { out with areg := input.areg + input.breg }
  | .sub => { out with areg := input.areg - input.breg }
  | .pfix => { out with pfix := inst.imm }

end Hex8
