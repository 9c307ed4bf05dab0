import Hex8.Isa.Inst
import Hex8.Text.Style

set_option relaxedAutoImplicit false
set_option autoImplicit false

/-!
# Records of retired instructions

Everything that executes a program reports each finished instruction as one record: where it was
fetched, what it was, both registers after it, and its access to the data memory. Two executions
are compared record by record.

## Main definitions

* `Hex8.Record` — the record of one instruction.
* `Hex8.Record.text` — a record as a coloured line.
* `Hex8.Record.fieldText` — a record with the names of its fields.
-/

namespace Hex8

/-- The record of one retired instruction. -/
structure Record where
  /-- The address that the instruction was fetched from. -/
  pc : UInt8
  /-- The instruction. -/
  inst : Inst
  /-- The register `A` after the instruction. -/
  areg : UInt8
  /-- The register `B` after the instruction. -/
  breg : UInt8
  /-- How the data memory was used. -/
  memory : Access
  /-- The address of the access, zero without one. -/
  address : UInt8
  /-- The byte that was read or written, zero without an access. -/
  data : UInt8
  deriving DecidableEq, Inhabited

/-- The name of a kind of access. -/
def Access.name : Access → String
  | .nothing => "Nothing"
  | .load => "Load"
  | .store => "Store"

/-- A kind of access in five coloured columns. -/
def Access.text : Access → String
  | .nothing => Style.gray.paint "-----"
  | .load => Style.green.paint "load "
  | .store => Style.yellow.paint "store"

/-- The value of a register. Zeros are grayed out so that the other values stand out. -/
def registerText (value : UInt8) : String :=
  if value = 0 then Style.gray.paint (Hex.prefixedByte value) else Hex.prefixedByte value

/-- An instruction with the names of its fields. -/
def Inst.fieldText (inst : Inst) : String :=
  "Inst \x7b op: " ++ inst.op.name ++ ", imm: " ++ toString inst.imm.toNat ++ " \x7d"

namespace Record

/-- A record as a coloured line. Address and data are shown only if there was an access. -/
def text (record : Record) : String :=
  "pc " ++ Hex.prefixedByte record.pc ++
    "  " ++ Style.boldGreen.paint record.inst.text ++
    "  a " ++ registerText record.areg ++
    " b " ++ registerText record.breg ++
    "  " ++ record.memory.text ++
    if record.memory = .nothing then ""
    else " [" ++ Hex.prefixedByte record.address ++ "] " ++ Hex.prefixedByte record.data

/-- A record with the names of its fields, in decimal and without colours. -/
def fieldText (record : Record) : String :=
  "TraceRecord \x7b pc: " ++ toString record.pc.toNat ++
    ", inst: " ++ record.inst.fieldText ++
    ", areg: " ++ toString record.areg.toNat ++
    ", breg: " ++ toString record.breg.toNat ++
    ", memory: " ++ record.memory.name ++
    ", address: " ++ toString record.address.toNat ++
    ", data: " ++ toString record.data.toNat ++ " \x7d"

end Record

end Hex8
