import Hex8.Byte
import Hex8.Isa.Opcode
import Hex8.Text.Column
import Hex8.Text.Hex

set_option relaxedAutoImplicit false
set_option autoImplicit false

/-!
# Instructions

An instruction word holds the code of the operation in its upper half and a four-bit immediate in
its lower half.

## Main definitions

* `Hex8.Inst` — an operation together with its immediate.
* `Hex8.Inst.decode`, `Hex8.Inst.encode` — from a word to its instruction and back.
* `Hex8.Inst.text` — an instruction as one writes it.
* `Hex8.operand` — the immediate extended by a prefix.

## Main results

* `Hex8.operand_eq_add` — the operand as a number.
* `Hex8.Inst.encode_decode` — every word is encoded back.
* `Hex8.Inst.decode_encode` — every instruction with a four-bit immediate is decoded back.
-/

namespace Hex8

/-- An instruction. Only the lower four bits of the immediate have a place in a word. -/
structure Inst where
  /-- What the instruction does. -/
  op : Opcode
  /-- The immediate, without a prefix. -/
  imm : UInt8
  deriving DecidableEq

/-- The operand of an instruction: its immediate, with the pending prefix as the upper half. -/
def operand (pfix imm : UInt8) : UInt8 :=
  pfix <<< 4 ||| imm

/-- The operand as a number: the immediate plus sixteen times the prefix. -/
theorem operand_eq_add (pfix : UInt8) {imm : UInt8} (small : imm ≤ 0xf) :
    operand pfix imm = imm + 16 * pfix := by
  have bound : imm.toNat < 2 ^ 4 := Nat.lt_succ_of_le (UInt8.le_iff_toNat_le.mp small)
  have shifted : pfix.toNat <<< 4 % 2 ^ 8 = (pfix.toNat % 16) <<< 4 := by
    simp only [Nat.shiftLeft_eq]
    omega
  rw [← UInt8.toNat_inj, operand, UInt8.toNat_or, UInt8.toNat_shiftLeft]
  simp only [UInt8.toNat_add, UInt8.toNat_mul]
  change (pfix.toNat <<< 4 % 2 ^ 8) ||| imm.toNat = _
  -- the two halves have no bit in common, so that joining them is adding them
  rw [shifted, ← Nat.shiftLeft_add_eq_or_of_lt bound, Nat.shiftLeft_eq]
  change _ = (imm.toNat + 16 * pfix.toNat % 256) % 256
  omega

namespace Inst

/-- The instruction with the lower four bits of `imm` as its immediate. -/
def ofNibble (op : Opcode) (imm : UInt8) : Inst :=
  ⟨op, imm &&& 0xf⟩

/-- The instruction in a word. -/
def decode (word : UInt8) : Inst :=
  ⟨Opcode.ofBits (word >>> 4), word &&& 0xf⟩

/-- The word of an instruction. -/
def encode (inst : Inst) : UInt8 :=
  inst.op.value <<< 4 ||| inst.imm

/-- The instruction in a word of zeros. -/
instance : Inhabited Inst :=
  ⟨decode 0⟩

/-- The mnemonic in four columns, a blank and the immediate in hexadecimal. -/
def text (inst : Inst) : String :=
  Column.left ' ' 4 inst.op.name ++ " " ++ Hex.prefixedNat inst.imm.toNat

/-- Every word is encoded back from its instruction. -/
@[simp] theorem encode_decode (word : UInt8) : (decode word).encode = word := by
  refine forall_byte (P := fun word => (decode word).encode = word) ?_ word
  decide +kernel

/-- Every instruction with a four-bit immediate is decoded back from its word. -/
theorem decode_encode (op : Opcode) (imm : UInt8) (h : imm ≤ 0xf) :
    decode (encode ⟨op, imm⟩) = ⟨op, imm⟩ := by
  refine forall_byte (P := fun imm => imm ≤ 0xf → decode (encode ⟨op, imm⟩) = ⟨op, imm⟩)
    ?_ imm h
  cases op <;> decide +kernel

/-- The immediate of a decoded instruction has four bits. -/
theorem imm_decode_le (word : UInt8) : (decode word).imm ≤ 0xf := by
  refine forall_byte (P := fun word => (decode word).imm ≤ 0xf) ?_ word
  decide +kernel

end Inst

end Hex8
