import Hex8.Asm.Error
import Hex8.Isa.Inst
import Hex8.Program

set_option relaxedAutoImplicit false
set_option autoImplicit false

/-!
# Annotated lines

An annotated line says what one line of text means for a program: where its word goes, and what
word that is. The operand of an instruction may still be the name of a label. Once all labels are
known, the lines are written into a program one after another.

## Main definitions

* `Hex8.Asm.Immediate`, `Hex8.Asm.SourceLine` — operands and annotated lines.
* `Hex8.Asm.Immediate.resolve` — the immediate of an operand.
* `Hex8.Program.write` — a program with one more line.

## Main results

* `Hex8.Program.symbols_write` — the names of addresses stay as they are.

## Design

The byte of the data memory is written first, so that it is there also if the operand of the same
line turns out to be wrong. A word that is given by its value wins over an instruction.
-/

namespace Hex8.Asm

/-- The operand of an instruction. -/
inductive Immediate
  /-- A number. -/
  | number (value : UInt8)
  /-- The address of a label. -/
  | label (name : String)
  deriving DecidableEq

/-- The immediate of the instruction at `address`. A label stands for its own address, or for the
distance to it if the operation counts from its own address. -/
def Immediate.resolve (symbols : Symbols) (op : Opcode) (address : UInt8) :
    Immediate → Except LineError UInt8
  | number value => if value ≤ 0xf then .ok value else .error (.operandTooLarge value op)
  | label name =>
    match symbols.find? name with
    | none => .error (.undefinedLabel name)
    | some target =>
      let value := if op.isPcRelative then target - address else target
      if value ≤ 0xf then .ok value else .error (.operandTooLarge value op)

/-- What one line of text means for a program. -/
structure SourceLine where
  /-- The address of the line in the instruction memory. -/
  address : Option UInt8
  /-- The instruction. -/
  inst : Option (Opcode × Immediate)
  /-- A word that is given by its value. -/
  word : Option UInt8
  /-- The label. -/
  label : Option String
  /-- A byte of the data memory: its address and its value. -/
  data : Option (UInt8 × UInt8)
  /-- The line's text. -/
  text : String
  /-- The number of the line. -/
  number : Nat
  deriving DecidableEq

/-- Whether the line has a word for the instruction memory. -/
def SourceLine.hasWord (line : SourceLine) : Bool :=
  line.inst.isSome || line.word.isSome

/-- What is wrong with a line, together with its place. -/
def SourceLine.error (line : SourceLine) (cause : LineError) : AssembleError :=
  .line line.number line.text cause

/-- The word that a line has for the address, if any. -/
def SourceLine.encode? (line : SourceLine) (symbols : Symbols) (address : UInt8) :
    Except LineError (Option UInt8) :=
  match line.inst with
  | none => .ok line.word
  | some (op, immediate) =>
    match immediate.resolve symbols op address with
    | .error cause => .error cause
    | .ok imm => .ok (line.word.or (some (Inst.ofNibble op imm).encode))

end Hex8.Asm

namespace Hex8.Program

open Hex8.Asm

/-- The program with the byte of a line in its data memory. -/
def writeData (program : Program) : Option (UInt8 × UInt8) → Program
  | none => program
  | some (address, value) => { program with dmem := program.dmem.write address value }

/-- The program with one more line, and what is wrong with that line, if anything. -/
def write (program : Program) (line : SourceLine) : Program × Except LineError Unit :=
  let program := program.writeData line.data
  match line.address with
  | none => (program, .ok ())
  | some address =>
    match line.encode? program.symbols address with
    | .error cause => (program, .error cause)
    | .ok none => (program, .ok ())
    | .ok (some word) => ({ program with imem := program.imem.write address word }, .ok ())

/-- A byte of the data memory has no influence on the names. -/
@[simp] theorem symbols_writeData (program : Program) (data : Option (UInt8 × UInt8)) :
    (program.writeData data).symbols = program.symbols := by
  cases data <;> rfl

/-- The names of addresses stay as they are. -/
@[simp] theorem symbols_write (program : Program) (line : SourceLine) :
    (program.write line).1.symbols = program.symbols := by
  unfold write
  dsimp only
  split
  · simp
  · split <;> simp

end Hex8.Program
