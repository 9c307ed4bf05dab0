import Hex8.Proofs.Execution
import Hex8.Proofs.MemoryImage

set_option relaxedAutoImplicit false
set_option autoImplicit false

/-!
# What a label means when it is executed

The assembler puts a label into the four bits of an instruction word, as an address or as a distance
from the instruction. Whoever executes the word puts the address together again. Both sides have to
agree on which operations count from their own address, and on what is behind the end of the memory.

## Main definitions

* `Hex8.Opcode.origin` — where the operand of an operation counts from.
* `Hex8.Machine.Uses`, `Hex8.Execute.Uses` — whether an instruction uses a certain address.

## Main results

* `Hex8.Machine.uses_origin_add`, `Hex8.Execute.uses_origin_add` — which address an instruction
  uses.
* `Hex8.Asm.Immediate.origin_add_of_resolve` — what the four bits of a label stand for.
* `Hex8.Asm.uses_label` — whoever executes the word of a line uses the address of its label.

## Design

Whether an instruction uses an address is said by what it changes or asks for, one operation after
the other, so that it does not depend on how its operand is computed.
-/

namespace Hex8

/-- Where the operand of an operation counts from: from its own address, or from zero. -/
def Opcode.origin (op : Opcode) (address : UInt8) : UInt8 :=
  if op.isPcRelative then address else 0

/-! ## The address that an instruction uses -/

/-- Whether the next instruction, which has the given operation, uses an address. It continues
there, takes the address as a number, reads or writes the byte there, or counts from there on.
Unless the operand counts from the instruction, the address is the operand. -/
def Machine.Uses (machine : Machine) (op : Opcode) (target : UInt8) : Prop :=
  (op.isPcRelative = false → machine.operand = target) ∧
    match op with
    | .br => machine.step.2.pc = target
    | .brz => machine.areg = 0 → machine.step.2.pc = target
    | .brn => 128 ≤ machine.areg → machine.step.2.pc = target
    | .ldap | .ldac => machine.step.2.areg = target
    | .ldbc => machine.step.2.breg = target
    | .ldam => machine.step.2.areg = machine.dmem.read target
    | .ldbm => machine.step.2.breg = machine.dmem.read target
    | .stam => machine.step.2.dmem = machine.dmem.write target machine.areg
    | .ldai => machine.step.2.areg = machine.dmem.read (machine.areg + target)
    | .ldbi => machine.step.2.breg = machine.dmem.read (machine.breg + target)
    | .stai => machine.step.2.dmem = machine.dmem.write (machine.breg + target) machine.areg
    | .brb | .add | .sub | .pfix => True

/-- Whether the execute unit uses an address, as far as can be seen from its answer. -/
def Execute.Uses (input : Execute.Input) (op : Opcode) (target : UInt8) : Prop :=
  (op.isPcRelative = false → operand input.pfix (Inst.decode input.word).imm = target) ∧
    match op with
    | .br => (execute input).nextPc = target
    | .brz => input.areg = 0 → (execute input).nextPc = target
    | .brn => 128 ≤ input.areg → (execute input).nextPc = target
    | .ldap | .ldac => (execute input).areg = target
    | .ldbc => (execute input).breg = target
    | .ldam => (execute input).request = some (.load .a target)
    | .ldbm => (execute input).request = some (.load .b target)
    | .stam => (execute input).request = some (.store target input.areg)
    | .ldai => (execute input).request = some (.load .a (input.areg + target))
    | .ldbi => (execute input).request = some (.load .b (input.breg + target))
    | .stai => (execute input).request = some (.store (input.breg + target) input.areg)
    | .brb | .add | .sub | .pfix => True

/-- **The reference machine** uses its operand, counted from where it counts from. -/
theorem Machine.uses_origin_add (machine : Machine) :
    machine.Uses machine.inst.op (machine.inst.op.origin machine.pc + machine.operand) := by
  cases op : machine.inst.op <;>
    simp [Uses, Opcode.origin, Opcode.isPcRelative, step, effect, op]
  case brz =>
    intro zero
    simp [zero]
  case brn =>
    intro negative
    rw [le_iff_sign_bit] at negative
    simp [negative]

/-- **The execute unit** does the same. -/
theorem Execute.uses_origin_add (input : Execute.Input) :
    Uses input (Inst.decode input.word).op
      ((Inst.decode input.word).op.origin input.pc +
        operand input.pfix (Inst.decode input.word).imm) := by
  cases op : (Inst.decode input.word).op <;>
    simp [Uses, Opcode.origin, Opcode.isPcRelative, execute, op]
  case brz =>
    intro zero
    simp [zero]
  case brn =>
    intro negative
    rw [Machine.le_iff_sign_bit, Machine.sign_bit_iff] at negative
    simp [negative]

namespace Asm

/-! ## The word of a label -/

/-- **What the four bits of a label stand for.** Counted from where the operation counts from, they
are the address of the label. -/
theorem Immediate.origin_add_of_resolve {symbols : Symbols} {op : Opcode} {address imm : UInt8}
    {name : String} (resolved : resolve symbols op address (.label name) = .ok imm) :
    imm ≤ 0xf ∧ symbols.find? name = some (op.origin address + imm) := by
  obtain ⟨target, found, value, small⟩ := resolve_label_eq_ok_iff.mp resolved
  rw [← toNat_labelOperand, Int.ofNat_inj, UInt8.toNat_inj] at value
  refine ⟨small, ?_⟩
  rw [found, value, Opcode.origin]
  split
  · rw [UInt8.add_comm, UInt8.sub_add_cancel]
  · rw [UInt8.zero_add]

/-- The annotated lines are lines at their places. -/
lemma exists_of_mem_annotations {cursor : Nat} {numbered : List NumberedLine} {line : SourceLine}
    (inside : line ∈ annotations cursor numbered) :
    ∃ place ∈ placements cursor (numbered.map (·.line.content)),
      ∃ text number, line = place.annotate text number := by
  induction numbered generalizing cursor with
  | nil => cases inside
  | cons first others ih =>
    rw [List.map_cons, placements]
    rcases List.mem_cons.mp inside with rfl | inside
    · exact ⟨_, List.mem_cons_self, _, _, rfl⟩
    · obtain ⟨place, placed, same⟩ := ih inside
      exact ⟨place, List.mem_cons_of_mem _ placed, same⟩

/-- A line with an instruction has an address, and no other word. -/
lemma Placement.address_of_inst {place : Placement} {text : String} {number : Nat}
    {inst : Opcode × Immediate} (h : (place.annotate text number).inst = some inst) :
    (place.annotate text number).address = some (UInt8.ofNat place.cursor) ∧
      (place.annotate text number).word = none := by
  change place.line.inst? = some inst at h
  have command : ∃ mnemonic operand, place.line.command = some (.inst mnemonic operand) := by
    rw [Content.inst?] at h
    split at h
    · exact ⟨_, _, ‹_›⟩
    · cases h
  refine ⟨address_annotate (Content.hasWord_iff.mpr (.inr command)) text number, ?_⟩
  obtain ⟨mnemonic, operand, command⟩ := command
  change place.line.word? = none
  rw [Content.word?, command]

/-- A line with an instruction has a word if its operand can be resolved. -/
lemma SourceLine.encode?_of_inst {line : SourceLine} {op : Opcode} {immediate : Immediate}
    (inst : line.inst = some (op, immediate)) (noWord : line.word = none) (symbols : Symbols)
    (address : UInt8) :
    line.encode? symbols address =
      (immediate.resolve symbols op address).bind fun imm =>
        .ok (some (Inst.ofNibble op imm).encode) := by
  rw [encode?, inst, noWord]
  dsimp only
  rcases immediate.resolve symbols op address with cause | imm <;> rfl

/-- **The word of a line with a label.** It is decoded to the operation of the line and to four bits
that stand for the address of the label. -/
lemma exists_word_of_label {text : String} {assembly : Assembly}
    (assembled : assemble text = .ok assembly) {line : SourceLine} (inside : line ∈ assembly.lines)
    {op : Opcode} {name : String} (inst : line.inst = some (op, .label name)) :
    ∃ address word imm, line.address = some address ∧
      line.encode? assembly.program.symbols address = .ok (some word) ∧
      assembly.program.symbols.find? name = some (op.origin address + imm) ∧
      imm ≤ 0xf ∧ Inst.decode word = ⟨op, imm⟩ := by
  obtain ⟨numbered, -, linkable, rfl⟩ := assemble_eq_ok_iff.mp assembled
  obtain ⟨place, placed, text', number, rfl⟩ := exists_of_mem_annotations inside
  obtain ⟨here, noWord⟩ := Placement.address_of_inst inst
  obtain ⟨cell, found⟩ := linkable.cells place placed
  rw [← Placement.cell?_annotate _ place text' number, SourceLine.cell?, here] at found
  dsimp only at found
  have encoded := SourceLine.encode?_of_inst inst noWord
    (symbolsOf (numbered.map (·.line.content))) (UInt8.ofNat place.cursor)
  rcases resolved : (Immediate.label name).resolve (symbolsOf (numbered.map (·.line.content))) op
    (UInt8.ofNat place.cursor) with cause | imm
  · rw [encoded, resolved] at found
    cases found
  · obtain ⟨small, label⟩ := Immediate.origin_add_of_resolve resolved
    rw [resolved, Except.bind, ofNibble_of_le op small] at encoded
    exact ⟨_, _, imm, here, encoded, label, small, Inst.decode_encode op imm small⟩

/-- **Assembler and execution agree on labels.** A line whose instruction has a label as its operand
has an address and a word. As long as that word stands at that address, whoever executes it there
uses the address of the label, plus sixteen times the prefix that is pending. The registers and the
data memory do not matter.

**Proof sketch.** The four bits in the word stand for the label, counted from where the operation
counts from (`exists_word_of_label`), and so does the operand with a prefix (`operand_eq_add`). That
is the address that the instruction uses (`Machine.uses_origin_add`, `Execute.uses_origin_add`). -/
theorem uses_label {text : String} {assembly : Assembly} (assembled : assemble text = .ok assembly)
    {line : SourceLine} (inside : line ∈ assembly.lines) {op : Opcode} {name : String}
    (inst : line.inst = some (op, .label name)) :
    ∃ address word label, line.address = some address ∧
      line.encode? assembly.program.symbols address = .ok (some word) ∧
      assembly.program.symbols.find? name = some label ∧
      (assembly.program.imem.read address = word →
        (∀ machine : Machine, machine.imem = assembly.program.imem → machine.pc = address →
          machine.inst.op = op ∧ machine.Uses op (label + 16 * machine.pfix) ∧
            (machine.pfix = 0 → machine.Uses op label)) ∧
        ∀ input : Execute.Input, input.word = assembly.program.imem.read address →
          input.pc = address →
            Execute.Uses input op (label + 16 * input.pfix) ∧
              (input.pfix = 0 → Execute.Uses input op label)) := by
  obtain ⟨address, word, imm, here, encoded, label, small, decoded⟩ :=
    exists_word_of_label assembled inside inst
  refine ⟨address, word, _, here, encoded, label, ?_⟩
  intro kept
  -- the label with a prefix is the operand, counted from where the operation counts from
  have reach (pfix : UInt8) :
      op.origin address + imm + 16 * pfix = op.origin address + operand pfix imm := by
    rw [operand_eq_add pfix small, UInt8.add_assoc]
  have alone {pfix : UInt8} (none : pfix = 0) :
      op.origin address + imm + 16 * pfix = op.origin address + imm := by
    rw [none, UInt8.mul_zero, UInt8.add_zero]
  constructor
  · intro machine imem pc
    have next : machine.inst = ⟨op, imm⟩ := by
      rw [Machine.inst, imem, pc, kept, decoded]
    have uses := machine.uses_origin_add
    rw [Machine.operand, next, pc, ← reach] at uses
    exact ⟨by rw [next], uses, fun none => alone none ▸ uses⟩
  · intro input same pc
    have uses := Execute.uses_origin_add input
    rw [same, kept, decoded, pc, ← reach] at uses
    exact ⟨uses, fun none => alone none ▸ uses⟩

/-- A branch at address 250 to the label at address 0, behind a prefix: the distance of the label
goes over the end of the memory, and so does the branch. -/
theorem uses_label_over_end :
    ∃ assembly line, assemble "start: ldac 3\n.pos 250\nbrz start" = .ok assembly ∧
      line ∈ assembly.lines ∧ line.inst = some (.brz, .label "start") ∧
      assembly.program.imem.read 250 = 0xa6 ∧
      ∀ machine : Machine, machine.imem = assembly.program.imem → machine.pc = 250 →
        machine.pfix = 1 → machine.areg = 0 → machine.step.2.pc = 16 := by
  have result : (assemble "start: ldac 3\n.pos 250\nbrz start").toOption.bind (fun assembly =>
      assembly.lines[2]?.map fun line =>
        (line.inst, line.address, (line.encode? assembly.program.symbols 250).toOption,
          assembly.program.imem.read 250, assembly.program.symbols.find? "start")) =
      some (some (.brz, .label "start"), some 250, some (some 0xa6), 0xa6, some 0) := by
    decide +kernel
  simp only [Option.bind_eq_some_iff, Option.map_eq_some_iff, Prod.mk.injEq,
    toOption_eq_some_iff] at result
  obtain ⟨assembly, assembled, line, found, inst, here, encoded, word, start⟩ := result
  have inside : line ∈ assembly.lines := List.mem_of_getElem? found
  refine ⟨assembly, line, assembled, inside, inst, word, ?_⟩
  obtain ⟨address, word', label, here', encoded', label', uses⟩ := uses_label assembled inside inst
  cases here.symm.trans here'
  cases start.symm.trans label'
  cases encoded.symm.trans encoded'
  intro machine imem pc pfix areg
  have reached := ((uses word).1 machine imem pc).2.1.2 areg
  rwa [pfix] at reached

end Asm

end Hex8
