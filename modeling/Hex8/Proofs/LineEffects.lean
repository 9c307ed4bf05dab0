import Hex8.Proofs.Faults
import Hex8.Proofs.MemoryImage

set_option relaxedAutoImplicit false
set_option autoImplicit false

/-!
# What a line leaves behind

Annotated lines need not come from a text. Any parts of a line may be missing, numbers may be too
large for an instruction, and labels may be unknown. What a line leaves behind in a program is
described here for all lines, also for those with which something is wrong, and then for lists of
lines that are gone through to their end.

## Main definitions

* `Hex8.Asm.Immediate.StandsFor`, `Hex8.Asm.Immediate.FailsWith` — the number that an operand stands
  for, and what is wrong with it.
* `Hex8.Asm.SourceLine.FailsWith`, `Hex8.Asm.SourceLine.Gives` — what is wrong with a line, and the
  word that it has otherwise.
* `Hex8.Asm.Effect` — what a line leaves behind.
* `Hex8.Program.writeEach` — a program with many lines, whether they fail or not.
* `Hex8.Latest` — what the last of several items says.

## Main results

* `Hex8.Asm.SourceLine.cell?_eq_error_iff`, `Hex8.Asm.SourceLine.cell_eq_some_iff` — the two outcomes
  of a line.
* `Hex8.Asm.effect_write` — what one line leaves behind.
* `Hex8.Program.writeEach_eq` — many lines are writes one after another.
* `Hex8.Asm.effects_of_lines` — what many lines leave behind.

## Design

A line that fails has already written its byte of the data memory, and no other line can take that
back. So the two memories are told apart: the instruction memory depends on which lines fail, and
the data memory does not.
-/

namespace Hex8

/-! ## The last of several items -/

/-- What the last of some items tells that tells anything, and `initial` if none does. -/
def Latest {α : Type} (tells : α → UInt8 → Prop) (items : List α) (initial value : UInt8) : Prop :=
  (∃ front item back, items = front ++ item :: back ∧ tells item value ∧
    ∀ other ∈ back, ∀ v, ¬tells other v) ∨
  ((∀ item ∈ items, ∀ v, ¬tells item v) ∧ value = initial)

/-- **Writes that come from a list of items** leave at each address what the last item tells about
it. -/
theorem Memory.latest_writeAll {α : Type} (memory : Memory) (f : α → Option (UInt8 × UInt8))
    (items : List α) (address : UInt8) :
    Latest (fun item value => f item = some (address, value)) items (memory.read address)
      ((memory.writeAll (items.filterMap f)).read address) := by
  have silent {item : α} (h : ¬(f item).any (·.1 = address)) (v : UInt8) :
      f item ≠ some (address, v) := by
    intro writes
    simp [writes] at h
  rw [read_writeAll, latest?_filterMap]
  rcases last : (items.filter fun item => (f item).any (·.1 = address)).getLast? with _ | item
  · rw [last]
    rw [List.getLast?_eq_none_iff, List.filter_eq_nil_iff] at last
    exact .inr ⟨fun item inside => silent (last item inside), rfl⟩
  · rw [last]
    obtain ⟨others, filtered⟩ := List.getLast?_eq_some_iff.mp last
    obtain ⟨front, rest, rfl, -, filtered⟩ := List.filter_eq_append_iff.mp filtered
    obtain ⟨between, back, rfl, -, here, filtered⟩ := List.filter_eq_cons_iff.mp filtered
    rw [List.filter_eq_nil_iff] at filtered
    rw [Option.any_eq_true] at here
    obtain ⟨⟨target, value⟩, writes, same⟩ := here
    obtain rfl : target = address := of_decide_eq_true same
    refine .inl ⟨front ++ between, item, back, by rw [List.append_assoc], ?_,
      fun other inside => silent (filtered other inside)⟩
    rw [Option.bind_some, writes]
    exact writes

namespace Asm

variable {symbols : Symbols}

/-! ## Operands -/

namespace Immediate

variable {op : Opcode} {address : UInt8} {immediate : Immediate}

/-- The number that an operand stands for: a number for itself, and a label for its address or for
the distance to it. -/
def StandsFor (symbols : Symbols) (op : Opcode) (address : UInt8) : Immediate → UInt8 → Prop
  | number value, result => result = value
  | label name, result =>
    ∃ target, symbols.find? name = some target ∧
      (result.toNat : Int) = op.labelOperand address.toNat target.toNat

/-- What is wrong with an operand: a label is not defined, or the number has more than four bits. -/
inductive FailsWith (symbols : Symbols) (op : Opcode) (address : UInt8) :
    Immediate → LineError → Prop
  /-- The label is not defined. -/
  | undefined {name : String} (unknown : symbols.find? name = none) :
    FailsWith symbols op address (label name) (.undefinedLabel name)
  /-- The number is too large. -/
  | tooLarge {immediate : Immediate} {value : UInt8}
    (standsFor : immediate.StandsFor symbols op address value) (large : 15 < value) :
    FailsWith symbols op address immediate (.operandTooLarge value op)

/-- An operand is resolved to the number that it stands for, if that fits in four bits. -/
lemma resolve_eq_ok_iff {value : UInt8} :
    immediate.resolve symbols op address = .ok value ↔
      immediate.StandsFor symbols op address value ∧ value ≤ 0xf := by
  cases immediate with
  | number given =>
    rw [resolve, StandsFor]
    by_cases small : given ≤ 0xf
    · rw [if_pos small, Except.ok.injEq]
      exact ⟨fun same => ⟨same.symm, same ▸ small⟩, fun same => same.1.symm⟩
    · rw [if_neg small]
      constructor
      · intro impossible
        cases impossible
      · rintro ⟨rfl, fits⟩
        exact absurd fits small
  | label name =>
    rw [resolve_label_eq_ok_iff, StandsFor]
    constructor
    · rintro ⟨target, found, same, small⟩
      exact ⟨⟨target, found, same⟩, small⟩
    · rintro ⟨⟨target, found, same⟩, small⟩
      exact ⟨target, found, same, small⟩

/-- An operand stands for one number at most. -/
lemma StandsFor.unique {m n : UInt8} (first : immediate.StandsFor symbols op address m)
    (second : immediate.StandsFor symbols op address n) : m = n := by
  cases immediate with
  | number given => exact first.trans second.symm
  | label name =>
    obtain ⟨target, found, same⟩ := first
    obtain ⟨target', found', same'⟩ := second
    obtain rfl := Option.some.inj (found.symm.trans found')
    rw [← UInt8.toNat_inj, ← Int.ofNat_inj, same, same']

/-- Otherwise it fails. -/
lemma resolve_eq_error_iff {cause : LineError} :
    immediate.resolve symbols op address = .error cause ↔
      immediate.FailsWith symbols op address cause := by
  cases immediate with
  | number given =>
    rw [resolve]
    by_cases small : given ≤ 0xf
    · rw [if_pos small]
      constructor
      · intro impossible
        cases impossible
      · intro fails
        cases fails with
        | tooLarge same large => exact absurd (same ▸ small) (UInt8.not_le.mpr large)
    · rw [if_neg small, Except.error.injEq]
      constructor
      · rintro rfl
        exact .tooLarge rfl (UInt8.not_le.mp small)
      · intro fails
        cases fails with
        | tooLarge same large => rw [same]
  | label name =>
    rw [resolve_label_eq_error_iff]
    constructor
    · rintro (⟨unknown, rfl⟩ | ⟨target, value, found, same, large, rfl⟩)
      · exact .undefined unknown
      · exact .tooLarge ⟨target, found, same⟩ large
    · intro fails
      cases fails with
      | undefined unknown => exact .inl ⟨unknown, rfl⟩
      | tooLarge standsFor large =>
        obtain ⟨target, found, same⟩ := standsFor
        exact .inr ⟨target, _, found, same, large, rfl⟩

end Immediate

/-! ## One line -/

namespace SourceLine

variable {line : SourceLine} {op : Opcode} {immediate : Immediate} {address word : UInt8}

/-- What is wrong with a line: it has an address and an instruction, and something is wrong with the
operand there. -/
def FailsWith (line : SourceLine) (symbols : Symbols) (cause : LineError) : Prop :=
  ∃ address op immediate, line.address = some address ∧ line.inst = some (op, immediate) ∧
    immediate.FailsWith symbols op address cause

/-- The word that a line has for an address, unless something is wrong with it. A word that is given
by its value goes before an instruction. -/
def Gives (line : SourceLine) (symbols : Symbols) (address word : UInt8) : Prop :=
  line.address = some address ∧ (∀ cause, ¬line.FailsWith symbols cause) ∧
    (line.word = some word ∨ line.word = none ∧
      ∃ op immediate value, line.inst = some (op, immediate) ∧
        immediate.StandsFor symbols op address value ∧ word = Inst.encode ⟨op, value⟩)

/-- An instruction has a word if its operand can be resolved. -/
lemma cell?_of_inst (here : line.address = some address) (inst : line.inst = some (op, immediate)) :
    line.cell? symbols = (immediate.resolve symbols op address).map fun imm =>
      some (address, line.word.getD (Inst.ofNibble op imm).encode) := by
  rw [cell?, here]
  simp only [encode?, inst]
  rcases immediate.resolve symbols op address with cause | imm
  · rfl
  · cases line.word <;> rfl

/-- Without an instruction nothing can be wrong. -/
lemma cell?_of_no_inst (here : line.address = some address) (inst : line.inst = none) :
    line.cell? symbols = .ok (line.word.map (address, ·)) := by
  rw [cell?, here]
  simp only [encode?, inst]
  rfl

/-- Without an address there is no place for a word. -/
lemma cell?_of_no_address (nowhere : line.address = none) : line.cell? symbols = .ok none := by
  rw [cell?, nowhere]

/-- **A line fails** because of what is wrong with it. -/
theorem cell?_eq_error_iff {cause : LineError} :
    line.cell? symbols = .error cause ↔ line.FailsWith symbols cause := by
  rcases here : line.address with _ | address
  · rw [cell?_of_no_address here, FailsWith, here]
    exact ⟨nofun, fun ⟨_, _, _, impossible, _⟩ => nomatch impossible⟩
  rcases inst : line.inst with _ | ⟨op, immediate⟩
  · rw [cell?_of_no_inst here inst, FailsWith, inst]
    exact ⟨nofun, fun ⟨_, _, _, _, impossible, _⟩ => nomatch impossible⟩
  have whole : line.FailsWith symbols cause ↔ immediate.resolve symbols op address = .error cause := by
    simp [FailsWith, here, inst, Immediate.resolve_eq_error_iff]
  rw [whole, cell?_of_inst here inst]
  rcases immediate.resolve symbols op address with first | imm
  · simp only [Except.map, Except.error.injEq]
  · exact ⟨nofun, nofun⟩

/-- **A line that does not fail** has the word that it gives. -/
theorem cell_eq_some_iff :
    line.cell symbols = some (address, word) ↔ line.Gives symbols address word := by
  have fails (cause : LineError) :
      line.FailsWith symbols cause ↔ line.cell? symbols = .error cause :=
    cell?_eq_error_iff.symm
  rw [Gives, cell]
  simp only [fails]
  rcases here : line.address with _ | place
  · simp [cell?_of_no_address here, Except.toOption]
  rcases inst : line.inst with _ | ⟨op, immediate⟩
  · simp [cell?_of_no_inst here inst, Except.toOption, and_comm]
  rw [cell?_of_inst here inst]
  rcases resolved : immediate.resolve symbols op place with cause | imm
  · simp [Except.map, Except.toOption]
  · obtain ⟨standsFor, small⟩ := Immediate.resolve_eq_ok_iff.mp resolved
    have encoding : (∃ value, immediate.StandsFor symbols op place value ∧
        word = Inst.encode ⟨op, value⟩) ↔ Inst.encode ⟨op, imm⟩ = word := by
      constructor
      · rintro ⟨value, standsFor', rfl⟩
        rw [standsFor.unique standsFor']
      · rintro rfl
        exact ⟨imm, standsFor, rfl⟩
    have cell : ((Except.ok imm : Except LineError UInt8).map fun imm =>
        some (place, line.word.getD (Inst.ofNibble op imm).encode)).toOption.join =
          some (place, line.word.getD (Inst.encode ⟨op, imm⟩)) := by
      rw [← ofNibble_of_le op small]
      rfl
    rw [cell]
    simp only [Except.map, Option.some.injEq, Prod.mk.injEq, reduceCtorEq, not_false_eq_true,
      implies_true, true_and, and_congr_right_iff]
    rintro rfl
    rcases line.word with _ | given
    · simpa [eq_comm] using encoding.symm
    · simp

/-- A line whose instruction does not fail has a word, if there is none that is given by its
value. -/
lemma exists_gives_of_inst (here : line.address = some address) (noWord : line.word = none)
    (inst : line.inst = some (op, immediate)) (succeeds : ∀ cause, ¬line.FailsWith symbols cause) :
    ∃ value, immediate.StandsFor symbols op address value ∧ value ≤ 0xf ∧
      line.Gives symbols address (Inst.encode ⟨op, value⟩) := by
  rcases resolved : immediate.resolve symbols op address with cause | value
  · exact absurd ⟨address, op, immediate, here, inst, Immediate.resolve_eq_error_iff.mp resolved⟩
      (succeeds cause)
  · obtain ⟨standsFor, small⟩ := Immediate.resolve_eq_ok_iff.mp resolved
    exact ⟨value, standsFor, small, here, succeeds,
      .inr ⟨noWord, op, immediate, value, inst, standsFor, rfl⟩⟩

/-- A line without a word does not give any. -/
lemma not_gives (nothing : line.address = none ∨ line.inst = none ∧ line.word = none) :
    ¬line.Gives symbols address word := by
  rintro ⟨here, -, given | ⟨-, op, immediate, value, inst, -⟩⟩
  · rcases nothing with nowhere | ⟨-, noWord⟩
    · exact nomatch nowhere.symm.trans here
    · exact nomatch noWord.symm.trans given
  · rcases nothing with nowhere | ⟨noInst, -⟩
    · exact nomatch nowhere.symm.trans here
    · exact nomatch noInst.symm.trans inst

end SourceLine

/-- What a line leaves behind in a program, and how that ends. -/
structure Effect (program : Program) (line : SourceLine) (result : Program)
    (ending : Except LineError Unit) : Prop where
  /-- The line fails if something is wrong with it, and only then. -/
  failure (cause : LineError) : ending = .error cause ↔ line.FailsWith program.symbols cause
  /-- The names stay as they are. -/
  symbols : result.symbols = program.symbols
  /-- If the line fails, the instruction memory stays as it is. -/
  imem_of_failure {cause : LineError} (failed : ending = .error cause) :
    result.imem = program.imem
  /-- Otherwise a word that is given by its value is written, and nothing else. -/
  imem_of_word {address word : UInt8} (succeeded : ending = .ok ())
    (here : line.address = some address) (given : line.word = some word) :
    result.imem = program.imem.write address word
  /-- Without it the instruction is written, and nothing else. -/
  imem_of_inst {address : UInt8} {op : Opcode} {immediate : Immediate} (succeeded : ending = .ok ())
    (here : line.address = some address) (noWord : line.word = none)
    (inst : line.inst = some (op, immediate)) :
    ∃ value, immediate.StandsFor program.symbols op address value ∧ value ≤ 0xf ∧
      result.imem = program.imem.write address (Inst.encode ⟨op, value⟩)
  /-- Without an address, or with nothing to be written there, nothing is written. -/
  imem_of_nothing (nothing : line.address = none ∨ line.inst = none ∧ line.word = none) :
    result.imem = program.imem
  /-- The byte of the data memory is written, whether the line fails or not. -/
  dmem_of_data {address value : UInt8} (given : line.data = some (address, value)) :
    result.dmem = program.dmem.write address value
  /-- Without such a byte the data memory stays as it is. -/
  dmem_of_nothing (nothing : line.data = none) : result.dmem = program.dmem

/-- What many lines leave behind in a program. -/
structure Effects (program : Program) (lines : List SourceLine) (result : Program) : Prop where
  /-- The names stay as they are. -/
  symbols : result.symbols = program.symbols
  /-- A word is the one of the last line at its address that has any and does not fail. -/
  imem (address : UInt8) :
    Latest (fun line word => line.Gives program.symbols address word) lines
      (program.imem.read address) (result.imem.read address)
  /-- A byte of the data memory is the one of the last line that has any for its address, whether
  that line fails or not. -/
  dmem (address : UInt8) :
    Latest (fun line value => line.data = some (address, value)) lines
      (program.dmem.read address) (result.dmem.read address)

end Asm

namespace Program

open Asm

/-- The program with many lines. Those that fail do not keep the others from being written. -/
def writeEach (program : Program) (lines : List SourceLine) : Program :=
  lines.foldl (fun program line => (program.write line).1) program

/-- A line ends as its word does. -/
lemma write_snd_eq (program : Program) (line : SourceLine) :
    (program.write line).2 = (line.cell? program.symbols).map fun _ => () := by
  rw [write_eq]
  cases line.cell? program.symbols <;> rfl

/-- A line writes its byte, and its word if it has any. -/
lemma write_fst_eq (program : Program) (line : SourceLine) :
    (program.write line).1 =
      { imem := program.imem.writeAll (line.cell program.symbols).toList
        dmem := program.dmem.writeAll line.data.toList
        symbols := program.symbols } := by
  rw [write_eq, SourceLine.cell]
  rcases line.cell? program.symbols with cause | cell
  · cases data : line.data <;> rfl
  · rfl

/-- **Many lines are writes one after another.** No line changes the names, so what a line writes
does not depend on the lines in front of it. -/
theorem writeEach_eq (program : Program) (lines : List SourceLine) :
    program.writeEach lines =
      { imem := program.imem.writeAll (lines.filterMap (·.cell program.symbols))
        dmem := program.dmem.writeAll (lines.filterMap SourceLine.data)
        symbols := program.symbols } := by
  induction lines generalizing program with
  | nil => rfl
  | cons line others ih =>
    change (program.write line).1.writeEach others = _
    rw [ih, write_fst_eq, Memory.writeAll_filterMap_cons, Memory.writeAll_filterMap_cons]

end Program

namespace Asm

/-- **What one line leaves behind.** -/
theorem effect_write (program : Program) (line : SourceLine) :
    Effect program line (program.write line).1 (program.write line).2 := by
  have failure (cause : LineError) :
      (program.write line).2 = .error cause ↔ line.FailsWith program.symbols cause := by
    rw [Program.write_snd_eq, ← SourceLine.cell?_eq_error_iff]
    cases line.cell? program.symbols <;> simp [Except.map]
  have imem : (program.write line).1.imem =
      program.imem.writeAll (line.cell program.symbols).toList := by
    rw [Program.write_fst_eq]
  have written {address word : UInt8} (gives : line.Gives program.symbols address word) :
      (program.write line).1.imem = program.imem.write address word := by
    rw [imem, SourceLine.cell_eq_some_iff.mpr gives]
    rfl
  have kept (nothing : ∀ address word, ¬line.Gives program.symbols address word) :
      (program.write line).1.imem = program.imem := by
    rw [imem]
    rcases cell : line.cell program.symbols with _ | ⟨address, word⟩
    · rfl
    · exact absurd (SourceLine.cell_eq_some_iff.mp cell) (nothing address word)
  have unfailing (succeeded : (program.write line).2 = .ok ()) (cause : LineError) :
      ¬line.FailsWith program.symbols cause := by
    rw [← failure, succeeded]
    exact nofun
  exact
    { failure
      symbols := program.symbols_write line
      imem_of_failure := fun failed =>
        kept fun _ _ gives => gives.2.1 _ ((failure _).mp failed)
      imem_of_word := fun succeeded here given =>
        written ⟨here, unfailing succeeded, .inl given⟩
      imem_of_inst := fun succeeded here noWord inst => by
        obtain ⟨value, standsFor, small, gives⟩ :=
          SourceLine.exists_gives_of_inst here noWord inst (unfailing succeeded)
        exact ⟨value, standsFor, small, written gives⟩
      imem_of_nothing := fun nothing => kept fun _ _ => SourceLine.not_gives nothing
      dmem_of_data := fun given => by
        rw [Program.write_fst_eq, given]
        rfl
      dmem_of_nothing := fun nothing => by
        rw [Program.write_fst_eq, nothing]
        rfl }

/-- **What is left behind by lines that may fail.** A line with an address and an instruction fails
if its operand is a label that is not defined, or stands for a number of more than four bits; no
other line fails. Then it has still written its byte of the data memory, but no word. After many
lines, of which any may have failed, each address of the instruction memory holds the word of the
last line there that has any and has not failed, and each address of the data memory holds the byte
of the last line that has any for it.

**Proof sketch.** No line changes the names, so which lines fail, and what the others write, is
known beforehand (`Hex8.Program.writeEach_eq`). Of many writes the latest one counts
(`Hex8.Memory.latest_writeAll`). -/
theorem effects_of_lines (program : Program) :
    (∀ line, Effect program line (program.write line).1 (program.write line).2) ∧
      ∀ lines, Effects program lines (program.writeEach lines) := by
  refine ⟨effect_write program, fun lines => ?_⟩
  rw [Program.writeEach_eq]
  exact
    { symbols := rfl
      imem := fun address => by
        simp only [← SourceLine.cell_eq_some_iff]
        exact program.imem.latest_writeAll (·.cell program.symbols) lines address
      dmem := fun address => program.dmem.latest_writeAll SourceLine.data lines address }

/-- A line that fails has written its byte, and the lines around it have written their words. -/
example :
    let line : SourceLine := .blank "" 0
    let lines : List SourceLine :=
      [{ line with address := some 7, inst := some (.ldac, .number 3) },
        { line with address := some 7, inst := some (.br, .label "x"), data := some (1, 2) },
        { line with address := some 8, inst := some (.add, .number 0), word := some 0x9f }]
    let result := Program.empty.writeEach lines
    [7, 8].map result.imem.read = [0x33, 0x9f] ∧ result.dmem.read 1 = 2 := by
  decide +kernel

end Asm

end Hex8
