import Hex8.Proofs.CoreTrace
import Hex8.Proofs.Writes

set_option relaxedAutoImplicit false
set_option autoImplicit false

/-!
# Traces that explain themselves

A trace can be checked without anything that has produced it. Each record shows the registers that
the next instruction finds and the prefix that it extends its operand by, so the trace itself says
which address every access has used, where the program goes on, and what every load has to deliver.

## Main definitions

* `Hex8.Moment`, `Hex8.moments` — a record with the one in front of it, and those of a trace.
* `Hex8.Moment.operand`, `Hex8.Moment.address`, `Hex8.Moment.nextPc`, `Hex8.Moment.store?` — what
  the two say.
* `Hex8.Consistent` — whether a trace explains itself.
* `Hex8.Machine.Reports`, `Hex8.Machine.Traces` — records of the machine, whatever addresses they
  show.

## Main results

* `Hex8.Machine.Traces.exists_of_getElem?` — how each moment of a trace sees the machine.
* `Hex8.consistent_traces` — the traces of the reference machine and of the cores explain
  themselves.

## Design

The reference machine and the cores show different addresses for an indexed operation. No address
is looked at here: each one is computed from the operand and the base register. So both kinds of
traces are traces in the sense of `Machine.Reports`, and are dealt with at once.
-/

namespace Hex8

/-! ## What a trace says -/

/-- The prefix that an instruction leaves for the next one. -/
def Record.leftPrefix (record : Record) : UInt8 :=
  if record.inst.op = .pfix then record.inst.imm else 0

/-- A record, with the record in front of it in the trace. -/
structure Moment where
  /-- The record in front, if there is one. -/
  previous : Option Record
  /-- The record. -/
  record : Record

namespace Moment

/-- The register that an instruction finds. In front of the first record both are zero. -/
def found (moment : Moment) : Register → UInt8
  | .a => moment.previous.elim 0 Record.areg
  | .b => moment.previous.elim 0 Record.breg

/-- The immediate, plus sixteen times that of a prefix right in front of the instruction. -/
def operand (moment : Moment) : UInt8 :=
  moment.record.inst.imm + 16 * moment.previous.elim 0 Record.leftPrefix

/-- The operand, plus the base register of an indexed operation. -/
def address (moment : Moment) : UInt8 :=
  moment.operand + (moment.record.inst.op.base?.elim 0 moment.found)

/-- Where the program goes on. -/
def nextPc (moment : Moment) : UInt8 :=
  match moment.record.inst.op with
  | .br => moment.record.pc + moment.operand
  | .brz =>
    if moment.record.areg = 0 then moment.record.pc + moment.operand else moment.record.pc + 1
  | .brn =>
    if 128 ≤ moment.record.areg then moment.record.pc + moment.operand else moment.record.pc + 1
  | .brb => moment.record.breg
  | _ => moment.record.pc + 1

/-- The address and the byte of a store. -/
def store? (moment : Moment) : Option (UInt8 × UInt8) :=
  if moment.record.memory = .store then some (moment.address, moment.record.data) else none

end Moment

/-- The records of a trace with the ones in front of them; the first one has the given one. -/
def moments (previous : Option Record) : List Record → List Moment
  | [] => []
  | record :: rest => ⟨previous, record⟩ :: moments (some record) rest

/-- Whether a trace explains itself, and the data memory behind it from the one in front of it. -/
structure Consistent (dmem : Memory) (records : List Record) (final : Memory) : Prop where
  /-- The program starts at address zero. -/
  start {record : Record} (first : records[0]? = some record) : record.pc = 0
  /-- It goes on where each instruction says. -/
  flow {i : Nat} {moment : Moment} {next : Record} (here : (moments none records)[i]? = some moment)
    (behind : records[i + 1]? = some next) : next.pc = moment.nextPc
  /-- The operation decides about the kind of access. -/
  access {record : Record} (inside : record ∈ records) : record.memory = record.inst.op.access
  /-- A load delivers the byte of the latest store to its address, and what has been there in the
  beginning without one. -/
  load {i : Nat} {moment : Moment} (here : (moments none records)[i]? = some moment)
    (loads : moment.record.memory = .load) :
    moment.record.data =
      (latest? moment.address (((moments none records).take i).filterMap Moment.store?)).getD
        (dmem.read moment.address)
  /-- The stores in their order are all that has happened to the data memory. -/
  stores : final = dmem.writeAll ((moments none records).filterMap Moment.store?)

/-! ## One instruction -/

namespace Machine

/-- Whether a record is the one of the next instruction, whatever address it shows. -/
structure Reports (machine : Machine) (record : Record) : Prop where
  /-- The address of the instruction. -/
  pc : record.pc = machine.pc
  /-- The instruction. -/
  inst : record.inst = machine.inst
  /-- The register `A` behind it. -/
  areg : record.areg = machine.step.2.areg
  /-- The register `B` behind it. -/
  breg : record.breg = machine.step.2.breg
  /-- The kind of its access. -/
  memory : record.memory = machine.step.1.memory
  /-- The byte of its access. -/
  data : record.data = machine.step.1.data

/-- Whether a machine is in the state that a record leaves behind. Without a record it has not
executed anything yet. -/
structure Behind (machine : Machine) (previous : Option Record) : Prop where
  /-- The register `A`. -/
  areg : machine.areg = previous.elim 0 Record.areg
  /-- The register `B`. -/
  breg : machine.breg = previous.elim 0 Record.breg
  /-- The pending prefix. -/
  pfix : machine.pfix = previous.elim 0 Record.leftPrefix

variable {machine : Machine} {previous : Option Record} {record : Record}

/-- A machine reports its next instruction. -/
lemma reports_step (machine : Machine) : machine.Reports machine.step.1 :=
  ⟨rfl, rfl, rfl, rfl, rfl, rfl⟩

/-- It does so also with the address that has been used. -/
lemma reports_retirement (machine : Machine) : machine.Reports machine.retirement := by
  rw [retirement, Record.effective]
  split <;> exact ⟨rfl, rfl, rfl, rfl, rfl, rfl⟩

/-- The first instruction has no record in front of it. -/
lemma behind_ofMemory (imem dmem : Memory) : (ofMemory imem dmem).Behind none :=
  ⟨rfl, rfl, rfl⟩

namespace Reports

/-- The next instruction finds the registers and the prefix that the record says. -/
lemma behind_step (h : machine.Reports record) : machine.step.2.Behind (some record) where
  areg := h.areg.symm
  breg := h.breg.symm
  pfix := by
    rw [Option.elim_some, Record.leftPrefix, h.inst]
    cases op : machine.inst.op <;> simp [step, effect, op, apply_ite Effect.pfix]

/-- The operation decides about the kind of access. -/
lemma memory_eq (h : machine.Reports record) : record.memory = record.inst.op.access := by
  rw [h.memory, h.inst]
  cases op : machine.inst.op <;>
    simp [step, effect, op, Opcode.access, apply_ite Effect.memory]

variable (h : machine.Reports record) (behind : machine.Behind previous)
include h behind

/-- The operand can be seen from the trace. -/
lemma operand_eq : Moment.operand ⟨previous, record⟩ = machine.operand := by
  rw [Moment.operand, h.inst, ← behind.pfix]
  exact (operand_eq_add machine.pfix (Inst.imm_decode_le _)).symm

/-- So can the address of the access. -/
lemma address_eq :
    Moment.address ⟨previous, record⟩ =
      machine.operand + machine.inst.op.base?.elim 0 machine.register := by
  have found : Moment.found ⟨previous, record⟩ = machine.register := by
    funext register
    cases register
    · exact behind.areg.symm
    · exact behind.breg.symm
  rw [Moment.address, operand_eq h behind, found, h.inst]

/-- The program goes on where the trace says. -/
lemma nextPc_eq : Moment.nextPc ⟨previous, record⟩ = machine.step.2.pc := by
  rw [Moment.nextPc, operand_eq h behind]
  simp only [h.inst, h.pc, h.areg, h.breg, le_iff_sign_bit]
  cases op : machine.inst.op <;> simp [step, effect, op, apply_ite Effect.pc, apply_ite Effect.areg]

/-- The data memory changes as the trace says. -/
lemma writeAll_store? :
    machine.dmem.writeAll (Moment.store? ⟨previous, record⟩).toList = machine.step.2.dmem := by
  rw [Moment.store?, address_eq h behind, memory_eq h, h.data, h.inst]
  cases op : machine.inst.op <;>
    simp [step, effect, op, Opcode.access, Opcode.base?, register, Memory.writeAll,
      apply_ite Effect.dmem, UInt8.add_comm]

/-- A load delivers the byte at the address that the trace says. -/
lemma data_eq (loads : record.memory = .load) :
    record.data = machine.dmem.read (Moment.address ⟨previous, record⟩) := by
  rw [memory_eq h, h.inst] at loads
  rw [address_eq h behind, h.data]
  cases op : machine.inst.op <;> rw [op] at loads <;> cases loads <;>
    simp [step, effect, op, Opcode.base?, register, UInt8.add_comm]

end Reports

/-! ## Traces -/

/-- Records of one instruction after the other, and the machine behind them. -/
inductive Traces : Machine → List Record → Machine → Prop
  /-- Without records the machine stays as it is. -/
  | nil (machine : Machine) : Traces machine [] machine
  /-- The first record is the one of the next instruction. -/
  | cons {machine last : Machine} {record : Record} {rest : List Record}
      (first : machine.Reports record) (others : Traces machine.step.2 rest last) :
      Traces machine (record :: rest) last

/-- The reference machine reports its instructions. -/
lemma traces_run (n : Nat) (machine : Machine) :
    Traces machine (machine.run n).1 (machine.run n).2 := by
  induction n generalizing machine with
  | zero => exact .nil machine
  | succ n ih =>
    rw [run_succ]
    exact .cons machine.reports_step (ih machine.step.2)

/-- The records with the addresses that have been used are a trace of the same instructions. -/
lemma traces_retirements (n : Nat) (machine : Machine) :
    Traces machine (machine.retirements n) (machine.run n).2 := by
  induction n generalizing machine with
  | zero => exact .nil machine
  | succ n ih =>
    rw [run_succ, retirements_succ]
    exact .cons machine.reports_retirement (ih machine.step.2)

namespace Traces

variable {last : Machine} {records : List Record}

/-- **How each moment of a trace sees the machine.** Its record is the one of the machine at that
moment. The machine is in the state that the record in front leaves behind, and its data memory
holds the stores so far.

**Proof sketch.** Induction on the trace. What the first record says about the data memory is the
first of all writes. -/
lemma exists_of_getElem? (traces : Traces machine records last) (behind : machine.Behind previous)
    {i : Nat} {moment : Moment} (here : (moments previous records)[i]? = some moment) :
    ∃ now : Machine, now.Reports moment.record ∧ now.Behind moment.previous ∧
      now.dmem = machine.dmem.writeAll (((moments previous records).take i).filterMap
        Moment.store?) ∧
      ∀ next, records[i + 1]? = some next → next.pc = now.step.2.pc := by
  induction traces generalizing previous i with
  | nil machine => cases here
  | @cons machine last record rest first others ih =>
    cases i with
    | zero =>
      cases here
      refine ⟨machine, first, behind, rfl, fun next found => ?_⟩
      cases others with
      | nil => cases found
      | cons second _ =>
        cases found
        exact second.pc
    | succ i =>
      obtain ⟨now, reports, behind', dmem, next⟩ := ih first.behind_step here
      refine ⟨now, reports, behind', ?_, next⟩
      rw [dmem, ← first.writeAll_store? behind, moments, List.take_succ_cons,
        Memory.writeAll_filterMap_cons]

/-- The data memory behind a trace holds all stores. -/
lemma dmem_eq (traces : Traces machine records last) (behind : machine.Behind previous) :
    last.dmem = machine.dmem.writeAll ((moments previous records).filterMap Moment.store?) := by
  induction traces generalizing previous with
  | nil machine => rfl
  | cons first others ih =>
    rw [ih first.behind_step, ← first.writeAll_store? behind, moments,
      Memory.writeAll_filterMap_cons]

/-- The operation decides about the kind of access. -/
lemma memory_eq (traces : Traces machine records last) :
    ∀ record ∈ records, record.memory = record.inst.op.access := by
  induction traces with
  | nil machine => exact fun record inside => absurd inside List.not_mem_nil
  | cons first others ih => exact List.forall_mem_cons.mpr ⟨first.memory_eq, ih⟩

/-- A trace from the first instruction on explains itself. -/
lemma consistent {imem dmem : Memory} (traces : Traces (ofMemory imem dmem) records last) :
    Consistent dmem records last.dmem where
  start first := by
    cases traces with
    | nil => cases first
    | cons reports _ =>
      cases first
      exact reports.pc
  flow here following := by
    obtain ⟨now, reports, behind, -, next⟩ :=
      traces.exists_of_getElem? (behind_ofMemory imem dmem) here
    rw [next _ following, ← reports.nextPc_eq behind]
  access inside := traces.memory_eq _ inside
  load here loads := by
    obtain ⟨now, reports, behind, stores, -⟩ :=
      traces.exists_of_getElem? (behind_ofMemory imem dmem) here
    rw [reports.data_eq behind loads, stores, Memory.read_writeAll]
    rfl
  stores := traces.dmem_eq (behind_ofMemory imem dmem)

end Traces

end Machine

/-! ## The traces of programs -/

/-- **Traces explain themselves.** Whether the reference machine or a core has executed a program,
the records alone tell which address each access has used and where the program has gone on, every
load has delivered what the stores in front of it and the initial data memory say, and the final
data memory is what the stores make of the initial one.

**Proof sketch.** Both kinds of traces report the steps of the reference machine
(`Machine.traces_run`, `Machine.traces_retirements`), and a record with the one in front of it
tells all that a step depends on, apart from the data memory (`Machine.Traces.exists_of_getElem?`).
-/
theorem consistent_traces (program : Program) (n : Nat) :
    ((traceMachine program n).1.length = n ∧
      Consistent program.dmem (traceMachine program n).1 (traceMachine program n).2.dmem) ∧
    ∀ (arch : Arch) (options : RunOptions) (records : List Record)
      (simulator : Simulator arch.core),
      traceCore arch.core options program n = .ok (records, simulator) →
        records.length = n ∧ Consistent program.dmem records simulator.dmem := by
  refine ⟨⟨Machine.length_run n _, (Machine.traces_run n program.machine).consistent⟩, ?_⟩
  intro arch options records simulator run
  rcases Nat.lt_or_ge options.maxCycles (arch.cost program.machine n) with exceeds | fits
  · rw [traceCore_of_exceeds arch options program exceeds] at run
    cases run
  · obtain ⟨simulator', run', shows, -⟩ := traceCore_of_fits arch options program fits
    rw [run'] at run
    cases run
    rw [shows.dmem]
    exact ⟨Machine.length_retirements n program.machine,
      (Machine.traces_retirements n program.machine).consistent⟩

/-- A byte is stored at `B + 2` and loaded back from there, a prefix takes a branch over the end of
the memory, and what is loaded behind it has been there in the beginning. -/
theorem consistent_store_load_branch :
    let program : Program :=
      { Program.ofWords [0xf1, 0x35, 0x48, 0x82, 0x0a, 0xff, 0x95] with
        dmem := Memory.zero.write 0 7 }
    ∃ records simulator,
      traceCore Arch.pipelined.core { maxCycles := 11, resetCycles := 1 } program 8 =
        .ok (records, simulator) ∧
      records.map Record.pc = [0, 1, 2, 3, 4, 5, 6, 0xfb] ∧
      records.map Record.data = [0, 0, 0, 0x15, 0x15, 0, 0, 7] ∧
      Consistent program.dmem records simulator.dmem := by
  intro program
  obtain ⟨simulator, run, -⟩ :=
    traceCore_of_fits .pipelined { maxCycles := 11, resetCycles := 1 } program (n := 8)
      (by decide +kernel)
  refine ⟨_, simulator, run, by decide +kernel, by decide +kernel, ?_⟩
  exact ((consistent_traces program 8).2 .pipelined _ _ simulator run).2

end Hex8
