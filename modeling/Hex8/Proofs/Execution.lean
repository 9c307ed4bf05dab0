import Mathlib.Tactic.Lemma
import Hex8.Core.Execute
import Hex8.Machine

set_option relaxedAutoImplicit false
set_option autoImplicit false

/-!
# The execute unit and the reference machine

The reference machine changes its memories and registers directly. The execute unit only answers
with what should happen, and leaves the data memory to others. Here the answer of the unit for the
next instruction of a machine is turned back into the machine that follows and into the record that
is reported, so that nothing behind this module has to look at single operations again.

## Main definitions

* `Hex8.Opcode.base?` — the register that an operation adds to its operand.
* `Hex8.Record.effective` — a record with the address that was used.
* `Hex8.Machine.retirement`, `Hex8.Machine.retirements` — the records of a machine with the
  addresses that were used.
* `Hex8.Machine.answer` — what the execute unit answers for the next instruction.
* `Hex8.Machine.settle` — the machine that such an answer leads to.

## Main results

* `Hex8.Machine.step_eq_settle` — a step leads to where the answer of the execute unit leads.
* `Hex8.Machine.retirement_eq` — the record of a step, as it can be seen from the answer.
* `Hex8.Machine.exists_load_iff` — the execute unit asks for a load exactly for loads.

## Design

The recorded address of an indexed operation is its operand, whereas the execute unit asks for the
effective address. The two records of one instruction are kept apart as `(step machine).1` and
`retirement machine`.
-/

namespace Hex8

/-- The register that an indexed operation adds to its operand. -/
def Opcode.base? : Opcode → Option Register
  | ldai => some .a
  | ldbi | stai => some .b
  | _ => none

/-- The kind of a requested access. -/
def Request.access : Request → Access
  | load _ _ => .load
  | store _ _ => .store

/-- The byte that a request moves, to or from the given data memory. -/
def Request.byte (dmem : Memory) : Request → UInt8
  | load _ address => dmem.read address
  | store _ data => data

/-- The data memory after a request has been served. -/
def Request.commit (dmem : Memory) : Request → Memory
  | load _ _ => dmem
  | store address data => dmem.write address data

namespace Machine

/-- The value of a register. -/
def register (machine : Machine) : Register → UInt8
  | .a => machine.areg
  | .b => machine.breg

end Machine

/-- A record with the effective address in place of the operand, if the operation is indexed.
The register is read in the machine before the instruction. -/
def Record.effective (before : Machine) (record : Record) : Record :=
  match record.inst.op.base? with
  | some base => { record with address := before.operand + before.register base }
  | none => record

namespace Machine

/-- The record of the next instruction, with the address that it uses. -/
def retirement (machine : Machine) : Record :=
  machine.step.1.effective machine

/-- The records of the next `n` instructions, with the addresses that they use. -/
def retirements (n : Nat) (machine : Machine) : List Record :=
  (machine.run n).1.mapIdx fun i record => record.effective (machine.run i).2

/-- Whether the next instruction is a load. -/
def isLoad (machine : Machine) : Bool :=
  machine.inst.op.access = .load

/-- How many of the next `n` instructions are loads. -/
def loads (n : Nat) (machine : Machine) : Nat :=
  (machine.run n).1.countP fun record => record.inst.op.access = .load

/-- What the execute unit answers for the next instruction. -/
def answer (machine : Machine) : Execute.Output :=
  execute
    { pc := machine.pc, word := machine.imem.read machine.pc, areg := machine.areg
      breg := machine.breg, pfix := machine.pfix }

/-- The machine that follows when an answer of the execute unit has been carried out: a store has
reached the data memory, and the byte of a load its register. -/
def settle (machine : Machine) (out : Execute.Output) : Machine :=
  let settled : Machine :=
    { machine with
      pc := out.nextPc, areg := out.areg, breg := out.breg, pfix := out.pfix
      executed := machine.executed + 1 }
  match out.request with
  | none => settled
  | some (.store address data) => { settled with dmem := machine.dmem.write address data }
  | some (.load destination address) =>
    let (areg, breg) :=
      destination.writeBack (machine.dmem.read address) out.areg out.breg
    { settled with areg, breg }

/-! ## One instruction -/

/-- The two ways to look at the sign of a byte agree. -/
lemma sign_bit_iff (byte : UInt8) : byte &&& 0x80 ≠ 0 ↔ byte >>> 7 = 1 := by
  refine forall_byte (P := fun byte => byte &&& 0x80 ≠ 0 ↔ byte >>> 7 = 1) ?_ byte
  decide +kernel

/-- A byte with its upper bit set is at least half of what there is. -/
lemma le_iff_sign_bit (byte : UInt8) : 128 ≤ byte ↔ byte &&& 0x80 ≠ 0 := by
  refine forall_byte (P := fun byte => 128 ≤ byte ↔ byte &&& 0x80 ≠ 0) ?_ byte
  decide +kernel

/-- **A step leads to where the answer of the execute unit leads.** -/
theorem step_eq_settle (machine : Machine) : machine.step.2 = machine.settle machine.answer := by
  have inst : machine.inst = Inst.decode (machine.imem.read machine.pc) := rfl
  cases op : machine.inst.op
  all_goals
    rw [inst] at op
    simp only [step, effect, settle, answer, execute, operand, inst, op, sign_bit_iff,
      Register.writeBack]
  case brz => split <;> rfl
  case brn => split <;> rfl

/-- What the execute unit asks the data memory for, by operation. -/
theorem request_answer (machine : Machine) :
    machine.answer.request =
      match machine.inst.op with
      | .ldam => some (.load .a machine.operand)
      | .ldbm => some (.load .b machine.operand)
      | .stam => some (.store machine.operand machine.areg)
      | .ldai => some (.load .a (machine.operand + machine.areg))
      | .ldbi => some (.load .b (machine.operand + machine.breg))
      | .stai => some (.store (machine.operand + machine.breg) machine.areg)
      | _ => none := by
  have inst : machine.inst = Inst.decode (machine.imem.read machine.pc) := rfl
  cases op : machine.inst.op
  all_goals
    rw [inst] at op
    simp only [answer, execute, operand, inst, op, UInt8.add_comm]
  case brz => split <;> rfl
  case brn => split <;> rfl

/-- **The record of a step, as it can be seen from the answer of the execute unit.** -/
theorem retirement_eq (machine : Machine) :
    machine.retirement =
      { pc := machine.pc, inst := machine.inst
        areg := machine.step.2.areg, breg := machine.step.2.breg
        memory := machine.answer.request.elim .nothing Request.access
        address := machine.answer.request.elim 0 Request.address
        data := machine.answer.request.elim 0 (Request.byte machine.dmem) } := by
  rw [request_answer]
  cases op : machine.inst.op
  all_goals
    simp [retirement, Record.effective, Opcode.base?, step, effect, register, op, Request.access,
      Request.address, Request.byte, UInt8.add_comm]
  case brz => split <;> simp
  case brn => split <;> simp

/-- The execute unit asks for a load exactly for loads. -/
theorem exists_load_iff (machine : Machine) :
    (∃ destination address, machine.answer.request = some (.load destination address)) ↔
      machine.isLoad = true := by
  rw [request_answer, isLoad]
  cases machine.inst.op <;> simp [Opcode.access]

/-- While a load waits for its byte, both registers are as they were, and no prefix is pending. -/
theorem answer_of_isLoad (machine : Machine) (h : machine.isLoad = true) :
    machine.answer.areg = machine.areg ∧ machine.answer.breg = machine.breg ∧
      machine.answer.pfix = 0 := by
  have inst : machine.inst = Inst.decode (machine.imem.read machine.pc) := rfl
  cases op : machine.inst.op
  all_goals
    rw [isLoad, op] at h
    rw [inst] at op
    simp_all [Opcode.access, answer, execute]

/-- A load asks for the byte that it records, and takes it into its register. -/
theorem request_of_isLoad (machine : Machine) (h : machine.isLoad = true) :
    ∃ destination address,
      machine.answer.request = some (.load destination address) ∧
        machine.retirement.data = machine.dmem.read address ∧
        (machine.step.2.areg, machine.step.2.breg) =
          destination.writeBack machine.retirement.data machine.areg machine.breg := by
  obtain ⟨destination, address, request⟩ := machine.exists_load_iff.mpr h
  obtain ⟨areg, breg, -⟩ := machine.answer_of_isLoad h
  have data : machine.retirement.data = machine.dmem.read address := by
    rw [retirement_eq, request]
    rfl
  refine ⟨destination, address, request, data, ?_⟩
  rw [data, step_eq_settle, settle, request, areg, breg]

/-- Every other instruction asks for a store, or for nothing. -/
theorem request_of_not_isLoad (machine : Machine) (h : ¬machine.isLoad = true) :
    machine.answer.request = none ∨
      ∃ address data, machine.answer.request = some (.store address data) := by
  rcases request : machine.answer.request with _ | ⟨destination, address⟩ | ⟨address, data⟩
  · exact .inl rfl
  · exact absurd (machine.exists_load_iff.mp ⟨destination, address, request⟩) h
  · exact .inr ⟨address, data, rfl⟩

/-- Every other instruction leaves the registers that the execute unit answers. -/
theorem registers_step_of_not_isLoad (machine : Machine) (h : ¬machine.isLoad = true) :
    machine.step.2.areg = machine.answer.areg ∧ machine.step.2.breg = machine.answer.breg := by
  rw [step_eq_settle, settle]
  obtain request | ⟨address, data, request⟩ := machine.request_of_not_isLoad h
  all_goals
    rw [request]
    exact ⟨rfl, rfl⟩

/-- Only a load names a register that waits for its byte. -/
theorem destination?_of_not_isLoad (machine : Machine) (h : ¬machine.isLoad = true) :
    machine.answer.request.bind Request.destination? = none := by
  obtain request | ⟨address, data, request⟩ := machine.request_of_not_isLoad h
  all_goals
    rw [request]
    rfl

/-- The execute unit answers the address of the next instruction. -/
theorem pc_step (machine : Machine) : machine.step.2.pc = machine.answer.nextPc := by
  rw [step_eq_settle, settle]
  rcases machine.answer.request with _ | ⟨destination, address⟩ | ⟨address, data⟩ <;> rfl

/-- The execute unit answers the prefix of the next instruction. -/
theorem pfix_step (machine : Machine) : machine.step.2.pfix = machine.answer.pfix := by
  rw [step_eq_settle, settle]
  rcases machine.answer.request with _ | ⟨destination, address⟩ | ⟨address, data⟩ <;> rfl

/-- A step changes the data memory as the request says. -/
theorem dmem_step (machine : Machine) :
    machine.step.2.dmem =
      machine.answer.request.elim machine.dmem (Request.commit machine.dmem) := by
  rw [step_eq_settle, settle]
  rcases machine.answer.request with _ | ⟨destination, address⟩ | ⟨address, data⟩ <;> rfl

/-- A load does not change the data memory. -/
theorem dmem_step_of_isLoad (machine : Machine) (h : machine.isLoad = true) :
    machine.step.2.dmem = machine.dmem := by
  obtain ⟨destination, address, request, -, -⟩ := machine.request_of_isLoad h
  rw [dmem_step, request]
  rfl

/-- A step does not change the instruction memory. -/
@[simp] theorem imem_step (machine : Machine) : machine.step.2.imem = machine.imem := rfl

/-! ## Several instructions -/

/-- The records with the addresses that are used begin with that of the next instruction. -/
theorem retirements_succ (n : Nat) (machine : Machine) :
    machine.retirements (n + 1) = machine.retirement :: machine.step.2.retirements n := by
  simp only [retirements, run_succ, List.mapIdx_cons, run_zero]
  rfl

/-- There is one record per instruction. -/
@[simp] theorem length_retirements (n : Nat) (machine : Machine) :
    (machine.retirements n).length = n := by
  simp [retirements]

/-- Loads are counted one by one. -/
theorem loads_succ (n : Nat) (machine : Machine) :
    machine.loads (n + 1) = machine.step.2.loads n + if machine.isLoad then 1 else 0 := by
  simp only [loads, run_succ, List.countP_cons]
  rfl

end Machine

end Hex8
