import Hex8.Proofs.BusOrder
import Hex8.Proofs.CoreTrace

set_option relaxedAutoImplicit false
set_option autoImplicit false

/-!
# The footprint of a run

A run depends on the instruction words that it executes, and on the bytes that it loads from places
where it has not stored anything before. It depends on nothing else in the memories. So if another
program agrees on these, its run cannot be told from the first one: neither the machine nor a core
ever looks at a byte that the run does not use.

## Main definitions

* `Hex8.Record.Loads`, `Hex8.Record.Stores` — what a record says about an address.
* `Hex8.LoadedFirst` — an address is loaded from before anything is stored there.
* `Hex8.Machine.Alike` — two machines that differ in nothing but their memories.
* `Hex8.Machine.AgreeNext`, `Hex8.Machine.AgreeOn` — the memories of two machines agree on what an
  instruction uses, or on the footprint of a run.

## Main results

* `Hex8.Machine.Alike.step` — machines that are alike and agree on an instruction stay alike.
* `Hex8.Machine.Alike.run` — they do the same in a whole run if they agree on its footprint.
* `Hex8.traces_of_footprint` — neither the machine nor a core sees more than the footprint.

## Design

The footprint is computed by the first run: its records say where it was, and the addresses that it
used. The second run is only compared with it.
-/

namespace Hex8

/-! ## Records and addresses -/

namespace Record

/-- A byte was loaded from an address. -/
def Loads (record : Record) (address : UInt8) : Prop :=
  record.memory = .load ∧ record.address = address

/-- A byte was stored at an address. -/
def Stores (record : Record) (address : UInt8) : Prop :=
  record.memory = .store ∧ record.address = address

/-- Whether a record is that of a load from an address can be computed. -/
instance (record : Record) (address : UInt8) : Decidable (record.Loads address) :=
  inferInstanceAs (Decidable (_ ∧ _))

/-- Whether a record is that of a store to an address can be computed. -/
instance (record : Record) (address : UInt8) : Decidable (record.Stores address) :=
  inferInstanceAs (Decidable (_ ∧ _))

end Record

/-- An address is loaded from before anything is stored there. -/
def LoadedFirst (records : List Record) (address : UInt8) : Prop :=
  ∃ earlier record later, records = earlier ++ record :: later ∧ record.Loads address ∧
    ∀ other ∈ earlier, ¬other.Stores address

/-- Without records nothing is loaded. -/
lemma not_loadedFirst_nil (address : UInt8) : ¬LoadedFirst [] address := by
  rintro ⟨earlier, record, later, records, -⟩
  simp at records

/-- The address is loaded from at once, or later with no store before. -/
theorem loadedFirst_cons_iff {record : Record} {records : List Record} {address : UInt8} :
    LoadedFirst (record :: records) address ↔
      record.Loads address ∨ ¬record.Stores address ∧ LoadedFirst records address := by
  constructor
  · rintro ⟨_ | ⟨first, earlier⟩, load, later, split, loads, free⟩
    · cases split
      exact .inl loads
    · cases split
      rw [List.forall_mem_cons] at free
      exact .inr ⟨free.1, earlier, load, later, rfl, loads, free.2⟩
  · rintro (loads | ⟨free, earlier, load, later, rfl, loads, others⟩)
    · exact ⟨[], record, records, rfl, loads, by simp⟩
    · exact ⟨record :: earlier, load, later, rfl, loads, List.forall_mem_cons.mpr ⟨free, others⟩⟩

/-- Records behind the others do not matter. -/
theorem LoadedFirst.append {records : List Record} {address : UInt8}
    (h : LoadedFirst records address) (more : List Record) :
    LoadedFirst (records ++ more) address := by
  obtain ⟨earlier, load, later, rfl, loads, free⟩ := h
  exact ⟨earlier, load, later ++ more, by simp, loads, free⟩

/-- Whether an address is loaded from first can be computed. -/
instance decidableLoadedFirst (address : UInt8) :
    (records : List Record) → Decidable (LoadedFirst records address)
  | [] => .isFalse (not_loadedFirst_nil address)
  | record :: records =>
    have := decidableLoadedFirst address records
    decidable_of_iff (record.Loads address ∨ ¬record.Stores address ∧ LoadedFirst records address)
      loadedFirst_cons_iff.symm

namespace Machine

variable {machine other : Machine} {address : UInt8} {n : Nat}

/-! ## One instruction -/

/-- The record of a load names the address that is asked for. -/
theorem loads_retirement_iff :
    machine.retirement.Loads address ↔
      ∃ destination, machine.answer.request = some (.load destination address) := by
  rw [retirement_eq, Record.Loads]
  rcases machine.answer.request with _ | ⟨destination, loaded⟩ | ⟨stored, data⟩ <;>
    simp [Request.access, Request.address]

/-- So does the record of a store. -/
theorem stores_retirement_iff :
    machine.retirement.Stores address ↔
      ∃ data, machine.answer.request = some (.store address data) := by
  rw [retirement_eq, Record.Stores]
  rcases machine.answer.request with _ | ⟨destination, loaded⟩ | ⟨stored, data⟩ <;>
    simp [Request.access, Request.address]

/-- The machine records the operand of an access, and zero without one. -/
theorem record_eq (machine : Machine) :
    machine.step.1 =
      { machine.retirement with
        address := if machine.retirement.memory = .nothing then 0 else machine.operand } := by
  cases op : machine.inst.op
  all_goals
    simp [retirement, Record.effective, Opcode.base?, step, effect, op]
  case brz => split <;> simp
  case brn => split <;> simp

/-- Two machines that differ in nothing but their memories, and in how much they have executed. -/
structure Alike (machine other : Machine) : Prop where
  /-- They are at the same instruction. -/
  pc : other.pc = machine.pc
  /-- Their registers `A` are equal. -/
  areg : other.areg = machine.areg
  /-- Their registers `B` are equal. -/
  breg : other.breg = machine.breg
  /-- Their prefixes are equal. -/
  pfix : other.pfix = machine.pfix

/-- Two machines agree about an instruction if their memories hold the same word for it, and the
same byte where it loads from. -/
structure AgreeNext (machine other : Machine) : Prop where
  /-- The word. -/
  word : other.imem.read machine.pc = machine.imem.read machine.pc
  /-- The byte. -/
  byte : ∀ address, machine.retirement.Loads address →
    other.dmem.read address = machine.dmem.read address

namespace Alike

/-- The execute unit answers them the same. -/
lemma answer_eq (alike : machine.Alike other)
    (word : other.imem.read machine.pc = machine.imem.read machine.pc) :
    other.answer = machine.answer := by
  rw [answer, alike.pc, alike.areg, alike.breg, alike.pfix, word, answer]

/-- Where the bytes agree, or a byte is stored, they agree behind the instruction. -/
theorem read_step (alike : machine.Alike other) (agree : machine.AgreeNext other)
    (same : machine.retirement.Stores address ∨
      other.dmem.read address = machine.dmem.read address) :
    other.step.2.dmem.read address = machine.step.2.dmem.read address := by
  rw [stores_retirement_iff] at same
  rw [dmem_step, dmem_step, alike.answer_eq agree.word]
  rcases request : machine.answer.request with _ | ⟨destination, loaded⟩ | ⟨stored, data⟩
  · simpa [request] using same
  · simpa [request, Request.commit] using same
  · simp only [Option.elim_some, Request.commit, Memory.read_write]
    by_cases here : address = stored
    · rw [if_pos here, if_pos here]
    · rw [if_neg here, if_neg here]
      refine same.resolve_left ?_
      rintro ⟨written, stores⟩
      rw [request] at stores
      cases stores
      exact here rfl

/-- **Machines that are alike and agree on an instruction stay alike**, and record the same. -/
theorem step (alike : machine.Alike other) (agree : machine.AgreeNext other) :
    machine.step.2.Alike other.step.2 ∧ other.step.1 = machine.step.1 ∧
      other.retirement = machine.retirement := by
  have answer := alike.answer_eq agree.word
  have inst : other.inst = machine.inst := by
    rw [Machine.inst, alike.pc, agree.word, Machine.inst]
  have operand : other.operand = machine.operand := by
    rw [Machine.operand, alike.pfix, inst, Machine.operand]
  -- this byte is the only thing that is taken from a data memory
  have taken {destination : Register} {loaded : UInt8}
      (request : machine.answer.request = some (.load destination loaded)) :
      other.dmem.read loaded = machine.dmem.read loaded :=
    agree.byte loaded (loads_retirement_iff.mpr ⟨destination, request⟩)
  have registers : (other.step.2.areg, other.step.2.breg) =
      (machine.step.2.areg, machine.step.2.breg) := by
    rw [step_eq_settle, step_eq_settle, settle, settle, answer]
    rcases request : machine.answer.request with _ | ⟨destination, loaded⟩ | ⟨stored, data⟩
    · rfl
    · simp only [taken request]
    · rfl
  have data : other.answer.request.elim 0 (Request.byte other.dmem) =
      machine.answer.request.elim 0 (Request.byte machine.dmem) := by
    rw [answer]
    rcases request : machine.answer.request with _ | ⟨destination, loaded⟩ | ⟨stored, data⟩
    · rfl
    · exact taken request
    · rfl
  rw [Prod.mk.injEq] at registers
  have retirement : other.retirement = machine.retirement := by
    rw [retirement_eq, alike.pc, inst, registers.1, registers.2, data, answer, retirement_eq]
  refine ⟨?_, ?_, retirement⟩
  · exact
      { pc := by rw [pc_step, answer, pc_step]
        areg := registers.1
        breg := registers.2
        pfix := by rw [pfix_step, answer, pfix_step] }
  · rw [record_eq, retirement, operand, record_eq]

end Alike

/-! ## A run -/

/-- The memories of two machines agree on the footprint of a run of the first one: at the addresses
of its instructions, and where it loads before it stores. -/
structure AgreeOn (n : Nat) (machine other : Machine) : Prop where
  /-- The words. -/
  words : ∀ record ∈ machine.retirements n,
    other.imem.read record.pc = machine.imem.read record.pc
  /-- The bytes. -/
  bytes : ∀ address, LoadedFirst (machine.retirements n) address →
    other.dmem.read address = machine.dmem.read address

namespace AgreeOn

/-- They agree about the first instruction. -/
lemma next (agree : AgreeOn (n + 1) machine other) : machine.AgreeNext other where
  word := by
    rw [← machine.pc_retirement]
    refine agree.words _ ?_
    rw [retirements_succ]
    exact List.mem_cons_self
  byte address loads := agree.bytes address <| by
    rw [retirements_succ]
    exact loadedFirst_cons_iff.mpr (.inl loads)

/-- Behind it they agree on the others. -/
lemma behind (agree : AgreeOn (n + 1) machine other) (alike : machine.Alike other) :
    AgreeOn n machine.step.2 other.step.2 where
  words record executed := agree.words record <| by
    rw [retirements_succ]
    exact List.mem_cons_of_mem _ executed
  bytes address loaded := by
    -- what has just been stored is the same, whatever was there before
    refine alike.read_step agree.next ?_
    by_cases stores : machine.retirement.Stores address
    · exact .inl stores
    · refine .inr (agree.bytes address ?_)
      rw [retirements_succ]
      exact loadedFirst_cons_iff.mpr (.inr ⟨stores, loaded⟩)

/-- They agree on a run without the last instruction. -/
lemma pred (agree : AgreeOn (n + 1) machine other) : AgreeOn n machine other where
  words record executed := agree.words record <| by
    rw [retirements_concat]
    exact List.mem_append_left _ executed
  bytes address loaded := agree.bytes address <| by
    rw [retirements_concat]
    exact loaded.append _

/-- They agree on every shorter run. -/
lemma mono {k : Nat} (shorter : k ≤ n) (agree : AgreeOn n machine other) :
    AgreeOn k machine other := by
  induction shorter with
  | refl => exact agree
  | step _ ih => exact ih agree.pred

end AgreeOn

namespace Alike

/-- **Machines that are alike and agree on the footprint of a run** record the same and end
alike. -/
theorem run (alike : machine.Alike other) (agree : AgreeOn n machine other) :
    (machine.run n).2.Alike (other.run n).2 ∧ (other.run n).1 = (machine.run n).1 ∧
      other.retirements n = machine.retirements n := by
  induction n generalizing machine other with
  | zero => exact ⟨alike, rfl, rfl⟩
  | succ n ih =>
    obtain ⟨alike', record, retirement⟩ := alike.step agree.next
    obtain ⟨last, records, retirements⟩ := ih alike' (agree.behind alike)
    refine ⟨by simpa only [run_succ] using last, ?_, ?_⟩
    · rw [run_succ, run_succ, record, records]
    · rw [retirements_succ, retirements_succ, retirement, retirements]

/-- Their data memories agree in the end where they did in the beginning, and where a byte has been
stored. -/
theorem read_run (alike : machine.Alike other) (agree : AgreeOn n machine other)
    (same : (∃ record ∈ machine.retirements n, record.Stores address) ∨
      other.dmem.read address = machine.dmem.read address) :
    (other.run n).2.dmem.read address = (machine.run n).2.dmem.read address := by
  induction n generalizing machine other with
  | zero => simpa [retirements] using same
  | succ n ih =>
    rw [run_succ, run_succ]
    refine ih (alike.step agree.next).1 (agree.behind alike) ?_
    simp only [retirements_succ, List.mem_cons, exists_eq_or_imp, or_assoc] at same
    obtain first | later | same := same
    · exact .inr (alike.read_step agree.next (.inl first))
    · exact .inl later
    · exact .inr (alike.read_step agree.next (.inr same))

/-- The run costs the same number of cycles. -/
lemma cost_eq (alike : machine.Alike other) (agree : AgreeOn n machine other) (arch : Arch) :
    arch.cost other n = arch.cost machine n := by
  rw [Arch.cost.eq_def, Arch.cost.eq_def, loads, loads, (alike.run agree).2.1]

/-- If it does not fit, as many instructions of it do. -/
lemma retiredWithin_eq (alike : machine.Alike other) (agree : AgreeOn n machine other)
    (arch : Arch) {cycles : Nat} (exceeds : cycles < arch.cost machine n) :
    arch.retiredWithin other cycles = arch.retiredWithin machine cycles := by
  have fits := arch.cost_retiredWithin_le machine cycles
  have next := arch.lt_cost_retiredWithin machine cycles
  have fewer : arch.retiredWithin machine cycles < n :=
    (arch.cost_strictMono machine).lt_iff_lt.mp (by omega)
  refine arch.retiredWithin_eq other ?_ ?_
  · rwa [alike.cost_eq (agree.mono fewer.le)]
  · rwa [alike.cost_eq (agree.mono fewer)]

end Alike

end Machine

/-! ## Two programs -/

/-- A core that retires enough instructions has the data memory of the machine. -/
lemma dmem_of_traceCore {arch : Arch} {options : RunOptions} {program : Program} {n : Nat}
    {run : List Record × Simulator arch.core}
    (retired : traceCore arch.core options program n = .ok run) :
    run.2.dmem = (program.machine.run n).2.dmem := by
  rcases Nat.lt_or_ge options.maxCycles (arch.cost program.machine n) with exceeds | fits
  · rw [traceCore_of_exceeds arch options program exceeds] at retired
    cases retired
  · obtain ⟨simulator, same, shows, -⟩ := traceCore_of_fits arch options program fits
    rw [same] at retired
    cases retired
    exact shows.dmem

/-- **A run sees nothing but its footprint.** If a program agrees with the first one on the words at
the addresses of its instructions, and on the bytes that it loads from where it has not stored
before, then the machine records the same. Each core reports the same records, takes the same number
of cycles and shows the same registers, or it fails in the same way. In the end the data memories
agree where they did in the beginning, and wherever a byte has been stored.

**Proof sketch.** Step by step the two machines stay alike (`Machine.Alike.step`), and agree on what
is left of the footprint (`Machine.AgreeOn.behind`): a byte that is stored is the same in both, and
one that is loaded later without a store before is still the one from the beginning. What a core
does is decided by the machine and by the cost of its instructions. If there are too few cycles,
only a part of the run counts, and its footprint is a part of the whole. -/
theorem traces_of_footprint {first second : Program} {n : Nat}
    (words : ∀ record ∈ (traceMachine first n).1,
      second.imem.read record.pc = first.imem.read record.pc)
    (bytes : ∀ address, LoadedFirst (first.machine.retirements n) address →
      second.dmem.read address = first.dmem.read address) :
    (traceMachine second n).1 = (traceMachine first n).1 ∧
      (∀ (arch : Arch) (options : RunOptions),
        (traceCore arch.core options second n).map (fun (records, simulator) =>
            (records, simulator.cycles, simulator.registers, simulator.programCounter)) =
          (traceCore arch.core options first n).map (fun (records, simulator) =>
            (records, simulator.cycles, simulator.registers, simulator.programCounter))) ∧
      ∀ address, (∃ record ∈ first.machine.retirements n, record.Stores address) ∨
          second.dmem.read address = first.dmem.read address →
        (traceMachine second n).2.dmem.read address =
            (traceMachine first n).2.dmem.read address ∧
          ∀ (arch : Arch) (options : RunOptions) (run run' : List Record × Simulator arch.core),
            traceCore arch.core options first n = .ok run →
              traceCore arch.core options second n = .ok run' →
                run'.2.dmem.read address = run.2.dmem.read address := by
  have alike : first.machine.Alike second.machine := ⟨rfl, rfl, rfl, rfl⟩
  have agree : Machine.AgreeOn n first.machine second.machine := by
    refine ⟨fun record retired => ?_, bytes⟩
    have executed : record.pc ∈ (first.machine.run n).1.map Record.pc := by
      rw [← Machine.map_pc_retirements]
      exact List.mem_map_of_mem retired
    obtain ⟨executed, inside, pc⟩ := List.mem_map.mp executed
    rw [← pc]
    exact words executed inside
  obtain ⟨last, records, retirements⟩ := alike.run agree
  have memory {address : UInt8} (same : (∃ record ∈ first.machine.retirements n,
      record.Stores address) ∨ second.dmem.read address = first.dmem.read address) :
      (second.machine.run n).2.dmem.read address = (first.machine.run n).2.dmem.read address :=
    alike.read_run agree same
  refine ⟨records, fun arch options => ?_, fun address same => ⟨memory same, ?_⟩⟩
  · rcases Nat.lt_or_ge options.maxCycles (arch.cost first.machine n) with exceeds | fits
    · rw [traceCore_of_exceeds arch options first exceeds,
        traceCore_of_exceeds arch options second (by rwa [alike.cost_eq agree]),
        alike.retiredWithin_eq agree arch exceeds]
    · obtain ⟨simulator, run, shows, cycles⟩ := traceCore_of_fits arch options first fits
      obtain ⟨simulator', run', shows', cycles'⟩ :=
        traceCore_of_fits arch options second (n := n) (by rwa [alike.cost_eq agree])
      rw [run, run']
      simp only [Except.map, retirements, cycles, cycles', alike.cost_eq agree, shows.registers,
        shows'.registers, shows.programCounter, shows'.programCounter, last.areg, last.breg,
        last.pfix, last.pc]
  · intro arch options run run' retired retired'
    rw [dmem_of_traceCore retired, dmem_of_traceCore retired']
    exact memory same

/-- Five instructions: a byte is stored at address 7 and loaded back from there through `B`, and the
byte at address 4 is loaded. Nothing else that the second memories hold is seen, not even what had
been at address 7. -/
theorem traces_of_footprint_store_load :
    let first : Program := ⟨.ofList [0x35, 0x27, 0x46, 0x71, 0x04], .ofList [], .empty⟩
    let second : Program :=
      ⟨.ofList [0x35, 0x27, 0x46, 0x71, 0x04, 0xff], .ofList [9, 9, 9, 9, 0, 9, 9, 9], .empty⟩
    (traceMachine second 5).1 = (traceMachine first 5).1 ∧
      (traceMachine second 5).2.dmem.read 7 = (traceMachine first 5).2.dmem.read 7 := by
  intro first second
  have words : ∀ record ∈ (traceMachine first 5).1,
      second.imem.read record.pc = first.imem.read record.pc := by
    decide +kernel
  have bytes (address : UInt8) : LoadedFirst (first.machine.retirements 5) address →
      second.dmem.read address = first.dmem.read address := by
    refine forall_byte (P := fun address => LoadedFirst (first.machine.retirements 5) address →
      second.dmem.read address = first.dmem.read address) ?_ address
    decide +kernel
  obtain ⟨records, -, memory⟩ := traces_of_footprint words bytes
  exact ⟨records, (memory 7 (.inl (by decide +kernel))).1⟩

end Hex8
