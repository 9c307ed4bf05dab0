import Hex8.Proofs.Resets

set_option relaxedAutoImplicit false
set_option autoImplicit false

/-!
# Records that agree with their operations

A record says which operation has retired, and what has happened to the data memory. The second
follows from the first: the operation decides whether there was an access and of which kind, a
stored byte is the register `A`, and a loaded byte is in the register that the operation fills. The
tracer does not look at the operation for that. It takes the access from the requests of one cycle,
and the registers and the byte of a load from those of the next one.

## Main definitions

* `Hex8.Opcode.filled?` — the register that a load fills.
* `Hex8.Record.WellFormed` — a record agrees with its operation.

## Main results

* `Hex8.Machine.wellFormed_step`, `Hex8.Machine.wellFormed_retirement` — the records of one
  instruction agree with its operation.
* `Hex8.Core.Pacing.Follows.exists_of_mem_sampleAll` — under any schedule a tracer reports
  instructions of the reference machine, and nothing else.
* `Hex8.wellFormed_records` — every record agrees with its operation.
-/

namespace Hex8

/-- The register that a load fills. -/
def Opcode.filled? : Opcode → Option Register
  | ldam | ldai => some .a
  | ldbm | ldbi => some .b
  | _ => none

/-- A register as a record shows it. -/
def Record.register (record : Record) : Register → UInt8
  | .a => record.areg
  | .b => record.breg

/-- Whether a record agrees with its operation. -/
structure Record.WellFormed (record : Record) : Prop where
  /-- The operation decides about the kind of access. -/
  memory : record.memory = record.inst.op.access
  /-- Without an access there is neither an address nor a byte. -/
  nothing (idle : record.memory = .nothing) : record.address = 0 ∧ record.data = 0
  /-- What is stored is the register `A`. -/
  stored (stores : record.inst.op = .stam ∨ record.inst.op = .stai) : record.data = record.areg
  /-- What is loaded is in the register that the operation fills. -/
  loaded {destination : Register} (fills : record.inst.op.filled? = some destination) :
    record.data = record.register destination

/-! ## One instruction -/

namespace Machine

/-- **The record of a step agrees with its operation.** -/
theorem wellFormed_step (machine : Machine) : machine.step.1.WellFormed := by
  constructor
  all_goals
    cases op : machine.inst.op <;>
      simp [step, effect, op, Opcode.access, Opcode.filled?, Record.register]
  -- what is left are conditional branches, taken or not
  all_goals
    split <;> simp

/-- **So does the record with the address that is used.** Only an access has one. -/
theorem wellFormed_retirement (machine : Machine) : machine.retirement.WellFormed := by
  obtain ⟨memory, nothing, stored, loaded⟩ := machine.wellFormed_step
  rw [retirement, Record.effective]
  rcases base : machine.step.1.inst.op.base? with _ | base
  · exact ⟨memory, nothing, stored, loaded⟩
  · refine ⟨memory, fun idle => ?_, stored, loaded⟩
    -- every operation with a base register uses the data memory
    rw [memory] at idle
    cases op : machine.step.1.inst.op <;> simp_all [Opcode.base?, Opcode.access]

end Machine

/-! ## Several cycles -/

/-- What retires in a cycle is an instruction of the reference machine. -/
lemma Progress.exists_of_mem_report {progress : Progress} {record : Record}
    (inside : record ∈ progress.report) : ∃ machine : Machine, record = machine.retirement := by
  rcases progress with machine | machine | ⟨machine, isLoad⟩
  · cases inside
  · rw [report] at inside
    split at inside
    · cases inside
    · exact ⟨machine, List.mem_singleton.mp inside⟩
  · exact ⟨machine, List.mem_singleton.mp inside⟩

/-- **Under any schedule a tracer reports instructions of the reference machine.**

**Proof sketch.** Induction on the schedule. A cycle out of reset reports what retires in it, and a
cycle in reset reports nothing and starts over. -/
theorem Core.Pacing.Follows.exists_of_mem_sampleAll {core : Core} {pacing : core.Pacing}
    {progress : Progress} {simulator : Simulator core} {tracer : Tracer}
    (h : pacing.Follows progress simulator tracer) (schedule : List Bool) :
    ∀ record ∈ (tracer.sampleAll (simulator.runSchedule schedule).1).2,
      ∃ machine : Machine, record = machine.retirement := by
  induction schedule generalizing progress simulator tracer with
  | nil => exact fun record inside => absurd inside List.not_mem_nil
  | cons reset schedule ih =>
    intro record inside
    rw [Simulator.runSchedule, Tracer.sampleAll] at inside
    dsimp only at inside
    rw [List.mem_append] at inside
    rcases reset with _ | _
    · obtain ⟨follows, records⟩ := (h.setReset false).step rfl
      rw [records] at inside
      exact inside.elim Progress.exists_of_mem_report (ih follows record)
    · obtain ⟨follows, records⟩ := pacing.follows_of_reset (simulator.setReset true) tracer rfl
      rw [records] at inside
      exact inside.elim (fun nothing => absurd nothing List.not_mem_nil) (ih follows record)

/-- **Every record agrees with its operation**, whether the reference machine reports it in any of
its states, or a tracer that has watched a core from its first cycle on, whatever the program and
whenever the core is reset.

**Proof sketch.** For the machine this is a matter of single operations
(`Machine.wellFormed_step`). What the tracer reports are the same records
(`Core.Pacing.Follows.exists_of_mem_sampleAll`), but for the addresses
(`Machine.wellFormed_retirement`). -/
theorem wellFormed_records :
    (∀ machine : Machine, machine.step.1.WellFormed) ∧
      ∀ (arch : Arch) (imem dmem : Memory) (schedule : List Bool),
        ∀ record ∈ (Tracer.initial.sampleAll
            ((Simulator.ofMemory arch.core imem dmem).runSchedule schedule).1).2,
          record.WellFormed := by
  refine ⟨Machine.wellFormed_step, fun arch imem dmem schedule record inside => ?_⟩
  have follows := arch.pacing.follows_ofMemory imem dmem
  obtain ⟨machine, rfl⟩ := follows.exists_of_mem_sampleAll schedule record inside
  exact machine.wellFormed_retirement

end Hex8
