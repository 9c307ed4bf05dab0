import Hex8.Proofs.Timing
import Hex8.Trace.Run

set_option relaxedAutoImplicit false
set_option autoImplicit false

/-!
# Traces of cores

The records that a lazy tracer collects from a core are those of the reference machine, and the
core is stopped in the very cycle in which the last of them is found. At that moment it shows the
state of the machine, and no later instruction has had any effect.

## Main definitions

* `Hex8.Simulator.Shows` — a simulated core shows the state of a machine.
* `Hex8.Progress.after` — the progress when several instructions have retired.

## Main results

* `Hex8.Core.Pacing.Follows.take_of_fits`, `Hex8.Core.Pacing.Follows.take_of_exceeds` — the records
  that are found within a number of cycles.
* `Hex8.traceCore_of_fits`, `Hex8.traceCore_of_exceeds` — whether a core retires enough
  instructions in time, and what it has retired.
* `Hex8.traceCore_timing` — the exact number of cycles that this takes.
* `Hex8.traceCore_eq_traceMachine` — whenever it does, its records and its final state are those of
  the reference machine.
-/

namespace Hex8

/-- A simulated core shows the registers, the program counter and the data memory of a machine. -/
structure Simulator.Shows {core : Core} (simulator : Simulator core) (machine : Machine) :
    Prop where
  /-- The registers and the pending prefix. -/
  registers : simulator.registers =
    { areg := machine.areg, breg := machine.breg, pfix := machine.pfix }
  /-- The address of the next instruction. -/
  programCounter : simulator.programCounter = machine.pc
  /-- The data memory. -/
  dmem : simulator.dmem = machine.dmem

/-- The reference machine before the first instruction of a program. -/
def Program.machine (program : Program) : Machine :=
  .ofMemory program.imem program.dmem

namespace Progress

variable (overlapped : Bool)

/-- The progress when `n` more instructions have retired. -/
def after : Nat → Progress → Progress
  | 0, progress => progress
  | n + 1, progress => after n (ready overlapped progress.machine.step.2)

/-- The machine has executed the instructions that have retired. -/
theorem machine_after (n : Nat) (progress : Progress) :
    (progress.after overlapped n).machine = (progress.machine.run n).2 := by
  induction n generalizing progress with
  | zero => rfl
  | succ n ih => rw [after, ih, machine_ready, Machine.run_succ]

/-- No load waits for its byte when the last of the instructions retires. -/
theorem loading?_after (n : Nat) {progress : Progress} (h : progress.loading? = none) :
    (progress.after overlapped n).loading? = none := by
  induction n generalizing progress with
  | zero => exact h
  | succ n ih => exact ih (loading?_ready overlapped _)

end Progress

namespace Core.Pacing

variable {core : Core} {pacing : core.Pacing} {progress : Progress} {simulator : Simulator core}
  {tracer : Tracer}

/-- Between two instructions a core shows the state of the machine. -/
theorem Follows.shows (h : pacing.Follows progress simulator tracer)
    (settled : progress.loading? = none) : simulator.Shows progress.machine := by
  refine ⟨?_, ?_, h.served.dmem⟩
  · rw [Simulator.registers, h.next_eq, pacing.registers_stateOf settled]
  · rw [Simulator.programCounter, h.next_eq, pacing.programCounter_stateOf settled]

/-! ## The records of a clocked core -/

/-- A clocked core that may run on is simulated for one more cycle. -/
lemma next_of_clock (simulator : Simulator core) (tracer : Tracer) (budget : Nat) :
    RecordStream.next ⟨tracer, ({ simulator, budget := budget + 1 } : Clock core), []⟩ =
      RecordStream.next
        ⟨(tracer.sample simulator.step.signals).1,
          ({ simulator := simulator.step, budget } : Clock core),
          (tracer.sample simulator.step.signals).2⟩ :=
  RecordStream.next_of_sample tracer rfl

/-- The next record is found when the next instruction retires.

**Proof sketch.** Induction on the cycles that are left. A cycle in which the instruction retires
yields the record; every other one yields nothing, and the search goes on behind it. -/
theorem Follows.next_of_fits (h : pacing.Follows progress simulator tracer)
    (reset : simulator.reset = false) (budget : Nat) (fits : progress.wait ≤ budget) :
    ∃ simulator' tracer',
      RecordStream.next ⟨tracer, ({ simulator, budget } : Clock core), []⟩ =
        (some progress.machine.retirement,
          ⟨tracer', { simulator := simulator', budget := budget - progress.wait }, []⟩) ∧
      pacing.Follows (.ready pacing.overlapped progress.machine.step.2) simulator' tracer' ∧
      simulator'.reset = false ∧ simulator'.cycles = simulator.cycles + progress.wait := by
  induction budget generalizing progress simulator tracer with
  | zero =>
    have := progress.wait_pos
    omega
  | succ budget ih =>
    obtain ⟨follows, records⟩ := h.step reset
    rw [next_of_clock, records]
    rcases progress.cycle_cases pacing.overlapped with
      ⟨wait, report, next⟩ | ⟨wait, report, same⟩
    · rw [report, RecordStream.next_of_pending, wait, ← next]
      exact ⟨_, _, rfl, follows, reset, rfl⟩
    · rw [report]
      obtain ⟨simulator', tracer', found, follows', reset', cycles⟩ :=
        ih follows reset (by omega)
      rw [same] at found follows'
      refine ⟨simulator', tracer', ?_, follows', reset', ?_⟩
      · rw [found, wait, Nat.add_sub_add_right]
      · rw [cycles, Simulator.cycles_step]
        omega

/-- No record is found if the next instruction does not retire in time. -/
theorem Follows.next_of_exceeds (h : pacing.Follows progress simulator tracer)
    (reset : simulator.reset = false) (budget : Nat) (exceeds : budget < progress.wait) :
    (RecordStream.next ⟨tracer, ({ simulator, budget } : Clock core), []⟩).1 = none := by
  induction budget generalizing progress simulator tracer with
  | zero => rw [RecordStream.next_of_exhausted tracer rfl]
  | succ budget ih =>
    obtain ⟨follows, records⟩ := h.step reset
    rw [next_of_clock, records]
    rcases progress.cycle_cases pacing.overlapped with
      ⟨wait, report, next⟩ | ⟨wait, report, same⟩
    · omega
    · rw [report]
      exact ih follows reset (by omega)

/-- **As many records as fit are found**, and the core stops when the last of them retires. -/
theorem Follows.take_of_fits (h : pacing.Follows progress simulator tracer)
    (reset : simulator.reset = false) {n : Nat} (budget : Nat)
    (fits : progress.cost pacing.overlapped n ≤ budget) :
    ∃ simulator' tracer',
      RecordStream.take n ⟨tracer, ({ simulator, budget } : Clock core), []⟩ =
        (progress.machine.retirements n,
          ⟨tracer', { simulator := simulator'
                      budget := budget - progress.cost pacing.overlapped n }, []⟩) ∧
      pacing.Follows (progress.after pacing.overlapped n) simulator' tracer' ∧
      simulator'.cycles = simulator.cycles + progress.cost pacing.overlapped n := by
  induction n generalizing progress simulator tracer budget with
  | zero => exact ⟨simulator, tracer, rfl, h, rfl⟩
  | succ n ih =>
    rw [Progress.cost] at fits
    obtain ⟨simulator₁, tracer₁, found, follows, reset₁, cycles₁⟩ :=
      h.next_of_fits reset budget (by omega)
    obtain ⟨simulator₂, tracer₂, others, follows₂, cycles₂⟩ :=
      ih follows reset₁ (budget - progress.wait) (by omega)
    rw [Progress.machine_ready] at others
    refine ⟨simulator₂, tracer₂, ?_, follows₂, ?_⟩
    · rw [RecordStream.take_succ, found]
      simp only [others, Progress.cost, Machine.retirements_succ, Nat.sub_sub]
    · rw [cycles₂, cycles₁, Progress.cost, Nat.add_assoc]

/-- **No more records than fit are found.** -/
theorem Follows.take_of_exceeds (h : pacing.Follows progress simulator tracer)
    (reset : simulator.reset = false) {n k : Nat} (budget : Nat) (fewer : k < n)
    (fits : progress.cost pacing.overlapped k ≤ budget)
    (exceeds : budget < progress.cost pacing.overlapped (k + 1)) :
    (RecordStream.take n ⟨tracer, ({ simulator, budget } : Clock core), []⟩).1 =
      progress.machine.retirements k := by
  induction k generalizing progress simulator tracer budget n with
  | zero =>
    obtain ⟨n, rfl⟩ : ∃ n', n = n' + 1 := ⟨n - 1, by omega⟩
    have none := h.next_of_exceeds reset budget (by simpa [Progress.cost] using exceeds)
    rw [RecordStream.take_succ]
    generalize (⟨tracer, { simulator, budget }, []⟩ : RecordStream (Clock core)) = stream at none ⊢
    rcases found : stream.next with ⟨_ | record, rest⟩
    · rfl
    · rw [found] at none
      cases none
  | succ k ih =>
    obtain ⟨n, rfl⟩ : ∃ n', n = n' + 1 := ⟨n - 1, by omega⟩
    rw [Progress.cost] at fits exceeds
    obtain ⟨simulator₁, tracer₁, found, follows, reset₁, -⟩ :=
      h.next_of_fits reset budget (by omega)
    have others := ih follows reset₁ (budget - progress.wait) (n := n) (by omega) (by omega)
      (by omega)
    rw [Progress.machine_ready] at others
    rw [RecordStream.take_succ, found]
    simp only [others, Machine.retirements_succ]

/-! ## The start of a run -/

/-- While a core is held in reset nothing happens. -/
lemma watch_of_reset (pacing : core.Pacing) {imem dmem : Memory} (n : Nat)
    (h : pacing.Follows (.idle (.ofMemory imem dmem)) simulator tracer)
    (reset : simulator.reset = true) :
    pacing.Follows (.idle (.ofMemory imem dmem)) (simulator.watch n tracer).1
        (simulator.watch n tracer).2 ∧
      (simulator.watch n tracer).1.cycles = simulator.cycles + n := by
  induction n generalizing simulator tracer with
  | zero => exact ⟨h, rfl⟩
  | succ n ih =>
    have start := (pacing.follows_of_reset simulator tracer reset).1
    rw [h.served.imem, h.served.dmem] at start
    obtain ⟨follows, cycles⟩ := ih start reset
    refine ⟨follows, ?_⟩
    rw [Simulator.watch, cycles, Simulator.cycles_step]
    omega

/-- The stream of records begins with a core that has not requested anything. -/
theorem recordStream_eq (pacing : core.Pacing) (options : RunOptions) (program : Program) :
    ∃ simulator tracer,
      recordStream core options program =
        ⟨tracer, { simulator, budget := options.maxCycles }, []⟩ ∧
      pacing.Follows (.idle program.machine) simulator tracer ∧
      simulator.reset = false ∧ simulator.cycles = options.resetCycles := by
  have start := (pacing.follows_ofMemory program.imem program.dmem).setReset true
  obtain ⟨follows, cycles⟩ := watch_of_reset pacing options.resetCycles start rfl
  refine ⟨_, _, rfl, follows.setReset false, rfl, ?_⟩
  change ((Simulator.setReset _ true).watch options.resetCycles _).1.cycles = _
  rw [cycles]
  exact Nat.zero_add _

end Core.Pacing

/-! ## Traces -/

variable (arch : Arch) (options : RunOptions) (program : Program) {n : Nat}

/-- **A core that is given enough cycles** retires the instructions of the reference machine, shows
its state in the end, and has taken as many cycles as the instructions cost. -/
theorem traceCore_of_fits (fits : arch.cost program.machine n ≤ options.maxCycles) :
    ∃ simulator,
      traceCore arch.core options program n =
        .ok (program.machine.retirements n, simulator) ∧
      simulator.Shows (program.machine.run n).2 ∧
      simulator.cycles = options.resetCycles + arch.cost program.machine n := by
  obtain ⟨simulator, tracer, stream, follows, reset, cycles⟩ :=
    arch.pacing.recordStream_eq options program
  rw [← arch.cost_eq] at fits
  obtain ⟨simulator', tracer', found, follows', cycles'⟩ :=
    follows.take_of_fits reset options.maxCycles fits
  refine ⟨simulator', ?_, ?_, ?_⟩
  · rw [traceCore, stream, found]
    simp
  · have shows := follows'.shows (Progress.loading?_after _ n rfl)
    rwa [Progress.machine_after] at shows
  · rw [cycles', cycles, arch.cost_eq]

/-- **A core that is given too few cycles** has retired as many instructions as fit. -/
theorem traceCore_of_exceeds (exceeds : options.maxCycles < arch.cost program.machine n) :
    traceCore arch.core options program n =
      .error
        { retired := arch.retiredWithin program.machine options.maxCycles
          requested := n, cycles := options.maxCycles } := by
  obtain ⟨simulator, tracer, stream, follows, reset, -⟩ :=
    arch.pacing.recordStream_eq options program
  have fits := arch.cost_retiredWithin_le program.machine options.maxCycles
  have next := arch.lt_cost_retiredWithin program.machine options.maxCycles
  have fewer : arch.retiredWithin program.machine options.maxCycles < n :=
    (arch.cost_strictMono program.machine).lt_iff_lt.mp (by omega)
  rw [← arch.cost_eq] at fits next
  have found := follows.take_of_exceeds reset options.maxCycles fewer fits next
  rw [Progress.machine_idle] at found
  rw [traceCore, stream]
  simp [found, fewer]

/-- **A core that retires enough instructions does what the reference machine does.** Its records
are those of the machine, except that an indexed operation is reported with its effective address,
and in the end it shows the state of the machine behind the last of them.

**Proof sketch.** A core that has been given too few cycles reports that it has
(`traceCore_of_exceeds`), so it has been given enough (`traceCore_of_fits`). -/
theorem traceCore_eq_traceMachine {records : List Record} {simulator : Simulator arch.core}
    (h : traceCore arch.core options program n = .ok (records, simulator)) :
    records = (traceMachine program n).1.mapIdx
        (fun i record => record.effective (traceMachine program i).2) ∧
      simulator.registers =
        { areg := (traceMachine program n).2.areg, breg := (traceMachine program n).2.breg
          pfix := (traceMachine program n).2.pfix } ∧
      simulator.programCounter = (traceMachine program n).2.pc ∧
      simulator.dmem = (traceMachine program n).2.dmem := by
  rcases Nat.lt_or_ge options.maxCycles (arch.cost program.machine n) with exceeds | fits
  · rw [traceCore_of_exceeds arch options program exceeds] at h
    cases h
  · obtain ⟨simulator', run, shows, -⟩ := traceCore_of_fits arch options program fits
    rw [run] at h
    cases h
    exact ⟨rfl, shows.registers, shows.programCounter, shows.dmem⟩

/-- Five instructions on the pipelined core, which is never reset and stops in its last cycle: the
byte 7 is stored at `B + 2`, where `B` has been loaded with a prefix, and is loaded back from there
into `B` itself. -/
theorem traceCore_indexed_store_load :
    ∃ records simulator,
      traceCore Arch.pipelined.core { maxCycles := 7, resetCycles := 0 }
          (.ofWords [0x37, 0xf1, 0x4f, 0x82, 0x72]) 5 = .ok (records, simulator) ∧
        records.map Record.address = [0, 0, 0, 0x21, 0x21] ∧
        simulator.registers = { areg := 7, breg := 7, pfix := 0 } ∧
        simulator.programCounter = 5 ∧ simulator.dmem.read 0x21 = 7 := by
  obtain ⟨simulator, run, -⟩ :=
    traceCore_of_fits .pipelined { maxCycles := 7, resetCycles := 0 }
      (.ofWords [0x37, 0xf1, 0x4f, 0x82, 0x72]) (n := 5) (by decide +kernel)
  obtain ⟨records, registers, programCounter, dmem⟩ :=
    traceCore_eq_traceMachine .pipelined _ _ run
  refine ⟨_, simulator, run, ?_, ?_, ?_, ?_⟩
  · rw [records]
    decide +kernel
  · rw [registers]
    decide +kernel
  · rw [programCounter]
    decide +kernel
  · rw [dmem]
    decide +kernel

end Hex8
