import Hex8.Core.Arch
import Hex8.Proofs.Progress
import Hex8.Simulator

set_option relaxedAutoImplicit false
set_option autoImplicit false

/-!
# Cores that keep pace with the reference machine

A core keeps pace with the reference machine if its pipeline registers are determined by the
progress that it has made, and every cycle drives the wires of that progress and moves on to the
next one. Both cores do. All that is known of them beyond this module is that they do, and whether
they overlap fetch and execution.

## Main definitions

* `Hex8.Core.Pacing` — a core keeps pace with the reference machine.
* `Hex8.Sequential.pacing`, `Hex8.Pipelined.pacing`, `Hex8.Arch.pacing` — the cores do.
* `Hex8.Core.Pacing.Follows` — a simulated core and its tracer have made the given progress.

## Main results

* `Hex8.Core.Pacing.Follows.step` — a cycle is a cycle of progress, and the tracer reports what
  retires in it.
* `Hex8.Core.Pacing.follows_of_reset` — after a reset a core starts over on the memories as they
  are.

## Design

The pipeline registers are given as a function of the progress, and not by a relation, so that a
cycle of a core is an equation between registers and wires.
-/

namespace Hex8

/-- A core keeps pace with the reference machine. -/
structure Core.Pacing (core : Core) where
  /-- Whether an instruction is requested while the one before retires. -/
  overlapped : Bool
  /-- The pipeline registers at the given progress. -/
  stateOf : Progress → core.State
  /-- After a reset the first instruction has not been requested. -/
  stateOf_initial (imem dmem : Memory) :
    stateOf (.idle (.ofMemory imem dmem)) = core.afterReset
  /-- A cycle drives the wires and makes progress. -/
  propagate_stateOf {progress : Progress} {units : Units} (served : progress.Served units) :
    core.propagate (stateOf progress) units default =
      (stateOf (progress.next overlapped), progress.signals overlapped units.imem.response)
  /-- The registers of the machine can be read off, unless a load has not yet written its own. -/
  registers_stateOf {progress : Progress} (h : progress.loading? = none) :
    core.registers (stateOf progress) =
      { areg := progress.machine.areg, breg := progress.machine.breg
        pfix := progress.machine.pfix }
  /-- So can the address of the next instruction. -/
  programCounter_stateOf {progress : Progress} (h : progress.loading? = none) :
    core.programCounter (stateOf progress) = progress.machine.pc

/-- The execute unit answers for the instruction whose word has arrived. -/
lemma Machine.execute_eq_answer (machine : Machine) {word : UInt8}
    (h : word = machine.imem.read machine.pc) :
    Hex8.execute
      { pc := machine.pc, word, areg := machine.areg, breg := machine.breg
        pfix := machine.pfix } = machine.answer := by
  rw [h]
  rfl

/-! ## The sequential core -/

namespace Sequential

/-- The pipeline registers at the given progress. -/
def stateOf : Progress → State
  | .idle machine =>
    { pc := machine.pc, areg := machine.areg, breg := machine.breg, pfix := machine.pfix
      phase := .fetch }
  | .fetched machine =>
    { pc := machine.pc, areg := machine.areg, breg := machine.breg, pfix := machine.pfix
      phase := .execute }
  | .loading machine _ =>
    { pc := machine.step.2.pc, areg := machine.areg, breg := machine.breg
      pfix := machine.step.2.pfix, phase := .afterExecute machine.answer.request }

/-- The cycle in which an instruction executes. -/
lemma propagate_fetched (machine : Machine) {units : Units}
    (served : (Progress.fetched machine).Served units) :
    propagate (stateOf (.fetched machine)) units default =
      (stateOf ((Progress.fetched machine).next false),
        (Progress.fetched machine).signals false units.imem.response) := by
  have out := machine.execute_eq_answer served.answered
  simp only [propagate, advance, stateOf, out, Progress.signals_eq_drive, ← machine.pc_step,
    ← machine.pfix_step]
  by_cases isLoad : machine.isLoad = true
  · obtain ⟨areg, breg, -⟩ := machine.answer_of_isLoad isLoad
    rw [Progress.next_fetched_of_isLoad false isLoad, areg, breg]
    rfl
  · obtain ⟨areg, breg⟩ := machine.registers_step_of_not_isLoad isLoad
    have destination := machine.destination?_of_not_isLoad isLoad
    rw [Progress.next_fetched_of_not_isLoad false isLoad, Phase.afterExecute, destination,
      ← areg, ← breg]
    rfl

/-- The cycle in which the byte of a load arrives. -/
lemma propagate_loading (machine : Machine) (isLoad : machine.isLoad = true) {units : Units}
    (served : (Progress.loading machine isLoad).Served units) :
    propagate (stateOf (.loading machine isLoad)) units default =
      (stateOf ((Progress.loading machine isLoad).next false),
        (Progress.loading machine isLoad).signals false units.imem.response) := by
  have answered : units.dmem.response = machine.retirement.data := served.answered
  obtain ⟨destination, address, request, -, registers⟩ := machine.request_of_isLoad isLoad
  have phase : Phase.afterExecute machine.answer.request = .memory destination := by
    rw [request]
    rfl
  simp only [propagate, advance, stateOf, phase, answered, ← registers,
    Progress.signals_eq_drive]
  rfl

/-- The sequential core keeps pace with the reference machine. -/
def pacing : core.Pacing where
  overlapped := false
  stateOf := stateOf
  stateOf_initial _ _ := rfl
  propagate_stateOf {progress units} served := by
    rcases progress with machine | machine | ⟨machine, isLoad⟩
    · rfl
    · exact propagate_fetched machine served
    · exact propagate_loading machine isLoad served
  registers_stateOf {progress} h := by
    rcases progress with machine | machine | ⟨machine, isLoad⟩
    · rfl
    · rfl
    · exact absurd h (Option.some_ne_none _)
  programCounter_stateOf {progress} h := by
    rcases progress with machine | machine | ⟨machine, isLoad⟩
    · rfl
    · rfl
    · exact absurd h (Option.some_ne_none _)

end Sequential

/-! ## The pipelined core -/

namespace Pipelined

/-- The pipeline registers at the given progress. -/
def stateOf : Progress → State
  | .idle machine =>
    { pc := machine.pc, areg := machine.areg, breg := machine.breg, pfix := machine.pfix
      executing := false, executePc := 0, loading := none }
  | .fetched machine =>
    { pc := machine.pc, areg := machine.areg, breg := machine.breg, pfix := machine.pfix
      executing := true, executePc := machine.pc, loading := none }
  | .loading machine _ =>
    { pc := machine.step.2.pc, areg := machine.areg, breg := machine.breg
      pfix := machine.step.2.pfix, executing := false, executePc := machine.pc
      loading := machine.answer.request.bind Request.destination? }

/-- The cycle in which an instruction executes. -/
lemma propagate_fetched (machine : Machine) {units : Units}
    (served : (Progress.fetched machine).Served units) :
    propagate (stateOf (.fetched machine)) units default =
      (stateOf ((Progress.fetched machine).next true),
        (Progress.fetched machine).signals true units.imem.response) := by
  have out := machine.execute_eq_answer served.answered
  simp only [propagate, complete, advance, stateOf, out, Progress.signals_eq_drive,
    ← machine.pc_step, ← machine.pfix_step, if_true]
  by_cases isLoad : machine.isLoad = true
  · obtain ⟨destination, address, request, -, -⟩ := machine.request_of_isLoad isLoad
    obtain ⟨areg, breg, -⟩ := machine.answer_of_isLoad isLoad
    have stalled : (machine.answer.request.bind Request.destination?).isSome = true := by
      rw [request]
      rfl
    rw [Progress.next_fetched_of_isLoad true isLoad, if_pos stalled, areg, breg]
    rfl
  · obtain ⟨areg, breg⟩ := machine.registers_step_of_not_isLoad isLoad
    have destination := machine.destination?_of_not_isLoad isLoad
    rw [Progress.next_fetched_of_not_isLoad true isLoad, destination, ← areg, ← breg]
    rfl

/-- The cycle in which the byte of a load arrives, and the next instruction is requested. -/
lemma propagate_loading (machine : Machine) (isLoad : machine.isLoad = true) {units : Units}
    (served : (Progress.loading machine isLoad).Served units) :
    propagate (stateOf (.loading machine isLoad)) units default =
      (stateOf ((Progress.loading machine isLoad).next true),
        (Progress.loading machine isLoad).signals true units.imem.response) := by
  have answered : units.dmem.response = machine.retirement.data := served.answered
  obtain ⟨destination, address, request, -, registers⟩ := machine.request_of_isLoad isLoad
  have loading : machine.answer.request.bind Request.destination? = some destination := by
    rw [request]
    rfl
  simp only [propagate, complete, advance, stateOf, loading, answered, ← registers,
    Progress.signals_eq_drive]
  rfl

/-- The pipelined core keeps pace with the reference machine. -/
def pacing : core.Pacing where
  overlapped := true
  stateOf := stateOf
  stateOf_initial _ _ := rfl
  propagate_stateOf {progress units} served := by
    rcases progress with machine | machine | ⟨machine, isLoad⟩
    · rfl
    · exact propagate_fetched machine served
    · exact propagate_loading machine isLoad served
  registers_stateOf {progress} h := by
    rcases progress with machine | machine | ⟨machine, isLoad⟩
    · rfl
    · rfl
    · exact absurd h (Option.some_ne_none _)
  programCounter_stateOf {progress} h := by
    rcases progress with machine | machine | ⟨machine, isLoad⟩
    · rfl
    · rfl
    · exact absurd h (Option.some_ne_none _)

end Pipelined

/-- Every architecture keeps pace with the reference machine. -/
def Arch.pacing : (arch : Arch) → arch.core.Pacing
  | sequential => Sequential.pacing
  | pipelined => Pipelined.pacing

/-! ## Under the eyes of a tracer -/

namespace Core.Pacing

variable {core : Core} (pacing : core.Pacing)

/-- A simulated core and the tracer that watches it have made the given progress. -/
structure Follows (progress : Progress) (simulator : Simulator core) (tracer : Tracer) :
    Prop where
  /-- The pipeline registers are those of the progress. -/
  next_eq : simulator.next = pacing.stateOf progress
  /-- So are the memories. -/
  served : progress.Served simulator.units
  /-- So is what the tracer remembers. -/
  tracer_eq : tracer = progress.tracer tracer.retired

variable {pacing} {progress : Progress} {simulator : Simulator core} {tracer : Tracer}

/-- Releasing a core from reset does not show before the next cycle. -/
theorem Follows.setReset (h : pacing.Follows progress simulator tracer) (reset : Bool) :
    pacing.Follows progress (simulator.setReset reset) tracer :=
  ⟨h.next_eq, h.served, h.tracer_eq⟩

/-- A cycle out of reset drives the wires of the progress. -/
lemma Follows.drive (h : pacing.Follows progress simulator tracer)
    (reset : simulator.reset = false) :
    simulator.initiate.drive =
      (pacing.stateOf (progress.next pacing.overlapped),
        progress.signals pacing.overlapped simulator.units.imem.response) := by
  have free : ¬simulator.initiate.reset = true := by
    rw [Simulator.initiate, reset]
    exact Bool.false_ne_true
  rw [Simulator.drive, if_neg free, ← pacing.propagate_stateOf h.served, ← h.next_eq]
  rfl

/-- **A cycle out of reset is a cycle of progress, and the tracer reports what retires in it.** -/
theorem Follows.step (h : pacing.Follows progress simulator tracer)
    (reset : simulator.reset = false) :
    pacing.Follows (progress.next pacing.overlapped) simulator.step
        (tracer.sample simulator.step.signals).1 ∧
      (tracer.sample simulator.step.signals).2 = progress.report := by
  have cycle : simulator.step.signals =
      progress.signals pacing.overlapped simulator.units.imem.response := by
    rw [Simulator.step, Simulator.propagate, h.drive reset]
  have sampled := Progress.sample_tracer pacing.overlapped h.served tracer.retired
  rw [← h.tracer_eq, ← cycle] at sampled
  rw [sampled]
  refine ⟨⟨?_, ?_, rfl⟩, rfl⟩
  · rw [Simulator.step, Simulator.propagate, h.drive reset]
  · rw [Simulator.step, Simulator.propagate, h.drive reset]
    exact Progress.served_clock pacing.overlapped h.served _

/-- **After a reset a core starts over on the memories as they are.** -/
theorem follows_of_reset (pacing : core.Pacing) (simulator : Simulator core) (tracer : Tracer)
    (reset : simulator.reset = true) :
    pacing.Follows (.idle (.ofMemory simulator.units.imem.image simulator.units.dmem.image))
        simulator.step (tracer.sample simulator.step.signals).1 ∧
      (tracer.sample simulator.step.signals).2 = [] := by
  rw [simulator.step_of_reset reset]
  refine ⟨⟨(pacing.stateOf_initial _ _).symm, ⟨rfl, rfl, trivial⟩, rfl⟩, rfl⟩

/-- A core before its first cycle has not requested anything. -/
theorem follows_ofMemory (pacing : core.Pacing) (imem dmem : Memory) :
    pacing.Follows (.idle (.ofMemory imem dmem)) (.ofMemory core imem dmem) .initial :=
  ⟨(pacing.stateOf_initial imem dmem).symm, ⟨rfl, rfl, trivial⟩, rfl⟩

end Core.Pacing

end Hex8
