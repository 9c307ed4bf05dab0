import Hex8.Proofs.Timing

set_option relaxedAutoImplicit false
set_option autoImplicit false

/-!
# Cores that are reset again and again

A core can be put into reset in any cycle. Whatever it was about to do is lost, and it starts over
on the data memory as it is. Nothing of an instruction that was cut off can be seen, neither in the
records nor in the data memory, because an instruction that stores retires in the very cycle in
which it does so.

## Main definitions

* `Hex8.Simulator.runSchedule` — several cycles, each of them in reset or out of it.
* `Hex8.freeRuns` — how long a core is out of reset each time.
* `Hex8.Arch.restarts` — what the reference machine does if it is started over for each of several
  runs.

## Main results

* `Hex8.Progress.run_idle` — what retires in a run, and the data memory behind it.
* `Hex8.Core.Pacing.Follows.runSchedule` — what a core does from the middle of a run on.
* `Hex8.Arch.runSchedule_eq_restarts` — what a core does that is reset at any time.
-/

namespace Hex8

/-- Simulates one cycle for each entry of a schedule, which says whether the core is in reset during
the cycle. Collects the samples. -/
def Simulator.runSchedule {core : Core} :
    List Bool → Simulator core → List Signals × Simulator core
  | [], simulator => ([], simulator)
  | reset :: schedule, simulator =>
    let cycle := (simulator.setReset reset).step
    let (samples, last) := cycle.runSchedule schedule
    (cycle.signals :: samples, last)

/-- The lengths of the runs of a schedule, which are what is left of it when it is split at every
cycle in reset. -/
def freeRuns (schedule : List Bool) : List Nat :=
  ((schedule.splitOn true).filter (· ≠ [])).map List.length

/-- The records and the data memory behind several runs of the given lengths. In each of them the
reference machine starts over on the data memory that the one before has left, and executes as many
instructions as fit. -/
def Arch.restarts (arch : Arch) (imem : Memory) : List Nat → Memory → List Record × Memory
  | [], dmem => ([], dmem)
  | cycles :: runs, dmem =>
    let machine := Machine.ofMemory imem dmem
    let n := arch.retiredWithin machine cycles
    let (records, last) := arch.restarts imem runs (machine.run n).2.dmem
    (machine.retirements n ++ records, last)

/-! ## One run -/

/-- What retires in a run, and the data memory behind it. -/
theorem Progress.run_idle (arch : Arch) (machine : Machine) (cycles : Nat) :
    ((idle machine).run arch.pacing.overlapped cycles).1 =
        machine.retirements (arch.retiredWithin machine cycles) ∧
      ((idle machine).run arch.pacing.overlapped cycles).2.machine =
        (machine.run (arch.retiredWithin machine cycles)).2 := by
  obtain ⟨n, records, last, fits, exceeds⟩ :=
    Progress.run_eq arch.pacing.overlapped cycles (.idle machine)
  rw [arch.cost_eq] at fits exceeds
  rw [arch.retiredWithin_eq machine fits exceeds]
  exact ⟨records, last⟩

namespace Arch

variable (arch : Arch) (imem : Memory)

/-- The first run, as a core goes through it, and the others. -/
lemma restarts_cons (cycles : Nat) (runs : List Nat) (dmem : Memory) :
    arch.restarts imem (cycles :: runs) dmem =
      let run := (Progress.idle (.ofMemory imem dmem)).run arch.pacing.overlapped cycles
      let others := arch.restarts imem runs run.2.machine.dmem
      (run.1 ++ others.1, others.2) := by
  obtain ⟨records, last⟩ := Progress.run_idle arch (.ofMemory imem dmem) cycles
  simp only [records, last]
  rfl

/-- Nothing happens in a run of no cycles. -/
lemma restarts_zero_cons (runs : List Nat) (dmem : Memory) :
    arch.restarts imem (0 :: runs) dmem = arch.restarts imem runs dmem := by
  rw [restarts_cons]
  rfl

/-- The pieces between two cycles in reset that follow each other do not count. -/
lemma restarts_filter (pieces : List (List Bool)) (dmem : Memory) :
    arch.restarts imem ((pieces.filter (· ≠ [])).map List.length) dmem =
      arch.restarts imem (pieces.map List.length) dmem := by
  induction pieces generalizing dmem with
  | nil => rfl
  | cons piece pieces ih =>
    rcases piece with _ | ⟨reset, piece⟩
    · rw [List.filter_cons_of_neg (by simp), List.map_cons, List.length_nil, restarts_zero_cons]
      exact ih dmem
    · rw [List.filter_cons_of_pos (by simp), List.map_cons, List.map_cons, restarts_cons,
        restarts_cons]
      simp only [ih]

end Arch

/-! ## All runs -/

variable {arch : Arch} {progress : Progress} {simulator : Simulator arch.core} {tracer : Tracer}

/-- **What a core does from the middle of a run on.** The run goes on until the first cycle in
reset, and every piece of the schedule behind that is a run of its own.

**Proof sketch.** Induction on the schedule. A cycle out of reset is a cycle of progress. A cycle in
reset ends the run: the progress is lost, the memories are not, and the next piece begins. -/
theorem Core.Pacing.Follows.runSchedule (h : arch.pacing.Follows progress simulator tracer)
    {schedule : List Bool} {run : List Bool} {others : List (List Bool)}
    (split : schedule.splitOn true = run :: others) :
    let now := progress.run arch.pacing.overlapped run.length
    let later := arch.restarts progress.machine.imem (others.map List.length) now.2.machine.dmem
    (tracer.sampleAll (simulator.runSchedule schedule).1).2 = now.1 ++ later.1 ∧
      (simulator.runSchedule schedule).2.dmem = later.2 := by
  induction schedule generalizing progress simulator tracer run others with
  | nil =>
    cases split
    exact ⟨rfl, h.served.dmem⟩
  | cons reset schedule ih =>
    obtain ⟨run', others', split'⟩ :=
      List.exists_cons_of_ne_nil (List.splitOnP_ne_nil (· == true) schedule)
    rw [List.splitOn, List.splitOnP_cons_eq_if_modifyHead, split'] at split
    rcases reset with _ | _
    · -- the run goes on
      cases split
      obtain ⟨follows, records⟩ := (h.setReset false).step rfl
      obtain ⟨found, dmem⟩ := ih follows split'
      rw [Progress.imem_next] at found dmem
      refine ⟨?_, dmem⟩
      simp only [Simulator.runSchedule, Tracer.sampleAll, records, found, List.length_cons,
        Progress.run_succ, List.append_assoc]
    · -- the next run begins
      cases split
      obtain ⟨follows, records⟩ :=
        arch.pacing.follows_of_reset (simulator.setReset true) tracer rfl
      rw [Simulator.setReset, h.served.imem, h.served.dmem] at follows
      obtain ⟨found, dmem⟩ := ih follows split'
      simp only [List.map_cons, Arch.restarts_cons]
      refine ⟨?_, dmem⟩
      simp only [Simulator.runSchedule, Tracer.sampleAll, records]
      exact found

/-- **A core that is reset at any time** does what the reference machine does if it is started over
in each run out of reset, and executes as many instructions as fit into the run. The data memory is
carried from one run to the next and not changed in between. As any schedule may end here, this
holds after every cycle.

**Proof sketch.** Before the first cycle no instruction has been requested, so the first piece of
the schedule is a run like the others (`Core.Pacing.Follows.runSchedule`). Pieces without a cycle
do not count (`Arch.restarts_filter`). -/
theorem Arch.runSchedule_eq_restarts (arch : Arch) (imem dmem : Memory) (schedule : List Bool) :
    let watched := (Simulator.ofMemory arch.core imem dmem).runSchedule schedule
    ((Tracer.initial.sampleAll watched.1).2, watched.2.dmem) =
        arch.restarts imem (freeRuns schedule) dmem ∧
      (watched.2.setReset true).step.dmem = watched.2.dmem ∧
      ∀ machine cycles,
        IsGreatest {n | arch.cost machine n ≤ cycles} (arch.retiredWithin machine cycles) := by
  obtain ⟨run, others, split⟩ :=
    List.exists_cons_of_ne_nil (List.splitOnP_ne_nil (· == true) schedule)
  obtain ⟨records, last⟩ := (arch.pacing.follows_ofMemory imem dmem).runSchedule split
  refine ⟨?_, ?_, arch.isGreatest_retiredWithin⟩
  · rw [freeRuns, restarts_filter, List.splitOn, split, List.map_cons, restarts_cons]
    exact Prod.ext records last
  · rw [Simulator.step_of_reset _ rfl]
    rfl

end Hex8
