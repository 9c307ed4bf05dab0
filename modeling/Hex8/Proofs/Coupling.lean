import Hex8.Proofs.BusOrder

set_option relaxedAutoImplicit false
set_option autoImplicit false

/-!
# A core and its tracer

Whatever a core has been through, resets in any cycle included, its registers, the answer of its
instruction memory and what its tracer remembers fit together: the tracer expects an instruction
exactly if the core is about to execute one, and a byte exactly if the core is about to take one.
Both never happen in one cycle, so a register is never filled by a load while an instruction works
with it, and never more than one instruction retires.

## Main definitions

* `Hex8.Progress.Regular` — what holds of the progress of a core at any time.
* `Hex8.Pipelined.Coupled`, `Hex8.Sequential.Coupled`, `Hex8.Arch.Coupled` — how the registers of a
  core, its memories and its tracer fit together.

## Main results

* `Hex8.Progress.Regular.next` — progress stays regular.
* `Hex8.Core.Pacing.Follows.exists_of_schedule` — a core makes regular progress under any schedule.
* `Hex8.Arch.coupled_sample` — a core and its tracer fit together after every sample.

## Design

The invariant that is kept by every cycle is one of the progress, and the same for both cores. What
it says about registers and about the tracer is read off the progress afterwards.
-/

namespace Hex8

/-! ## The progress of a core -/

/-- Only four bits of a prefix are ever set. -/
lemma Machine.pfix_step_le (machine : Machine) : machine.step.2.pfix ≤ 0xf := by
  have small : machine.inst.imm ≤ 0xf := Inst.imm_decode_le _
  cases op : machine.inst.op <;>
    simp [step, effect, op, apply_ite Effect.pfix, small]

namespace Progress

variable {overlapped : Bool}

/-- What holds of the progress of a core with the given instructions at any time. -/
structure Regular (overlapped : Bool) (imem : Memory) (progress : Progress) : Prop where
  /-- The instructions are the given ones. -/
  image : progress.machine.imem = imem
  /-- Only four bits of the prefix are set. -/
  pfix_le : progress.machine.pfix ≤ 0xf
  /-- A core that overlaps fetch and execution has requested every instruction but the first. -/
  first {machine : Machine} (overlaps : overlapped = true) (idle : progress = .idle machine) :
    ∃ dmem, machine = .ofMemory imem dmem

/-- A core that starts over makes regular progress. -/
lemma regular_ofMemory (imem dmem : Memory) :
    Regular overlapped imem (.idle (.ofMemory imem dmem)) where
  image := rfl
  pfix_le := by
    change (0 : UInt8) ≤ 0xf
    decide
  first _ idle := by
    cases idle
    exact ⟨dmem, rfl⟩

/-- The next instruction starts regularly. -/
lemma regular_ready {imem : Memory} {machine : Machine} (image : machine.imem = imem) :
    Regular overlapped imem (ready overlapped machine.step.2) where
  image := by rw [machine_ready, Machine.imem_step, image]
  pfix_le := by
    rw [machine_ready]
    exact machine.pfix_step_le
  first overlaps idle := by
    rw [ready, if_pos overlaps] at idle
    cases idle

/-- **Progress stays regular.** -/
theorem Regular.next {imem : Memory} {progress : Progress} (h : Regular overlapped imem progress) :
    Regular overlapped imem (progress.next overlapped) := by
  rcases progress with machine | machine | ⟨machine, isLoad⟩
  · exact ⟨h.image, h.pfix_le, fun _ idle => nomatch idle⟩
  · by_cases isLoad : machine.isLoad = true
    · rw [next_fetched_of_isLoad overlapped isLoad]
      exact ⟨h.image, h.pfix_le, fun _ idle => nomatch idle⟩
    · rw [next_fetched_of_not_isLoad overlapped isLoad]
      exact regular_ready h.image
  · exact regular_ready h.image

/-- At most one instruction retires in a cycle. -/
lemma length_report_le (progress : Progress) : progress.report.length ≤ 1 := by
  rcases progress with machine | machine | ⟨machine, isLoad⟩
  · exact Nat.zero_le _
  · rw [report]
    split
    · exact Nat.zero_le _
    · exact le_rfl
  · exact le_rfl

end Progress

/-! ## Under any schedule -/

namespace Core.Pacing

variable {core : Core} {pacing : core.Pacing} {progress : Progress} {simulator : Simulator core}
  {tracer : Tracer} {imem : Memory}

/-- **One cycle under a schedule** is one of regular progress, or begins anew, and at most one
instruction retires in it. -/
theorem Follows.exists_of_cycle (h : pacing.Follows progress simulator tracer)
    (regular : progress.Regular pacing.overlapped imem) (reset : Bool) :
    let cycle := (simulator.setReset reset).step
    let sampled := tracer.sample cycle.signals
    (∃ progress', progress'.Regular pacing.overlapped imem ∧
        pacing.Follows progress' cycle sampled.1) ∧
      sampled.2.length ≤ 1 := by
  intro cycle sampled
  cases reset with
  | false =>
    obtain ⟨follows, records⟩ := (h.setReset false).step rfl
    refine ⟨⟨_, regular.next, follows⟩, ?_⟩
    exact records.symm ▸ progress.length_report_le
  | true =>
    obtain ⟨follows, records⟩ := pacing.follows_of_reset (simulator.setReset true) tracer rfl
    have image : (simulator.setReset true).units.imem.image = imem :=
      h.served.imem.trans regular.image
    rw [image] at follows
    exact ⟨⟨_, Progress.regular_ofMemory imem _, follows⟩, by simp [sampled, cycle, records]⟩

/-- **A core makes regular progress under any schedule.** -/
theorem Follows.exists_of_schedule (h : pacing.Follows progress simulator tracer)
    (regular : progress.Regular pacing.overlapped imem) (schedule : List Bool) :
    let watched := simulator.runSchedule schedule
    ∃ progress', progress'.Regular pacing.overlapped imem ∧
      pacing.Follows progress' watched.2 (tracer.sampleAll watched.1).1 := by
  induction schedule generalizing progress simulator tracer with
  | nil => exact ⟨progress, regular, h⟩
  | cons reset schedule ih =>
    obtain ⟨⟨progress', regular', follows⟩, -⟩ := h.exists_of_cycle regular reset
    exact ih follows regular'

end Core.Pacing

/-! ## Registers, memories and tracer -/

/-- How the registers of the pipelined core, its instruction memory with the given content, and its
tracer fit together. -/
structure Pipelined.Coupled (imem : Memory) (state : State) (units : Units) (tracer : Tracer) :
    Prop where
  /-- Only four bits of the prefix are set. -/
  pfix_le : state.pfix ≤ 0xf
  /-- No instruction executes while the byte of a load arrives. -/
  exclusive : ¬(state.executing = true ∧ state.loading.isSome = true)
  /-- With neither of these, the core has just been reset. -/
  start : state.executing = false → state.loading = none → state = .afterReset
  /-- The latest fetch is that of the instruction that executes. -/
  pc_eq : state.executing = true → state.pc = state.executePc
  /-- Its word has arrived. -/
  word_eq : state.executing = true → units.imem.response = imem.read state.executePc
  /-- The tracer expects an instruction exactly if the core executes one. -/
  fetching_eq : tracer.fetching = if state.executing then some state.executePc else none
  /-- It expects a byte exactly if the core takes one. -/
  loading_iff : tracer.loading.isSome = true ↔ state.loading.isSome = true
  /-- No prefix is pending then. -/
  pfix_eq : state.loading.isSome = true → state.pfix = 0

/-- How the registers of the sequential core, its instruction memory with the given content, and its
tracer fit together. -/
structure Sequential.Coupled (imem : Memory) (state : State) (units : Units) (tracer : Tracer) :
    Prop where
  /-- Only four bits of the prefix are set. -/
  pfix_le : state.pfix ≤ 0xf
  /-- The tracer expects an instruction exactly if the core executes one. -/
  fetching_eq : tracer.fetching = if state.phase = .execute then some state.pc else none
  /-- The word of that instruction has arrived. -/
  word_eq : state.phase = .execute → units.imem.response = imem.read state.pc
  /-- The tracer expects a byte exactly if the core takes one. -/
  loading_iff : tracer.loading.isSome = true ↔ ∃ destination, state.phase = .memory destination
  /-- No prefix is pending then. -/
  pfix_eq : (∃ destination, state.phase = .memory destination) → state.pfix = 0
  /-- The tracer expects nothing exactly if the core requests the next instruction. -/
  idle_iff : tracer.isIdle = true ↔ state.phase = .fetch

/-- How the registers of a core, its memories and its tracer fit together. -/
def Arch.Coupled (imem : Memory) : (arch : Arch) → arch.core.State → Units → Tracer → Prop
  | sequential => Sequential.Coupled imem
  | pipelined => Pipelined.Coupled imem

/-- Regular progress says all this of the pipelined core. -/
theorem Pipelined.coupled_of_follows {imem : Memory} {progress : Progress}
    {simulator : Simulator Pipelined.core} {tracer : Tracer}
    (follows : pacing.Follows progress simulator tracer)
    (regular : progress.Regular true imem) :
    Coupled imem simulator.next simulator.units tracer := by
  have next : simulator.next = stateOf progress := follows.next_eq
  have answered := follows.served.answered
  rw [next, follows.tracer_eq]
  rcases progress with machine | machine | ⟨machine, isLoad⟩
  · obtain ⟨dmem, rfl⟩ := regular.first rfl rfl
    exact
      { pfix_le := regular.pfix_le
        exclusive := fun both => nomatch both.1
        start := fun _ _ => rfl
        pc_eq := nofun
        word_eq := nofun
        fetching_eq := rfl
        loading_iff := Iff.rfl
        pfix_eq := nofun }
  · have word : simulator.units.imem.response = imem.read machine.pc := by
      rw [← regular.image]
      exact answered
    exact
      { pfix_le := regular.pfix_le
        exclusive := fun both => nomatch both.2
        start := nofun
        pc_eq := fun _ => rfl
        word_eq := fun _ => word
        fetching_eq := rfl
        loading_iff := Iff.rfl
        pfix_eq := nofun }
  · obtain ⟨destination, address, request, -⟩ := machine.request_of_isLoad isLoad
    have loading : (stateOf (.loading machine isLoad)).loading = some destination := by
      rw [stateOf, request]
      rfl
    have pfix : machine.step.2.pfix = 0 :=
      machine.pfix_step.trans (machine.answer_of_isLoad isLoad).2.2
    exact
      { pfix_le := machine.pfix_step_le
        exclusive := fun both => Bool.false_ne_true both.1
        start := fun _ none => by cases loading.symm.trans none
        pc_eq := fun executing => absurd executing Bool.false_ne_true
        word_eq := fun executing => absurd executing Bool.false_ne_true
        fetching_eq := rfl
        loading_iff := by
          rw [loading]
          exact Iff.rfl
        pfix_eq := fun _ => pfix }

/-- Regular progress says all this of the sequential core. -/
theorem Sequential.coupled_of_follows {imem : Memory} {progress : Progress}
    {simulator : Simulator Sequential.core} {tracer : Tracer}
    (follows : pacing.Follows progress simulator tracer)
    (regular : progress.Regular false imem) :
    Coupled imem simulator.next simulator.units tracer := by
  have next : simulator.next = stateOf progress := follows.next_eq
  have answered := follows.served.answered
  rw [next, follows.tracer_eq]
  rcases progress with machine | machine | ⟨machine, isLoad⟩
  · exact
      { pfix_le := regular.pfix_le
        fetching_eq := rfl
        word_eq := nofun
        loading_iff := ⟨nofun, nofun⟩
        pfix_eq := nofun
        idle_iff := ⟨fun _ => rfl, fun _ => rfl⟩ }
  · have word : simulator.units.imem.response = imem.read machine.pc := by
      rw [← regular.image]
      exact answered
    exact
      { pfix_le := regular.pfix_le
        fetching_eq := rfl
        word_eq := fun _ => word
        loading_iff := ⟨nofun, nofun⟩
        pfix_eq := nofun
        idle_iff := ⟨nofun, nofun⟩ }
  · obtain ⟨destination, address, request, -⟩ := machine.request_of_isLoad isLoad
    have phase : (stateOf (.loading machine isLoad)).phase = .memory destination := by
      rw [stateOf, request]
      rfl
    have pfix : machine.step.2.pfix = 0 :=
      machine.pfix_step.trans (machine.answer_of_isLoad isLoad).2.2
    exact
      { pfix_le := machine.pfix_step_le
        fetching_eq := by
          rw [phase]
          rfl
        word_eq := fun execute => by cases phase.symm.trans execute
        loading_iff := ⟨fun _ => ⟨destination, phase⟩, fun _ => rfl⟩
        pfix_eq := fun _ => pfix
        idle_iff := ⟨fun idle => absurd idle Bool.false_ne_true,
          fun fetch => by cases phase.symm.trans fetch⟩ }

/-- **A core and its tracer fit together after every sample**, whatever the resets in front of it
and in its own cycle, and no sample reports more than one instruction.

**Proof sketch.** Under any schedule the core makes regular progress
(`Core.Pacing.Follows.exists_of_schedule`), which says how everything fits together
(`Pipelined.coupled_of_follows`, `Sequential.coupled_of_follows`). One more cycle is one more step
of the same kind. -/
theorem Arch.coupled_sample (arch : Arch) (imem dmem : Memory) (history : List Bool)
    (reset : Bool) :
    let earlier := (Simulator.ofMemory arch.core imem dmem).runSchedule history
    let simulator := (earlier.2.setReset reset).step
    let sampled := (Tracer.initial.sampleAll earlier.1).1.sample simulator.signals
    arch.Coupled imem simulator.next simulator.units sampled.1 ∧ sampled.2.length ≤ 1 := by
  intro earlier simulator sampled
  obtain ⟨progress, regular, follows⟩ := (arch.pacing.follows_ofMemory imem dmem).exists_of_schedule
    (Progress.regular_ofMemory imem dmem) history
  obtain ⟨⟨progress', regular', follows'⟩, single⟩ := follows.exists_of_cycle regular reset
  refine ⟨?_, single⟩
  cases arch with
  | sequential => exact Sequential.coupled_of_follows follows' regular'
  | pipelined => exact Pipelined.coupled_of_follows follows' regular'

end Hex8
