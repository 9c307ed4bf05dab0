import Hex8.Bus.Units
import Hex8.Core.Basic
import Hex8.Proofs.Execution
import Hex8.Trace.Tracer

set_option relaxedAutoImplicit false
set_option autoImplicit false

/-!
# The reference machine at the pace of a core

A core takes several cycles for an instruction. What it is doing in a cycle is given by the
reference machine before the instruction that comes next, and by how far the core has come with
that instruction: its word may still have to be requested, it may arrive, or the instruction may
be a load that waits for its byte. In every cycle this progress determines what is on the wires,
what the memories answer and what a tracer still remembers.

```text
idle ──────▶ fetched ──────▶ the next instruction
                └─▶ loading ──▶ the next instruction
```

The cores differ only in where the next instruction starts: a core that overlaps fetch and
execution has already requested its word.

## Main definitions

* `Hex8.Progress` — a machine, and how far a core has come with its next instruction.
* `Hex8.Progress.next`, `Hex8.Progress.report` — one cycle, and the record that it leads to.
* `Hex8.Progress.signals` — the wires during a cycle.
* `Hex8.Progress.Served` — the memories are those of the machine and have answered its requests.
* `Hex8.Progress.tracer` — the tracer that has seen everything so far.

## Main results

* `Hex8.Progress.served_clock` — the memories keep up with the wires.
* `Hex8.Progress.sample_tracer` — so does the tracer, and it reports what retires.
-/

namespace Hex8

/-- A machine, and how far a core has come with its next instruction. -/
inductive Progress
  /-- The word of the instruction has not been requested. -/
  | idle (machine : Machine)
  /-- The word of the instruction arrives in the coming cycle. -/
  | fetched (machine : Machine)
  /-- The byte of the instruction, which is a load, arrives in the coming cycle. -/
  | loading (machine : Machine) (isLoad : machine.isLoad = true)

/-- The wires while an instruction may be requested. -/
def Signals.driveFetch? (signals : Signals) : Option UInt8 → Signals
  | none => signals
  | some address => signals.driveFetch address

namespace Progress

variable (overlapped : Bool)

/-- The machine before the instruction. -/
def machine : Progress → Machine
  | idle machine | fetched machine | loading machine _ => machine

/-- The start of an instruction in the cycle in which the one before retires. -/
def ready (machine : Machine) : Progress :=
  if overlapped then fetched machine else idle machine

/-- The progress after one more cycle. -/
def next : Progress → Progress
  | idle machine => fetched machine
  | fetched machine =>
    if isLoad : machine.isLoad = true then loading machine isLoad
    else ready overlapped machine.step.2
  | loading machine _ => ready overlapped machine.step.2

/-- The record of the instruction that retires in the coming cycle, if one does. -/
def report : Progress → List Record
  | idle _ => []
  | fetched machine => if machine.isLoad then [] else [machine.retirement]
  | loading machine _ => [machine.retirement]

/-- The address of the instruction whose word has been requested. -/
def fetching? : Progress → Option UInt8
  | fetched machine => some machine.pc
  | _ => none

/-- The record of the load that waits for its byte, with the registers before it. -/
def loading? : Progress → Option Record
  | loading machine _ =>
    some { machine.retirement with areg := machine.areg, breg := machine.breg, data := 0 }
  | _ => none

/-- The access to the data memory that is requested in the coming cycle. -/
def request? : Progress → Option Request
  | fetched machine => machine.answer.request
  | _ => none

/-- The byte that a load delivers in the coming cycle, zero without one. -/
def byte : Progress → UInt8
  | loading machine _ => machine.retirement.data
  | _ => 0

/-- The wires during the coming cycle, in which the instruction memory answers `word`. -/
def signals (progress : Progress) (word : UInt8) : Signals :=
  { reset := false
    fetchValid := (progress.next overlapped).fetching?.isSome
    fetchAddress := (progress.next overlapped).fetching?.getD 0
    word
    accessValid := progress.request?.isSome
    accessWrite := progress.request?.elim false Request.isStore
    accessAddress := progress.request?.elim 0 Request.address
    accessData := progress.request?.elim 0 Request.data
    result :=
      { areg := (progress.next overlapped).machine.areg
        breg := (progress.next overlapped).machine.breg
        value := progress.byte } }

/-- What the memories have answered to the requests for the instruction. -/
def Answered (units : Units) : Progress → Prop
  | idle _ => True
  | fetched machine => units.imem.response = machine.imem.read machine.pc
  | loading machine _ => units.dmem.response = machine.retirement.data

/-- The memories are those of the machine, and have answered its requests. -/
structure Served (progress : Progress) (units : Units) : Prop where
  /-- The instruction memory is that of the machine. -/
  imem : units.imem.image = progress.machine.imem
  /-- The data memory is that of the machine. -/
  dmem : units.dmem.image = progress.machine.dmem
  /-- The requests for the instruction have been answered. -/
  answered : progress.Answered units

/-- The tracer that has seen everything so far and counted `retired` instructions. -/
def tracer (progress : Progress) (retired : Nat) : Tracer :=
  { fetching := progress.fetching?, loading := progress.loading?, retired }

/-! ## The machine behind the progress -/

/-- A machine whose instruction has not been asked for is that machine. -/
@[simp] theorem machine_idle (machine : Machine) : (idle machine).machine = machine := rfl

/-- A machine whose instruction has been fetched is that machine. -/
@[simp] theorem machine_fetched (machine : Machine) : (fetched machine).machine = machine := rfl

/-- A machine that waits for a byte has not executed its load yet. -/
@[simp] theorem machine_loading (machine : Machine) (isLoad : machine.isLoad = true) :
    (loading machine isLoad).machine = machine := rfl

/-- Wherever an instruction starts, none of it has been executed. -/
@[simp] theorem machine_ready (machine : Machine) :
    (ready overlapped machine).machine = machine := by
  cases overlapped <;> rfl

/-- An instruction that has been fetched comes from the program counter. -/
@[simp] theorem fetching?_fetched (machine : Machine) :
    (fetched machine).fetching? = some machine.pc := rfl

/-- An instruction that has just been fetched does not wait for a byte. -/
@[simp] theorem loading?_fetched (machine : Machine) : (fetched machine).loading? = none := rfl

/-- No load waits for its byte when an instruction starts. -/
@[simp] theorem loading?_ready (machine : Machine) :
    (ready overlapped machine).loading? = none := by
  cases overlapped <;> rfl

/-- Behind a load, the next cycle waits for its byte. -/
theorem next_fetched_of_isLoad {machine : Machine} (isLoad : machine.isLoad = true) :
    (fetched machine).next overlapped = loading machine isLoad := by
  rw [next, dif_pos isLoad]

/-- Every other instruction retires in the cycle in which it executes. -/
theorem next_fetched_of_not_isLoad {machine : Machine} (isLoad : ¬machine.isLoad = true) :
    (fetched machine).next overlapped = ready overlapped machine.step.2 := by
  rw [next, dif_neg isLoad]

/-- Only a load that has executed waits for its byte. -/
lemma eq_fetched_of_next {progress : Progress} {machine : Machine}
    {isLoad : machine.isLoad = true} (h : progress.next overlapped = loading machine isLoad) :
    progress = fetched machine := by
  rcases progress with before | before | ⟨before, isLoad'⟩
  · simp [next] at h
  · by_cases isLoad' : before.isLoad = true
    · rw [next_fetched_of_isLoad overlapped isLoad'] at h
      obtain rfl := (loading.injEq ..).mp h
      rfl
    · rw [next_fetched_of_not_isLoad overlapped isLoad'] at h
      cases overlapped <;> simp [ready] at h
  · cases overlapped <;> simp [next, ready] at h

/-- The instruction memory stays as it is. -/
theorem imem_next (progress : Progress) :
    (progress.next overlapped).machine.imem = progress.machine.imem := by
  rcases progress with machine | machine | ⟨machine, isLoad⟩
  · rfl
  · by_cases isLoad : machine.isLoad = true
    · rw [next_fetched_of_isLoad overlapped isLoad]
      rfl
    · rw [next_fetched_of_not_isLoad overlapped isLoad]
      simp
  · simp [next]

/-! ## The wires -/

/-- The wires, as a core drives them one after another. -/
theorem signals_eq_drive (progress : Progress) (word : UInt8) :
    progress.signals overlapped word =
      (((({ (default : Signals) with word }.deliver progress.byte).driveRequest?
        progress.request?).driveFetch? (progress.next overlapped).fetching?).commit
          (progress.next overlapped).machine.areg (progress.next overlapped).machine.breg) := by
  rw [signals]
  rcases progress.request? with _ | request <;>
    rcases (progress.next overlapped).fetching? with _ | address <;> rfl

/-! ## The memories -/

/-- The instruction memory answers with the word of the instruction that has been requested. -/
lemma imem_clock (progress : Progress) (units : Units) (word : UInt8)
    (imem : units.imem.image = progress.machine.imem) {machine : Machine}
    (h : progress.next overlapped = fetched machine) :
    (units.clock (progress.signals overlapped word)).imem.response =
      machine.imem.read machine.pc := by
  have same : machine.imem = progress.machine.imem := by
    rw [← imem_next overlapped progress, h, machine_fetched]
  simp [Units.clock, signals, fetching?, h, SyncMemory.load, imem, same]

/-- The data memory takes what is to be stored. -/
lemma dmem_image_clock (progress : Progress) (units : Units) (word : UInt8) :
    (units.clock (progress.signals overlapped word)).dmem.image =
      progress.request?.elim units.dmem.image (Request.commit units.dmem.image) := by
  rcases h : progress.request? with _ | ⟨destination, address⟩ | ⟨address, data⟩ <;>
    simp [Units.clock, signals, h, Request.isStore, Request.address, Request.data,
      Request.commit, SyncMemory.load, SyncMemory.store]

/-- The data memory answers with the byte of the load that has been requested. -/
lemma dmem_response_clock (machine : Machine) (units : Units) (word : UInt8)
    (dmem : units.dmem.image = machine.dmem) (isLoad : machine.isLoad = true) :
    (units.clock ((fetched machine).signals overlapped word)).dmem.response =
      machine.retirement.data := by
  obtain ⟨destination, address, request, data, -⟩ := machine.request_of_isLoad isLoad
  simp [Units.clock, signals, request?, request, Request.isStore, Request.address,
    SyncMemory.load, dmem, data]

/-- **The memories keep up with the wires.** -/
theorem served_clock {progress : Progress} {units : Units} (served : progress.Served units)
    (word : UInt8) :
    (progress.next overlapped).Served (units.clock (progress.signals overlapped word)) := by
  obtain ⟨imem, dmem, answered⟩ := served
  refine ⟨?_, ?_, ?_⟩
  · rw [Units.imem_image_clock, imem_next, imem]
  · rw [dmem_image_clock, dmem]
    rcases progress with machine | machine | ⟨machine, isLoad⟩
    · rfl
    · change machine.answer.request.elim machine.dmem (Request.commit machine.dmem) = _
      rw [← Machine.dmem_step]
      by_cases isLoad : machine.isLoad = true
      · rw [next_fetched_of_isLoad overlapped isLoad, machine_loading,
          machine.dmem_step_of_isLoad isLoad]
      · rw [next_fetched_of_not_isLoad overlapped isLoad, machine_ready]
    · change machine.dmem = _
      rw [next, machine_ready, machine.dmem_step_of_isLoad isLoad]
  · rcases after : progress.next overlapped with machine | machine | ⟨machine, isLoad⟩
    · trivial
    · exact imem_clock overlapped progress units word imem after
    · obtain rfl := eq_fetched_of_next overlapped after
      exact dmem_response_clock overlapped machine units word dmem isLoad

/-! ## The tracer -/

/-- What the wires show of an instruction in the cycle in which it executes: of a load everything
but the byte and the register that it fills, else the whole record. -/
lemma executedOn_signals (machine : Machine) (word : UInt8)
    (h : word = machine.imem.read machine.pc) :
    Record.executedOn ((fetched machine).signals overlapped word) machine.pc =
      if machine.isLoad then
        { machine.retirement with areg := machine.areg, breg := machine.breg, data := 0 }
      else machine.retirement := by
  have inst : Inst.decode word = machine.inst := by rw [h]; rfl
  by_cases isLoad : machine.isLoad = true
  · obtain ⟨destination, address, request, -, -⟩ := machine.request_of_isLoad isLoad
    rw [if_pos isLoad, Machine.retirement_eq]
    simp [Record.executedOn, signals, request?, request, next_fetched_of_isLoad overlapped isLoad,
      inst, Request.isStore, Request.address, Request.access]
  · rw [if_neg isLoad, Machine.retirement_eq]
    obtain request | ⟨address, data, request⟩ := machine.request_of_not_isLoad isLoad
    · simp [Record.executedOn, signals, request?, request,
        next_fetched_of_not_isLoad overlapped isLoad, inst]
    · simp [Record.executedOn, signals, request?, request,
        next_fetched_of_not_isLoad overlapped isLoad, inst, Request.isStore, Request.address,
        Request.access, Request.data, Request.byte]

/-- Only the record of a load is recognised as one. -/
lemma isLoad_retirement (machine : Machine) : machine.retirement.isLoad = machine.isLoad := by
  rw [Machine.retirement_eq, Record.isLoad]
  by_cases isLoad : machine.isLoad = true
  · obtain ⟨destination, address, request, -, -⟩ := machine.request_of_isLoad isLoad
    simp [request, isLoad, Request.access]
  · obtain request | ⟨address, data, request⟩ := machine.request_of_not_isLoad isLoad
    · simp [request, isLoad]
    · simp [request, isLoad, Request.access]

/-- What the wires show of a load in the cycle in which its byte arrives. -/
lemma loadedOn_signals (machine : Machine) (isLoad : machine.isLoad = true) (word : UInt8) :
    (loading machine isLoad).loading?.map
        (.loadedOn ((loading machine isLoad).signals overlapped word)) =
      some machine.retirement := by
  have registers : machine.retirement.areg = machine.step.2.areg ∧
      machine.retirement.breg = machine.step.2.breg := by simp [Machine.retirement_eq]
  simp [loading?, Record.loadedOn, signals, next, byte, ← registers.1, ← registers.2]

/-- The fetch that is on the wires, read back. -/
lemma fetch_of_signals (progress : Progress) (word : UInt8) :
    (if (progress.signals overlapped word).fetchValid then
      some (progress.signals overlapped word).fetchAddress else none) =
        (progress.next overlapped).fetching? := by
  rcases fetch : (progress.next overlapped).fetching? with _ | address <;> simp [signals, fetch]

/-- A tracer remembers the fetch that it has seen, and a load that has just executed. -/
lemma sample_signals (progress : Progress) (word : UInt8) (tracer : Tracer) :
    let wires := progress.signals overlapped word
    let executed := tracer.fetching.map (.executedOn wires)
    let records := (tracer.loading.map (.loadedOn wires)).toList ++
      (executed.filter (!·.isLoad)).toList
    tracer.sample wires =
      ({ fetching := (progress.next overlapped).fetching?
         loading := executed.filter (·.isLoad)
         retired := tracer.retired + records.length }, records) := by
  intro wires executed records
  have reset : ¬wires.reset = true := Bool.false_ne_true
  rw [Tracer.sample, if_neg reset, fetch_of_signals]

/-- **The tracer keeps up with the wires, and reports what retires.** -/
theorem sample_tracer {progress : Progress} {units : Units} (served : progress.Served units)
    (retired : Nat) :
    (progress.tracer retired).sample (progress.signals overlapped units.imem.response) =
      ((progress.next overlapped).tracer (retired + progress.report.length),
        progress.report) := by
  rw [sample_signals]
  rcases progress with machine | machine | ⟨machine, isLoad⟩
  · rfl
  · have executed := executedOn_signals overlapped machine units.imem.response served.answered
    by_cases isLoad : machine.isLoad = true
    · have recognised : machine.retirement.memory = .load := by
        simpa [Record.isLoad, isLoad] using isLoad_retirement machine
      rw [if_pos isLoad] at executed
      simp [tracer, executed, report, isLoad, next_fetched_of_isLoad overlapped isLoad, loading?,
        fetching?, Record.isLoad, recognised]
    · have recognised : ¬machine.retirement.isLoad = true := by rwa [isLoad_retirement]
      rw [if_neg isLoad] at executed
      simp [tracer, executed, report, isLoad, next_fetched_of_not_isLoad overlapped isLoad,
        Option.filter_some, recognised]
  · have loaded := loadedOn_signals overlapped machine isLoad units.imem.response
    simp [tracer, loaded, fetching?, report, next]

end Progress

end Hex8
