import Hex8.Proofs.Resets

set_option relaxedAutoImplicit false
set_option autoImplicit false

/-!
# The order of requests on the bus

From its first cycle on, or from any cycle in reset on, a core requests exactly the instruction
words that the reference machine executes, in the same order, and asks the data memory for exactly
the accesses of the machine. No word is requested in advance of a branch, none is requested again
after a stall, and no access is repeated. At any time the requests have got as far as the
instructions that have retired, or one instruction further.

## Main definitions

* `Hex8.BusAccess` — an access to the data memory, as it can be seen on the wires.
* `Hex8.Signals.fetch?`, `Hex8.Signals.access?` — what is requested in a cycle.
* `Hex8.Record.access?` — the access that a record reports.
* `Hex8.Progress.wires` — the wires during several cycles.

## Main results

* `Hex8.Progress.filterMap_wires` — whatever can be seen of each instruction on the wires follows
  the order of the records.
* `Hex8.Arch.requests_eq_program_order` — the requests of a core.

## Design

An instruction can be seen on the wires before it retires. What is proved of the cycles of a run is
therefore an equation with two loose ends: what has been seen of the instruction that is under way
before the first cycle, and what has been seen of the one that is under way behind the last.
-/

namespace Hex8

/-- An access to the data memory, as it can be seen on the wires. -/
inductive BusAccess
  /-- The byte at an address is read. -/
  | load (address : UInt8)
  /-- A byte is written at an address. -/
  | store (address data : UInt8)
  deriving DecidableEq

/-- The address of the instruction word that is requested in a cycle. -/
def Signals.fetch? (signals : Signals) : Option UInt8 :=
  if signals.fetchValid then some signals.fetchAddress else none

/-- The access to the data memory that is requested in a cycle. -/
def Signals.access? (signals : Signals) : Option BusAccess :=
  if signals.accessValid then
    if signals.accessWrite then some (.store signals.accessAddress signals.accessData)
    else some (.load signals.accessAddress)
  else none

/-- The access that a record reports. What is stored is the register `A`. -/
def Record.access? (record : Record) : Option BusAccess :=
  match record.memory with
  | .nothing => none
  | .load => some (.load record.address)
  | .store => some (.store record.address record.areg)

/-- What can be seen of a request on the wires. -/
def Request.onBus : Request → BusAccess
  | load _ address => .load address
  | store address data => .store address data

/-! ## The requests of one instruction -/

namespace Machine

/-- The execute unit asks for the access that the machine records. -/
theorem access?_retirement (machine : Machine) :
    machine.retirement.access? = machine.answer.request.map Request.onBus := by
  have request := machine.request_answer
  rw [retirement_eq, Record.access?]
  cases op : machine.inst.op
  all_goals
    rw [op] at request
    simp [request, Request.access, Request.address, Request.onBus, step, effect, op]

/-- The record of an instruction names the address that it was fetched from. -/
theorem pc_retirement (machine : Machine) : machine.retirement.pc = machine.pc := by
  rw [retirement_eq]

/-- The record of the last instruction comes last. -/
theorem retirements_concat (n : Nat) (machine : Machine) :
    machine.retirements (n + 1) = machine.retirements n ++ [(machine.run n).2.retirement] := by
  induction n generalizing machine with
  | zero => exact retirements_succ 0 machine
  | succ n ih =>
    rw [retirements_succ, ih machine.step.2, retirements_succ, run_succ]
    rfl

/-- The addresses of the instructions are not affected by where these access the data memory. -/
theorem map_pc_retirements (n : Nat) (machine : Machine) :
    (machine.retirements n).map Record.pc = (machine.run n).1.map Record.pc := by
  induction n generalizing machine with
  | zero => rfl
  | succ n ih =>
    have head : machine.retirement.pc = machine.step.1.pc := machine.pc_retirement
    rw [retirements_succ, run_succ, List.map_cons, List.map_cons, ih, head]

end Machine

/-! ## The wires during several cycles -/

namespace Progress

variable (overlapped : Bool)

/-- The wires during several cycles, in which the instruction memory answers the given words. -/
def wires : List UInt8 → Progress → List Signals
  | [], _ => []
  | word :: words, progress =>
    progress.signals overlapped word :: wires words (progress.next overlapped)

/-- Every sample shows some progress. -/
theorem exists_of_mem_wires {words : List UInt8} {progress : Progress} {signals : Signals}
    (h : signals ∈ progress.wires overlapped words) :
    ∃ (now : Progress) (word : UInt8), signals = now.signals overlapped word := by
  induction words generalizing progress with
  | nil => exact absurd h List.not_mem_nil
  | cons word words ih =>
    rcases List.mem_cons.mp h with rfl | later
    · exact ⟨progress, word, rfl⟩
    · exact ih later

/-- **What can be seen of each instruction follows the order of the records.** Here `view` is what
is seen in a cycle, `item` is what is seen of a whole instruction, and `seen` is what has already
been seen of the instruction that is under way. If these agree in every cycle, they agree in any
number of cycles. -/
theorem filterMap_wires {α : Type} {view : Signals → Option α} {item : Record → Option α}
    {seen : Progress → Option α}
    (cycle : ∀ (progress : Progress) (word : UInt8),
      (seen progress).toList ++ (view (progress.signals overlapped word)).toList =
        progress.report.filterMap item ++ (seen (progress.next overlapped)).toList)
    (words : List UInt8) (progress : Progress) :
    (seen progress).toList ++ (progress.wires overlapped words).filterMap view =
      (progress.run overlapped words.length).1.filterMap item ++
        (seen (progress.run overlapped words.length).2).toList := by
  induction words generalizing progress with
  | nil => exact List.append_nil _
  | cons word words ih =>
    have first : (progress.wires overlapped (word :: words)).filterMap view =
        (view (progress.signals overlapped word)).toList ++
          ((progress.next overlapped).wires overlapped words).filterMap view := by
      rw [wires, List.filterMap_cons]
      cases view (progress.signals overlapped word) <;> rfl
    calc (seen progress).toList ++ (progress.wires overlapped (word :: words)).filterMap view
        = progress.report.filterMap item ++ ((seen (progress.next overlapped)).toList ++
            ((progress.next overlapped).wires overlapped words).filterMap view) := by
          rw [first, ← List.append_assoc, cycle, List.append_assoc]
      _ = _ := by
          rw [ih, List.length_cons, run_succ, List.filterMap_append, List.append_assoc]

/-! ## What has been seen of an instruction -/

/-- The address of the instruction that is under way, once its word has been requested. -/
def fetched? : Progress → Option UInt8
  | idle _ => none
  | fetched machine | loading machine _ => some machine.pc

/-- The access of the instruction that is under way, once it has been requested. -/
def accessed? : Progress → Option BusAccess
  | idle _ | fetched _ => none
  | loading machine _ => machine.retirement.access?

/-- The instruction that has just started has been seen as far as its word is being requested. -/
lemma fetched?_ready (machine : Machine) :
    (ready overlapped machine).fetched? = (ready overlapped machine).fetching? := by
  cases overlapped <;> rfl

/-- The data memory has not been asked for anything by an instruction that has just started. -/
lemma accessed?_ready (machine : Machine) : (ready overlapped machine).accessed? = none := by
  cases overlapped <;> rfl

/-- **One cycle of fetches.** The word of an instruction is requested once, before it retires. -/
theorem fetch?_cycle (progress : Progress) (word : UInt8) :
    progress.fetched?.toList ++ (progress.signals overlapped word).fetch?.toList =
      progress.report.filterMap (fun record => some record.pc) ++
        (progress.next overlapped).fetched?.toList := by
  rw [Signals.fetch?, fetch_of_signals]
  rcases progress with machine | machine | ⟨machine, isLoad⟩
  · rfl
  · by_cases isLoad : machine.isLoad = true
    · rw [next_fetched_of_isLoad overlapped isLoad, report, if_pos isLoad]
      rfl
    · rw [next_fetched_of_not_isLoad overlapped isLoad, report, if_neg isLoad, fetched?_ready]
      show [machine.pc] ++ _ = [machine.retirement.pc] ++ _
      rw [machine.pc_retirement]
  · rw [next, report, fetched?_ready]
    show [machine.pc] ++ _ = [machine.retirement.pc] ++ _
    rw [machine.pc_retirement]

/-- The access that is on the wires, read back. -/
lemma access?_signals (progress : Progress) (word : UInt8) :
    (progress.signals overlapped word).access? = progress.request?.map Request.onBus := by
  rcases request : progress.request? with _ | ⟨destination, address⟩ | ⟨address, data⟩ <;>
    simp [Signals.access?, signals, request, Request.isStore, Request.address, Request.data,
      Request.onBus]

/-- **One cycle of accesses.** An access is requested once, at the latest when its instruction
retires. -/
theorem access?_cycle (progress : Progress) (word : UInt8) :
    progress.accessed?.toList ++ (progress.signals overlapped word).access?.toList =
      progress.report.filterMap Record.access? ++
        (progress.next overlapped).accessed?.toList := by
  rw [access?_signals]
  rcases progress with machine | machine | ⟨machine, isLoad⟩
  · rfl
  · have requested : (fetched machine).request?.map Request.onBus =
        machine.retirement.access? := machine.access?_retirement.symm
    rw [requested]
    by_cases isLoad : machine.isLoad = true
    · rw [next_fetched_of_isLoad overlapped isLoad, report, if_pos isLoad]
      rfl
    · rw [next_fetched_of_not_isLoad overlapped isLoad, report, if_neg isLoad, accessed?_ready]
      cases access : machine.retirement.access? <;> simp [accessed?, access]
  · rw [next, report, accessed?_ready]
    cases access : machine.retirement.access? <;> simp [accessed?, request?, access]

/-! ## Requests of both kinds in one cycle -/

/-- A core that overlaps fetch and execution requests a word in every cycle but those in which it
asks for the byte of a load. -/
theorem fetchValid_signals_overlapped (progress : Progress) (word : UInt8) :
    let wires := progress.signals true word
    wires.fetchValid = true ↔ ¬(wires.accessValid = true ∧ wires.accessWrite = false) := by
  intro wires
  rcases progress with machine | machine | ⟨machine, isLoad⟩
  · simp [wires, signals, next, fetching?, request?]
  · by_cases isLoad : machine.isLoad = true
    · obtain ⟨destination, address, request, -⟩ := machine.request_of_isLoad isLoad
      simp [wires, signals, next_fetched_of_isLoad true isLoad, fetching?, request?, request,
        Request.isStore]
    · obtain request | ⟨address, data, request⟩ := machine.request_of_not_isLoad isLoad
      all_goals
        simp [wires, signals, next_fetched_of_not_isLoad true isLoad, ready, fetching?, request?,
          request, Request.isStore]
  · simp [wires, signals, next, ready, fetching?, request?]

/-- A core that does not overlap them never has two requests in one cycle. -/
theorem not_both_valid_signals (progress : Progress) (word : UInt8) :
    let wires := progress.signals false word
    ¬(wires.fetchValid = true ∧ wires.accessValid = true) := by
  intro wires
  rcases progress with machine | machine | ⟨machine, isLoad⟩
  · simp [wires, signals, request?]
  · by_cases isLoad : machine.isLoad = true
    · simp [wires, signals, next_fetched_of_isLoad false isLoad, fetching?]
    · simp [wires, signals, next_fetched_of_not_isLoad false isLoad, ready, fetching?]
  · simp [wires, signals, request?]

end Progress

/-! ## The requests of a core -/

namespace Simulator

variable {core : Core}

/-- The last cycle of a schedule comes last. -/
lemma runSchedule_concat (schedule : List Bool) (reset : Bool) (simulator : Simulator core) :
    (simulator.runSchedule (schedule ++ [reset])).2 =
      ((simulator.runSchedule schedule).2.setReset reset).step := by
  induction schedule generalizing simulator with
  | nil => rfl
  | cons first schedule ih => exact ih _

/-- No schedule changes the instruction memory. -/
lemma imem_runSchedule (schedule : List Bool) (simulator : Simulator core) :
    (simulator.runSchedule schedule).2.units.imem.image = simulator.units.imem.image := by
  induction schedule generalizing simulator with
  | nil => rfl
  | cons reset schedule ih =>
    have cycle : ((simulator.setReset reset).step).units.imem.image =
        simulator.units.imem.image := Units.imem_image_clock _ _
    exact (ih _).trans cycle

end Simulator

namespace Core.Pacing

variable {core : Core} {pacing : core.Pacing} {progress : Progress} {simulator : Simulator core}
  {tracer : Tracer}

/-- The samples of several cycles out of reset are the wires of the progress. -/
theorem Follows.samples_eq_wires (h : pacing.Follows progress simulator tracer) (cycles : Nat) :
    ∃ words : List UInt8, words.length = cycles ∧
      (simulator.runSchedule (List.replicate cycles false)).1 =
        progress.wires pacing.overlapped words := by
  induction cycles generalizing progress simulator tracer with
  | zero => exact ⟨[], rfl, rfl⟩
  | succ cycles ih =>
    have free := h.setReset false
    have signals : (simulator.setReset false).step.signals =
        progress.signals pacing.overlapped simulator.units.imem.response := by
      rw [Simulator.step, Simulator.propagate, free.drive rfl]
      rfl
    obtain ⟨words, length, samples⟩ := ih (free.step rfl).1
    refine ⟨simulator.units.imem.response :: words, congrArg (· + 1) length, ?_⟩
    rw [List.replicate_succ, Simulator.runSchedule, Progress.wires, ← samples, ← signals]

/-- Before the first cycle, and behind any cycle in reset, a core starts over. -/
theorem exists_follows_of_schedule (pacing : core.Pacing) (imem dmem : Memory)
    (history : List Bool) (started : history.getLast? ≠ some false) :
    let simulator := ((Simulator.ofMemory core imem dmem).runSchedule history).2
    ∃ tracer, pacing.Follows (.idle (.ofMemory imem simulator.dmem)) simulator tracer := by
  intro simulator
  rcases history.eq_nil_or_concat with rfl | ⟨earlier, reset, rfl⟩
  · exact ⟨.initial, pacing.follows_ofMemory imem dmem⟩
  · have inReset : reset = true := by
      rw [List.concat_eq_append, List.getLast?_concat] at started
      cases reset
      · exact absurd rfl started
      · rfl
    subst inReset
    let before := ((Simulator.ofMemory core imem dmem).runSchedule earlier).2
    have image : before.units.imem.image = imem := Simulator.imem_runSchedule earlier _
    have last : simulator = (before.setReset true).step := by
      change ((Simulator.ofMemory core imem dmem).runSchedule (earlier.concat true)).2 = _
      rw [List.concat_eq_append, Simulator.runSchedule_concat]
    have dmem : simulator.dmem = before.units.dmem.image := by
      rw [last, Simulator.step_of_reset _ rfl]
      rfl
    have follows := (pacing.follows_of_reset (before.setReset true) .initial rfl).1
    rw [← last, Simulator.setReset, image, ← dmem] at follows
    exact ⟨_, follows⟩

end Core.Pacing

namespace Arch

variable (arch : Arch) (machine : Machine)

/-- What is seen of the instructions in several cycles is what there is to see of those that have
retired, and perhaps of one more. -/
lemma filterMap_wires_idle {α : Type} {view : Signals → Option α} {item : Record → Option α}
    {seen : Progress → Option α}
    (cycle : ∀ (progress : Progress) (word : UInt8),
      (seen progress).toList ++ (view (progress.signals arch.pacing.overlapped word)).toList =
        progress.report.filterMap item ++ (seen (progress.next arch.pacing.overlapped)).toList)
    (start : seen (.idle machine) = none)
    (partly : ∀ progress : Progress,
      seen progress = none ∨ seen progress = item progress.machine.retirement)
    (words : List UInt8) :
    let retired := arch.retiredWithin machine words.length
    ∃ n, retired ≤ n ∧ n ≤ retired + 1 ∧
      ((Progress.idle machine).wires arch.pacing.overlapped words).filterMap view =
        (machine.retirements n).filterMap item := by
  intro retired
  obtain ⟨records, last⟩ := Progress.run_idle arch machine words.length
  have all := Progress.filterMap_wires arch.pacing.overlapped cycle words (.idle machine)
  rw [start, records] at all
  rcases partly ((Progress.idle machine).run arch.pacing.overlapped words.length).2 with
    nothing | everything
  · refine ⟨retired, le_rfl, Nat.le_succ _, ?_⟩
    rw [nothing] at all
    simpa using all
  · refine ⟨retired + 1, Nat.le_succ _, le_rfl, ?_⟩
    rw [everything, last] at all
    rw [Machine.retirements_concat, List.filterMap_append]
    exact (List.nil_append _).symm.trans all

/-- **The requests of a core are those of the reference machine, in program order.** This holds for
any number of cycles before which the core has not run yet or has been in reset, on the data memory
of that moment. The instruction words are requested in the order of execution, each of them once,
and as far as the instructions that have retired or one further. So are the accesses to the data
memory: a load or a store at its effective address, a store with the register `A`. The pipelined
core requests a word in every cycle that does not issue a load, and the sequential core never has
two requests in one cycle.

**Proof sketch.** The samples are the wires of the progress of a core that starts over
(`Core.Pacing.exists_follows_of_schedule`, `Core.Pacing.Follows.samples_eq_wires`). In each cycle
what is requested takes what has been seen of the instruction under way closer to its record
(`Progress.fetch?_cycle`, `Progress.access?_cycle`), and so in any number of cycles
(`Progress.filterMap_wires`). -/
theorem requests_eq_program_order (arch : Arch) (imem dmem : Memory) (history : List Bool)
    (started : history.getLast? ≠ some false) (cycles : Nat) :
    let simulator := ((Simulator.ofMemory arch.core imem dmem).runSchedule history).2
    let machine := Machine.ofMemory imem simulator.dmem
    let samples := (simulator.runSchedule (List.replicate cycles false)).1
    let retired := arch.retiredWithin machine cycles
    (∃ n, retired ≤ n ∧ n ≤ retired + 1 ∧
        samples.filterMap Signals.fetch? = (machine.run n).1.map Record.pc) ∧
      (∃ n, retired ≤ n ∧ n ≤ retired + 1 ∧
        samples.filterMap Signals.access? = (machine.retirements n).filterMap Record.access?) ∧
      match arch with
      | pipelined =>
        ∀ wires ∈ samples,
          wires.fetchValid = true ↔ ¬(wires.accessValid = true ∧ wires.accessWrite = false)
      | sequential =>
        ∀ wires ∈ samples, ¬(wires.fetchValid = true ∧ wires.accessValid = true) := by
  intro simulator machine samples retired
  obtain ⟨tracer, follows⟩ := arch.pacing.exists_follows_of_schedule imem dmem history started
  obtain ⟨words, length, wires⟩ := follows.samples_eq_wires cycles
  change samples = (Progress.idle machine).wires arch.pacing.overlapped words at wires
  rw [wires]
  refine ⟨?_, ?_, ?_⟩
  · obtain ⟨n, atLeast, atMost, fetches⟩ := arch.filterMap_wires_idle machine
      (Progress.fetch?_cycle arch.pacing.overlapped) rfl
      (by rintro (before | before | ⟨before, isLoad⟩)
          · exact .inl rfl
          · exact .inr (congrArg some before.pc_retirement.symm)
          · exact .inr (congrArg some before.pc_retirement.symm)) words
    rw [length] at atLeast atMost
    refine ⟨n, atLeast, atMost, ?_⟩
    rw [fetches, ← Machine.map_pc_retirements]
    exact congrFun List.filterMap_eq_map _
  · obtain ⟨n, atLeast, atMost, accesses⟩ := arch.filterMap_wires_idle machine
      (Progress.access?_cycle arch.pacing.overlapped) rfl
      (by rintro (before | before | ⟨before, isLoad⟩)
          · exact .inl rfl
          · exact .inl rfl
          · exact .inr rfl) words
    rw [length] at atLeast atMost
    exact ⟨n, atLeast, atMost, accesses⟩
  · cases arch with
    | sequential =>
      intro signals shown
      obtain ⟨now, word, rfl⟩ := Progress.exists_of_mem_wires _ shown
      exact now.not_both_valid_signals word
    | pipelined =>
      intro signals shown
      obtain ⟨now, word, rfl⟩ := Progress.exists_of_mem_wires _ shown
      exact now.fetchValid_signals_overlapped word

/-- The pipelined core is reset right behind a store at `B + 2`. When it starts over, it requests
the five instructions again and then the target of the branch behind them; the byte that it asks
for has been there since before the reset. -/
theorem requests_behind_cut_off_run :
    let imem := Memory.ofList [0x31, 0x44, 0x82, 0x72, 0xc0]
    let history := [false, false, false, false, true]
    let simulator := ((Simulator.ofMemory pipelined.core imem .zero).runSchedule history).2
    let machine := Machine.ofMemory imem simulator.dmem
    let samples := (simulator.runSchedule (List.replicate 7 false)).1
    history.getLast? ≠ some false ∧
      (∃ n, samples.filterMap Signals.fetch? = (machine.run n).1.map Record.pc) ∧
      (∃ n, samples.filterMap Signals.access? =
        (machine.retirements n).filterMap Record.access?) ∧
      samples.filterMap Signals.fetch? = [0, 1, 2, 3, 4, 1] ∧
      samples.filterMap Signals.access? = [.store 6 1, .load 6] := by
  intro imem history simulator machine samples
  have started : history.getLast? ≠ some false := by decide
  obtain ⟨⟨n, -, -, fetches⟩, ⟨m, -, -, accesses⟩, -⟩ :=
    requests_eq_program_order .pipelined imem .zero history started 7
  refine ⟨started, ⟨n, fetches⟩, ⟨m, accesses⟩, ?_, ?_⟩
  · decide +kernel
  · decide +kernel

end Arch

end Hex8
