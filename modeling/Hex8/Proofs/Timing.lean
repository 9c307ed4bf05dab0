import Mathlib.Data.Nat.Find
import Mathlib.Order.Bounds.Basic
import Mathlib.Order.WellFounded
import Mathlib.Tactic.Push
import Hex8.Proofs.Pacing

set_option relaxedAutoImplicit false
set_option autoImplicit false

/-!
# How long instructions take

An instruction takes one cycle in which its word is requested, unless that is done while the one
before retires, one cycle in which it executes, and one more if it is a load. How many cycles the
first instructions of a machine take therefore depends on nothing but their number and on how many
of them are loads, although it is the program that decides which instructions come next.

## Main definitions

* `Hex8.Progress.run` — the records of several cycles, and the progress behind them.
* `Hex8.Progress.wait` — how long the next instruction still takes.
* `Hex8.Progress.cost` — how long the next instructions still take.
* `Hex8.Arch.cost` — how long the first instructions take on an architecture.
* `Hex8.Arch.retiredWithin` — how many instructions retire within a number of cycles.

## Main results

* `Hex8.Progress.run_eq` — within any number of cycles exactly those instructions retire whose
  cost fits, and the machine has executed exactly these.
* `Hex8.Arch.cost_eq` — the cost of an architecture is the cost of its progress.
* `Hex8.Arch.isGreatest_retiredWithin` — as many instructions retire as fit.
-/

namespace Hex8

namespace Progress

variable (overlapped : Bool)

/-- The records of several cycles, and the progress behind them. -/
def run : Nat → Progress → List Record × Progress
  | 0, progress => ([], progress)
  | cycles + 1, progress =>
    let (records, last) := run cycles (progress.next overlapped)
    (progress.report ++ records, last)

/-- How many cycles the next instruction takes from here on. -/
def wait : Progress → Nat
  | idle machine => 2 + if machine.isLoad then 1 else 0
  | fetched machine => 1 + if machine.isLoad then 1 else 0
  | loading _ _ => 1

/-- How many cycles the next `n` instructions take from here on. -/
def cost : Nat → Progress → Nat
  | 0, _ => 0
  | n + 1, progress => progress.wait + cost n (ready overlapped progress.machine.step.2)

/-! ## One cycle -/

/-- **What a cycle can do**: retire the instruction, or bring it one cycle closer to that. -/
theorem cycle_cases (progress : Progress) :
    (progress.wait = 1 ∧ progress.report = [progress.machine.retirement] ∧
        progress.next overlapped = ready overlapped progress.machine.step.2) ∨
      (progress.wait = (progress.next overlapped).wait + 1 ∧ progress.report = [] ∧
        (progress.next overlapped).machine = progress.machine) := by
  rcases progress with machine | machine | ⟨machine, isLoad⟩
  · right
    refine ⟨?_, rfl, rfl⟩
    simp only [wait, next]
    omega
  · by_cases isLoad : machine.isLoad = true
    · right
      rw [next_fetched_of_isLoad overlapped isLoad]
      simp [wait, report, isLoad]
    · left
      rw [next_fetched_of_not_isLoad overlapped isLoad]
      simp [wait, report, isLoad]
  · left
    exact ⟨rfl, rfl, rfl⟩

/-- No instruction retires without a cycle. -/
theorem wait_pos (progress : Progress) : 0 < progress.wait := by
  rcases progress with machine | machine | ⟨machine, isLoad⟩ <;> simp only [wait] <;> omega

/-! ## Several cycles -/

/-- Several cycles are one cycle and the others. -/
theorem run_succ (cycles : Nat) (progress : Progress) :
    progress.run overlapped (cycles + 1) =
      (progress.report ++ ((progress.next overlapped).run overlapped cycles).1,
        ((progress.next overlapped).run overlapped cycles).2) := rfl

/-- **Within any number of cycles exactly those instructions retire whose cost fits.** The machine
has executed exactly these.

**Proof sketch.** Induction on the cycles. A cycle in which the instruction retires takes it off
both sides. In every other cycle the machine stays as it is, and what the instruction still takes
becomes one cycle less. -/
theorem run_eq (cycles : Nat) (progress : Progress) :
    ∃ n, (progress.run overlapped cycles).1 = progress.machine.retirements n ∧
      (progress.run overlapped cycles).2.machine = (progress.machine.run n).2 ∧
      progress.cost overlapped n ≤ cycles ∧ cycles < progress.cost overlapped (n + 1) := by
  induction cycles generalizing progress with
  | zero =>
    have positive := progress.wait_pos
    refine ⟨0, rfl, rfl, le_rfl, ?_⟩
    rw [cost]
    omega
  | succ cycles ih =>
    obtain ⟨n, records, machine, fits, exceeds⟩ := ih (progress.next overlapped)
    simp only [run_succ, records]
    rcases progress.cycle_cases overlapped with ⟨wait, report, next⟩ | ⟨wait, report, same⟩
    · -- the instruction retires, and `n` more after it
      rw [next] at machine fits exceeds ⊢
      rw [machine_ready] at machine ⊢
      refine ⟨n + 1, ?_, ?_, ?_, ?_⟩
      · rw [report, Machine.retirements_succ]
        rfl
      · rw [machine, Machine.run_succ]
      · rw [cost]
        omega
      · rw [cost]
        omega
    · -- the instruction is the first of the `n` that retire later
      rw [same] at machine ⊢
      refine ⟨n, by rw [report]; rfl, machine, ?_, ?_⟩
      · rcases n with _ | n
        · exact Nat.zero_le _
        · rw [cost, same] at fits
          rw [cost]
          omega
      · rw [cost, same] at exceeds
        rw [cost]
        omega

/-- What instructions cost that start when the one before retires. -/
lemma cost_ready (n : Nat) (machine : Machine) :
    (ready overlapped machine).cost overlapped n =
      (if overlapped then n else 2 * n) + machine.loads n := by
  induction n generalizing machine with
  | zero => cases overlapped <;> rfl
  | succ n ih =>
    rw [cost, machine_ready, ih, Machine.loads_succ]
    cases overlapped <;> simp only [ready, wait, Bool.false_eq_true, if_true, if_false] <;> omega

/-- The first instruction of all costs as much as any other, and the cycle of its fetch. -/
lemma cost_idle (n : Nat) (machine : Machine) :
    (idle machine).cost overlapped (n + 1) =
      (if overlapped then n + 2 else 2 * (n + 1)) + machine.loads (n + 1) := by
  rw [cost, machine_idle, cost_ready, Machine.loads_succ]
  cases overlapped <;> simp only [wait, Bool.false_eq_true, if_true, if_false] <;> omega

end Progress

namespace Arch

variable (arch : Arch) (machine : Machine)

/-- How many cycles the first `n` instructions take on an architecture. -/
def cost (n : Nat) : Nat :=
  if n = 0 then 0
  else
    match arch with
    | sequential => 2 * n + machine.loads n
    | pipelined => n + machine.loads n + 1

/-- How many instructions retire within a number of cycles. -/
def retiredWithin (cycles : Nat) : Nat :=
  Nat.findGreatest (fun n => arch.cost machine n ≤ cycles) cycles

/-- **The cost of an architecture is the cost of its progress.** -/
theorem cost_eq (n : Nat) :
    (Progress.idle machine).cost arch.pacing.overlapped n = arch.cost machine n := by
  rcases n with _ | n
  · rfl
  · rw [Progress.cost_idle, cost.eq_def, if_neg n.succ_ne_zero]
    rcases arch with _ | _ <;> simp only [pacing, Sequential.pacing, Pipelined.pacing,
      Bool.false_eq_true, if_true, if_false]
    omega

/-- Every instruction costs at least one cycle. -/
theorem cost_lt_succ (n : Nat) : arch.cost machine n < arch.cost machine (n + 1) := by
  have positive : ∀ progress : Progress, progress.cost arch.pacing.overlapped n <
      progress.cost arch.pacing.overlapped (n + 1) := by
    intro progress
    induction n generalizing progress with
    | zero => simpa [Progress.cost] using progress.wait_pos
    | succ n ih =>
      rw [Progress.cost, Progress.cost]
      exact Nat.add_lt_add_left (ih _) _
  rw [← cost_eq, ← cost_eq]
  exact positive _

/-- More instructions cost more cycles. -/
theorem cost_strictMono : StrictMono (arch.cost machine) :=
  strictMono_nat_of_lt_succ (arch.cost_lt_succ machine)

/-- **As many instructions retire as fit.** -/
theorem isGreatest_retiredWithin (cycles : Nat) :
    IsGreatest {n | arch.cost machine n ≤ cycles} (arch.retiredWithin machine cycles) := by
  constructor
  · have none : arch.cost machine 0 ≤ cycles := Nat.zero_le _
    exact Nat.findGreatest_spec (Nat.zero_le cycles) none
  · intro n fits
    have enough : n ≤ cycles := ((arch.cost_strictMono machine).le_apply).trans fits
    exact Nat.le_findGreatest enough fits

/-- The instructions that retire fit. -/
theorem cost_retiredWithin_le (cycles : Nat) :
    arch.cost machine (arch.retiredWithin machine cycles) ≤ cycles :=
  (arch.isGreatest_retiredWithin machine cycles).1

/-- The instruction behind those that retire does not fit. -/
theorem lt_cost_retiredWithin (cycles : Nat) :
    cycles < arch.cost machine (arch.retiredWithin machine cycles + 1) := by
  by_contra! fits
  have := (arch.isGreatest_retiredWithin machine cycles).2 fits
  omega

/-- Instructions retire as long as the next one fits. -/
theorem retiredWithin_eq {n cycles : Nat} (fits : arch.cost machine n ≤ cycles)
    (exceeds : cycles < arch.cost machine (n + 1)) : arch.retiredWithin machine cycles = n := by
  have mono := arch.cost_strictMono machine
  have fits' := arch.cost_retiredWithin_le machine cycles
  have exceeds' := arch.lt_cost_retiredWithin machine cycles
  have notLess : n < arch.retiredWithin machine cycles + 1 := mono.lt_iff_lt.mp (by omega)
  have notMore : arch.retiredWithin machine cycles < n + 1 := mono.lt_iff_lt.mp (by omega)
  omega

end Arch

end Hex8
