import Hex8.Bus.Signals
import Hex8.Simulator

set_option relaxedAutoImplicit false
set_option autoImplicit false

/-!
# Sources of samples

A source yields samples of the wires, one for each cycle, as long as somebody asks for them and
until it is exhausted. It may be a list of samples, or a core that is simulated while its samples
are being asked for.

## Main definitions

* `Hex8.SampleSource` — types whose values yield samples.
* `Hex8.Clock` — a simulator that may run for a limited number of cycles.
-/

namespace Hex8

/-- Types whose values yield samples of the wires, one after another. -/
class SampleSource (σ : Type) where
  /-- The next sample and the source behind it. -/
  next? : σ → Option (Signals × σ)
  /-- How many samples are left. -/
  remaining : σ → Nat
  /-- Every sample is one less that is left. -/
  remaining_of_next? {source rest : σ} {signals : Signals} :
    next? source = some (signals, rest) → remaining source = remaining rest + 1

/-- A list yields its elements. -/
instance : SampleSource (List Signals) where
  next?
    | [] => none
    | signals :: rest => some (signals, rest)
  remaining := List.length
  remaining_of_next? {source _ _} h := by
    cases source <;> simp_all

/-- A simulator that may run for a limited number of cycles. -/
structure Clock (core : Core) where
  /-- The simulator. -/
  simulator : Simulator core
  /-- How many cycles it may still run. -/
  budget : Nat

/-- A clocked core yields the wires of each cycle that it runs. -/
instance {core : Core} : SampleSource (Clock core) where
  next? clock :=
    match clock.budget with
    | 0 => none
    | budget + 1 =>
      let simulator := clock.simulator.step
      some (simulator.signals, { simulator, budget })
  remaining := Clock.budget
  remaining_of_next? {source _ _} h := by
    obtain ⟨simulator, budget⟩ := source
    cases budget <;> simp_all
    obtain ⟨-, rfl⟩ := h
    rfl

end Hex8
