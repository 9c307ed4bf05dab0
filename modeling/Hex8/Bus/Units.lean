import Hex8.Bus.Signals
import Hex8.Memory

set_option relaxedAutoImplicit false
set_option autoImplicit false

/-!
# Synchronous memories

Both memories are clocked: a request that is on the wires during a cycle is served at the end of
it, and the answer can be read from the next cycle on, until another one replaces it.

## Main definitions

* `Hex8.SyncMemory` — a memory with a registered answer.
* `Hex8.Units` — the instruction memory and the data memory.
* `Hex8.Units.clock` — the end of a cycle.

## Main results

* `Hex8.Units.imem_image_clock` — instructions never change.
* `Hex8.Units.clock_of_idle` — without a request nothing changes.
-/

namespace Hex8

/-- A memory with a registered answer. -/
structure SyncMemory where
  /-- The content. -/
  image : Memory
  /-- The answer to the latest request. -/
  response : UInt8
  deriving DecidableEq

namespace SyncMemory

/-- A memory that has not been asked for anything yet answers zero. -/
def ofMemory (image : Memory) : SyncMemory :=
  { image, response := 0 }

/-- Serves a load: the answer is the byte at the address. -/
def load (memory : SyncMemory) (address : UInt8) : SyncMemory :=
  { memory with response := memory.image.read address }

/-- Serves a store: the byte is replaced and the answer is zero. -/
def store (memory : SyncMemory) (address data : UInt8) : SyncMemory :=
  { image := memory.image.write address data, response := 0 }

end SyncMemory

/-- The two memories around a core. -/
structure Units where
  /-- The instruction memory. -/
  imem : SyncMemory
  /-- The data memory. -/
  dmem : SyncMemory
  deriving DecidableEq

namespace Units

/-- The two memories before the first cycle. -/
def ofMemory (imem dmem : Memory) : Units :=
  { imem := .ofMemory imem, dmem := .ofMemory dmem }

/-- The end of a cycle: both memories serve what is requested on the wires. -/
def clock (units : Units) (signals : Signals) : Units :=
  { imem :=
      if signals.fetchValid then units.imem.load signals.fetchAddress else units.imem
    dmem :=
      if signals.accessValid then
        if signals.accessWrite then
          units.dmem.store signals.accessAddress signals.accessData
        else units.dmem.load signals.accessAddress
      else units.dmem }

/-- Instructions never change. -/
@[simp] theorem imem_image_clock (units : Units) (signals : Signals) :
    (units.clock signals).imem.image = units.imem.image := by
  unfold clock
  dsimp only
  split <;> rfl

/-- Without a request nothing changes. -/
theorem clock_of_idle (units : Units) (signals : Signals) (hf : signals.fetchValid = false)
    (ha : signals.accessValid = false) : units.clock signals = units := by
  simp [clock, hf, ha]

end Units

end Hex8
