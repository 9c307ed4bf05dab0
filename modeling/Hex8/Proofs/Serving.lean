import Hex8.Proofs.BusOrder
import Hex8.Proofs.Writes

set_option relaxedAutoImplicit false
set_option autoImplicit false

/-!
# What the memories serve

The two memories around a core see nothing but the wires. What they hold and what they answer after
any number of cycles is told by the requests in these cycles, whether a core has driven them or not:
the instruction memory answers for the latest request, and never changes. The data memory takes all
stores in their order, and answers a load with what was there at the time of the load.

## Main definitions

* `Hex8.Units.clockAll` — the end of several cycles.
* `Hex8.SyncMemory.serve` — one access to a memory.
* `Hex8.BusAccess.write?`, `Hex8.BusAccess.answer` — what an access writes, and how it is answered
  behind others.

## Main results

* `Hex8.Units.clockAll_eq` — each memory goes through its own requests, and no others.
* `Hex8.SyncMemory.response_serveAll` — the answer to several accesses.
* `Hex8.Units.clockAll_ofMemory` — what both memories hold and answer after any cycles.

## Design

A cycle without a request does not count. So the samples are reduced to the requests in them first,
for each memory to its own ones, and the inductions are over requests.
-/

namespace Hex8

/-- What an access writes: the address and the byte. -/
def BusAccess.write? : BusAccess → Option (UInt8 × UInt8)
  | load _ => none
  | store address data => some (address, data)

/-- The answer to an access behind earlier ones to a memory with the given content. A load is
answered with the byte of the latest store to its address, or with what has been there in the
beginning, and a store with zero. -/
def BusAccess.answer (content : Memory) (earlier : List BusAccess) : BusAccess → UInt8
  | load address =>
    (latest? address (earlier.filterMap BusAccess.write?)).getD (content.read address)
  | store _ _ => 0

/-- The end of several cycles, one after the other. -/
def Units.clockAll (units : Units) (samples : List Signals) : Units :=
  samples.foldl clock units

/-! ## One memory -/

namespace SyncMemory

/-- Serves an access. -/
def serve (memory : SyncMemory) : BusAccess → SyncMemory
  | .load address => memory.load address
  | .store address data => memory.store address data

/-- Loads leave the content as it is. -/
lemma image_loadAll (memory : SyncMemory) (addresses : List UInt8) :
    (addresses.foldl load memory).image = memory.image := by
  induction addresses generalizing memory with
  | nil => rfl
  | cons address rest ih => exact ih (memory.load address)

/-- Of several loads the latest one is answered. -/
theorem response_loadAll (memory : SyncMemory) (addresses : List UInt8) :
    (addresses.foldl load memory).response =
      addresses.getLast?.elim memory.response memory.image.read := by
  induction addresses using List.reverseRecOn with
  | nil => rfl
  | append_singleton front last _ =>
    rw [List.foldl_append, List.foldl_cons, List.foldl_nil, List.getLast?_concat,
      Option.elim_some, load, image_loadAll]

/-- **The content after several accesses** is the initial one with all stores in their order. -/
theorem image_serveAll (memory : SyncMemory) (accesses : List BusAccess) :
    (accesses.foldl serve memory).image =
      memory.image.writeAll (accesses.filterMap BusAccess.write?) := by
  induction accesses generalizing memory with
  | nil => rfl
  | cons access rest ih =>
    rw [List.foldl_cons, ih, Memory.writeAll_filterMap_cons]
    cases access <;> rfl

/-- **The answer to several accesses** is the one to the latest of them. -/
theorem response_serveAll (memory : SyncMemory) (accesses : List BusAccess) :
    (accesses.foldl serve memory).response =
      accesses.getLast?.elim memory.response
        (BusAccess.answer memory.image accesses.dropLast) := by
  induction accesses using List.reverseRecOn with
  | nil => rfl
  | append_singleton front last _ =>
    rw [List.foldl_append, List.foldl_cons, List.foldl_nil, List.getLast?_concat,
      List.dropLast_concat, Option.elim_some]
    cases last with
    | load address =>
      rw [serve, load, image_serveAll, Memory.read_writeAll]
      rfl
    | store address data => rfl

end SyncMemory

/-! ## Both memories -/

namespace Units

/-- The end of a cycle is that of its requests. -/
lemma clock_eq (units : Units) (signals : Signals) :
    units.clock signals =
      { imem := signals.fetch?.elim units.imem units.imem.load
        dmem := signals.access?.elim units.dmem units.dmem.serve } := by
  rw [clock, Signals.fetch?, Signals.access?]
  congr 1
  · split <;> rfl
  · split
    · split <;> rfl
    · rfl

/-- **Each memory goes through its own requests**, whatever is requested of the other one. -/
theorem clockAll_eq (units : Units) (samples : List Signals) :
    units.clockAll samples =
      { imem := (samples.filterMap Signals.fetch?).foldl SyncMemory.load units.imem
        dmem := (samples.filterMap Signals.access?).foldl SyncMemory.serve units.dmem } := by
  induction samples generalizing units with
  | nil => rfl
  | cons signals rest ih =>
    rw [clockAll, List.foldl_cons, ← clockAll, ih, clock_eq, List.filterMap_cons,
      List.filterMap_cons]
    cases signals.fetch? <;> cases signals.access? <;> rfl

/-- **What both memories hold and answer after any cycles**, whoever has driven the wires.

* The instruction memory answers with the word at the address of the latest request for one, and
  with zero without any. Its content never changes.
* The data memory holds its initial content with all stores in their order.
* It answers the latest access: a store with zero, a load with the byte of the latest store to the
  address in front of it, or else with what was there in the beginning. Without any access it
  answers zero.
* An answer stays until the next request to the same memory.

**Proof sketch.** Each memory goes through its own requests (`clockAll_eq`), so cycles without such
a request make no difference. For the data memory, what a load finds is the initial content with the
stores in front of it (`SyncMemory.image_serveAll`), of which the latest one to its address counts
(`Memory.read_writeAll`). -/
theorem clockAll_ofMemory (imem dmem : Memory) (samples : List Signals) :
    let units := (ofMemory imem dmem).clockAll samples
    let fetches := samples.filterMap Signals.fetch?
    let accesses := samples.filterMap Signals.access?
    (units.imem.response = fetches.getLast?.elim 0 imem.read ∧ units.imem.image = imem) ∧
      units.dmem.image = dmem.writeAll (accesses.filterMap BusAccess.write?) ∧
      units.dmem.response = accesses.getLast?.elim 0 (BusAccess.answer dmem accesses.dropLast) ∧
      (∀ later : List Signals, (∀ signals ∈ later, signals.fetchValid = false) →
        (units.clockAll later).imem = units.imem) ∧
      ∀ later : List Signals, (∀ signals ∈ later, signals.accessValid = false) →
        (units.clockAll later).dmem = units.dmem := by
  intro units fetches accesses
  have split : units =
      { imem := fetches.foldl SyncMemory.load (.ofMemory imem)
        dmem := accesses.foldl SyncMemory.serve (.ofMemory dmem) } := clockAll_eq _ _
  refine ⟨⟨?_, ?_⟩, ?_, ?_, ?_, ?_⟩
  · rw [split, SyncMemory.response_loadAll]
    rfl
  · rw [split, SyncMemory.image_loadAll]
    rfl
  · rw [split, SyncMemory.image_serveAll]
    rfl
  · rw [split, SyncMemory.response_serveAll]
    rfl
  · intro later silent
    have none : later.filterMap Signals.fetch? = [] := by
      rw [List.filterMap_eq_nil_iff]
      intro signals inside
      rw [Signals.fetch?, silent signals inside]
      rfl
    rw [clockAll_eq, none]
    rfl
  · intro later silent
    have none : later.filterMap Signals.access? = [] := by
      rw [List.filterMap_eq_nil_iff]
      intro signals inside
      rw [Signals.access?, silent signals inside]
      rfl
    rw [clockAll_eq, none]
    rfl

end Units

end Hex8
