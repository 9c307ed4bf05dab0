import Hex8.Memory
import Mathlib.Data.List.Induction
import Mathlib.Tactic.Lemma

set_option relaxedAutoImplicit false
set_option autoImplicit false

/-!
# Many writes

Of several writes to one address the latest one counts, and an address without any keeps what it
had.

## Main definitions

* `Hex8.Memory.writeAll` — a memory after several writes.
* `Hex8.latest?` — the latest value that was written to an address.

## Main results

* `Hex8.Memory.read_writeAll` — what is read after several writes.
* `Hex8.Memory.writeAll_map_read` — only the values that are there in the end matter.
-/

namespace Hex8

/-- The latest value that was written to an address. -/
def latest? (address : UInt8) (writes : List (UInt8 × UInt8)) : Option UInt8 :=
  (writes.filter (·.1 = address)).getLast?.map Prod.snd

/-- The last write counts if it is one to the address. -/
lemma latest?_concat (address : UInt8) (writes : List (UInt8 × UInt8)) (last : UInt8 × UInt8) :
    latest? address (writes ++ [last]) =
      if last.1 = address then some last.2 else latest? address writes := by
  rw [latest?, List.filter_append, List.filter_cons, List.filter_nil]
  by_cases same : last.1 = address
  · rw [if_pos (decide_eq_true same), if_pos same, List.getLast?_append]
    rfl
  · rw [if_neg (mt of_decide_eq_true same), if_neg same, List.append_nil]
    rfl

/-- The latest value that was written to an address is the last one of all that were. -/
theorem latest?_eq_getLast? (address : UInt8) (writes : List (UInt8 × UInt8)) :
    latest? address writes =
      (writes.filterMap fun write =>
        if write.1 = address then some write.2 else none).getLast? := by
  rw [latest?, ← List.getLast?_map, ← List.filterMap_eq_map, List.filterMap_filter]
  simp only [decide_eq_true_eq]
  rfl

/-- If writes come from a list of other things, the latest write comes from the last of these that
write to the address. -/
theorem latest?_filterMap {α : Type} (address : UInt8) (f : α → Option (UInt8 × UInt8))
    (list : List α) :
    latest? address (list.filterMap f) =
      ((list.filter fun a => (f a).any (·.1 = address)).getLast?.bind f).map Prod.snd := by
  rw [latest?, List.getLast?_filter, List.getLast?_filter, ← List.filterMap_reverse,
    List.find?_filterMap]

/-- If the value of each write depends on its address alone, so does the latest one. -/
theorem latest?_map (address : UInt8) (f : UInt8 → UInt8) (writes : List (UInt8 × UInt8)) :
    latest? address (writes.map fun write => (write.1, f write.1)) =
      (latest? address writes).map fun _ => f address := by
  rw [latest?, latest?, List.filter_map, List.getLast?_map, Option.map_map, Option.map_map]
  refine Option.map_congr fun last found => ?_
  have inside := (List.mem_filter.mp (List.mem_of_getLast? found)).2
  exact congrArg f (of_decide_eq_true inside)

namespace Memory

/-- The memory after several writes, each one an address and a value. -/
def writeAll (memory : Memory) (writes : List (UInt8 × UInt8)) : Memory :=
  writes.foldl (fun memory write => memory.write write.1 write.2) memory

/-- Further writes come behind the first ones. -/
theorem writeAll_append (memory : Memory) (front back : List (UInt8 × UInt8)) :
    memory.writeAll (front ++ back) = (memory.writeAll front).writeAll back :=
  List.foldl_append

/-- If writes come from a list of other things, those of the first one come first. -/
theorem writeAll_filterMap_cons {α : Type} (memory : Memory) (f : α → Option (UInt8 × UInt8))
    (a : α) (rest : List α) :
    memory.writeAll ((a :: rest).filterMap f) =
      (memory.writeAll (f a).toList).writeAll (rest.filterMap f) := by
  rw [List.filterMap_cons]
  cases f a <;> rfl

/-- **Of several writes the latest one counts.**

**Proof sketch.** Induction from the last write to the first. -/
theorem read_writeAll (memory : Memory) (writes : List (UInt8 × UInt8)) (address : UInt8) :
    (memory.writeAll writes).read address =
      (latest? address writes).getD (memory.read address) := by
  induction writes using List.reverseRecOn with
  | nil => rfl
  | append_singleton front last ih =>
    have step : (memory.writeAll (front ++ [last])).read address =
        ((memory.writeAll front).write last.1 last.2).read address :=
      congrArg (·.read address) (writeAll_append memory front [last])
    rw [step, read_write, latest?_concat, ih]
    by_cases same : last.1 = address
    · rw [if_pos same.symm, if_pos same]
      rfl
    · rw [if_neg (Ne.symm same), if_neg same]

/-- **Earlier writes do not matter.** A memory stays the same if each write already has the value
that is there in the end. -/
theorem writeAll_map_read (memory : Memory) (writes : List (UInt8 × UInt8)) :
    memory.writeAll (writes.map fun write => (write.1, (memory.writeAll writes).read write.1)) =
      memory.writeAll writes := by
  refine ext_read fun address => ?_
  rw [read_writeAll memory (writes.map _), latest?_map address (memory.writeAll writes).read,
    read_writeAll]
  cases latest? address writes <;> rfl

end Memory

end Hex8
