import Hex8.Memory
import Hex8.Text.Hex
import Hex8.Text.Style

set_option relaxedAutoImplicit false
set_option autoImplicit false

/-!
# Memories in print

Memories are printed in rows of sixteen bytes, each behind the address of its first byte.

## Main definitions

* `Hex8.Memory.row` — the bytes of a row.
* `Hex8.Memory.difference` — the rows in which two memories differ, before and after.
* `Hex8.Memory.dump` — a memory up to its last row that is not empty.

## Main results

* `Hex8.Memory.mem_rowAddresses` — each address is one of its row.
* `Hex8.Memory.difference_self` — there is nothing to print for equal memories.
-/

namespace Hex8.Memory

/-- The addresses of a row. -/
def rowAddresses (row : Nat) : List UInt8 :=
  (List.range 16).map fun i => UInt8.ofNat (16 * row + i)

/-- The bytes of a row. -/
def row (memory : Memory) (row : Nat) : List UInt8 :=
  (rowAddresses row).map memory.read

/-- The address in front of a row. -/
def rowLabel (row : Nat) : String :=
  Hex.prefixedByte (UInt8.ofNat (16 * row)) ++ ": "

/-- Bytes without anything between them. -/
def bytesText (bytes : List UInt8) : String :=
  String.join (bytes.map Hex.byte)

/-- A byte that is yellow if it has changed. -/
def changedByteText (before after : UInt8) : String :=
  if before = after then Hex.byte after else Style.yellow.paint (Hex.byte after)

/-- A row before and after; nothing if it has not changed. -/
def differenceRow (before after : Memory) (row : Nat) : String :=
  if before.row row = after.row row then ""
  else
    rowLabel row ++ bytesText (before.row row) ++ " -> " ++
      String.join (List.zipWith changedByteText (before.row row) (after.row row)) ++ "\n"

/-- The rows in which two memories differ, before and after. -/
def difference (before after : Memory) : String :=
  String.join ((List.range 16).map (differenceRow before after))

/-- Whether a row holds only zeros. -/
def isEmptyRow (memory : Memory) (row : Nat) : Bool :=
  (memory.row row).all (· = 0)

/-- The last row that holds something else than zeros. -/
def lastRow? (memory : Memory) : Option Nat :=
  (List.range 16).reverse.find? fun row => !memory.isEmptyRow row

/-- A row of a memory. -/
def dumpRow (memory : Memory) (row : Nat) : String :=
  rowLabel row ++ bytesText (memory.row row) ++ "\n"

/-- A memory up to its last row that is not empty. -/
def dump (memory : Memory) : String :=
  match memory.lastRow? with
  | none => ""
  | some last => String.join ((List.range (last + 1)).map memory.dumpRow)

/-- Each address is one of its row. -/
theorem mem_rowAddresses (address : UInt8) : address ∈ rowAddresses (address.toNat / 16) := by
  refine List.mem_map.2 ⟨address.toNat % 16, List.mem_range.2 (by omega), ?_⟩
  rw [Nat.div_add_mod, UInt8.ofNat_toNat]

/-- There is nothing to print for equal memories. -/
theorem difference_self (memory : Memory) : difference memory memory = "" := by
  have rows : differenceRow memory memory = fun _ => "" := by
    funext row
    simp [differenceRow]
  rw [difference, rows]
  rfl

end Hex8.Memory
