set_option relaxedAutoImplicit false
set_option autoImplicit false

/-!
# Memory images

Instructions and data live in two memories of 256 bytes each, so that every byte is an address.

## Main definitions

* `Hex8.Memory` — the content of a memory.
* `Hex8.Memory.zero`, `Hex8.Memory.ofList` — the empty memory, and one filled from address 0.
* `Hex8.Memory.read`, `Hex8.Memory.write` — access to one byte.

## Main results

* `Hex8.Memory.ext_read` — a memory is determined by what is read from it.
* `Hex8.Memory.read_write` — a write is seen at its own address and nowhere else.
* `Hex8.Memory.read_ofList` — a filled memory holds the list, and zeros behind it.
-/

namespace Hex8

/-- The content of a memory. -/
structure Memory where
  /-- The bytes, by address. -/
  cells : Vector UInt8 256
  deriving DecidableEq

namespace Memory

/-- The memory that holds only zeros. -/
def zero : Memory :=
  ⟨Vector.replicate 256 0⟩

/-- The default memory is full of zeros. -/
instance : Inhabited Memory :=
  ⟨zero⟩

/-- The memory that holds the given bytes from address 0 on, and zeros behind them. Bytes for
which there is no address are dropped. -/
def ofList (bytes : List UInt8) : Memory :=
  ⟨Vector.ofFn fun i => bytes.getD i 0⟩

/-- The byte at an address. -/
def read (memory : Memory) (address : UInt8) : UInt8 :=
  have _bound : address.toNat < 256 := address.toNat_lt
  memory.cells[address.toNat]

/-- The memory with one byte replaced. -/
def write (memory : Memory) (address value : UInt8) : Memory :=
  ⟨memory.cells.set address.toNat value address.toNat_lt⟩

/-- The bytes in the order of their addresses. -/
def toList (memory : Memory) : List UInt8 :=
  memory.cells.toList

/-- A memory is determined by what is read from it. -/
theorem ext_read {m n : Memory} (h : ∀ address, m.read address = n.read address) : m = n := by
  obtain ⟨m⟩ := m
  obtain ⟨n⟩ := n
  congr 1
  refine Vector.ext fun i hi => ?_
  have hi' : i % 256 = i := Nat.mod_eq_of_lt hi
  simpa [read, hi'] using h (UInt8.ofNat i)

/-- The empty memory reads as zero. -/
@[simp] theorem read_zero (address : UInt8) : zero.read address = 0 := by
  simp [zero, read]

/-- A filled memory holds the list, and zeros behind it. -/
@[simp] theorem read_ofList (bytes : List UInt8) (address : UInt8) :
    (ofList bytes).read address = bytes.getD address.toNat 0 := by
  simp [ofList, read]

/-- A write is seen at its own address and nowhere else. -/
theorem read_write (memory : Memory) (a b value : UInt8) :
    (memory.write a value).read b = if b = a then value else memory.read b := by
  have h : a.toNat = b.toNat ↔ b = a := by rw [UInt8.toNat_inj, eq_comm]
  simp [write, read, Vector.getElem_set, h]

end Memory

end Hex8
