set_option relaxedAutoImplicit false
set_option autoImplicit false

/-!
# Hexadecimal numbers

The two ways in which the program writes numbers in base sixteen: a byte with exactly two
digits, and any number with as few digits as possible. Digits above nine are lower case.

## Main definitions

* `Hex8.Hex.byte` — the two digits of a byte.
* `Hex8.Hex.prefixedByte` — the same behind `0x`.
* `Hex8.Hex.prefixedNat` — a number of any size behind `0x`, without leading zeros.

## Main results

* `Hex8.Hex.length_byte` — a byte always takes two characters.
-/

namespace Hex8.Hex

/-- The two hexadecimal digits of a byte, the high one first. -/
def byte (b : UInt8) : String :=
  String.ofList [Nat.digitChar (b.toNat / 16), Nat.digitChar (b.toNat % 16)]

/-- A byte as `0x` and its two digits. -/
def prefixedByte (b : UInt8) : String :=
  "0x" ++ byte b

/-- A number as `0x` and its digits without leading zeros. -/
def prefixedNat (n : Nat) : String :=
  "0x" ++ String.ofList (Nat.toDigits 16 n)

/-- A byte always takes two characters. -/
@[simp] theorem length_byte (b : UInt8) : (byte b).length = 2 := by
  simp [byte]

end Hex8.Hex
