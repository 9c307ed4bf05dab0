set_option relaxedAutoImplicit false
set_option autoImplicit false

/-!
# Bytes and larger numbers

Registers, addresses, instruction words and immediates are all bytes, of which there are few
enough to look at each one. Numerals in a text and on a command line may stand for more than a byte,
but not for more than 64 bits.

## Main definitions

* `Hex8.numberLimit` — the bound of all numerals.

## Main results

* `Hex8.forall_byte` — a property of all bytes can be checked value by value.
-/

namespace Hex8

/-- The least number that is too large to be looked at, whatever it stands for: `2 ^ 64`. -/
def numberLimit : Nat :=
  18446744073709551616

/-- A property of all bytes can be checked value by value. -/
theorem forall_byte {P : UInt8 → Prop} (h : ∀ i : Fin 256, P (UInt8.ofFin i)) (b : UInt8) :
    P b := by
  have value := h b.toFin
  rwa [UInt8.ofFin_toFin] at value

end Hex8
