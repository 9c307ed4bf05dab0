set_option relaxedAutoImplicit false
set_option autoImplicit false

/-!
# Bus signals

A core and the two memories around it are joined by a bundle of wires. Its values during one clock
cycle are all that can be seen of a core from outside.

## Main definitions

* `Hex8.Signals` — the values of the wires during one cycle.
* `Hex8.Register`, `Hex8.Register.writeBack` — the destination of a load.
* `Hex8.Request` — an access to the data memory that a core asks for.
* `Hex8.Signals.driveFetch`, `Hex8.Signals.driveRequest` — requests on the wires.

## Design

The address wires carry a value even while nothing is requested. Such a value means nothing, but it
is visible.
-/

namespace Hex8

/-- The register values that a core shows at the end of a cycle. -/
structure Commit where
  /-- The register `A`. -/
  areg : UInt8
  /-- The register `B`. -/
  breg : UInt8
  /-- The byte that a completed load has delivered. -/
  value : UInt8
  deriving DecidableEq, Inhabited

/-- The values of the wires during one cycle. -/
structure Signals where
  /-- The core is held in reset. -/
  reset : Bool
  /-- An instruction word is requested. -/
  fetchValid : Bool
  /-- The address of the requested word. -/
  fetchAddress : UInt8
  /-- The instruction word that was requested before. -/
  word : UInt8
  /-- An access to the data memory is requested. -/
  accessValid : Bool
  /-- The access is a store. -/
  accessWrite : Bool
  /-- The address of the access. -/
  accessAddress : UInt8
  /-- The byte to store. -/
  accessData : UInt8
  /-- The registers at the end of the cycle. -/
  result : Commit
  deriving DecidableEq, Inhabited

/-- The registers that a program computes with. -/
inductive Register
  /-- The register `A`. -/
  | a
  /-- The register `B`. -/
  | b
  deriving DecidableEq

/-- Both registers, `A` first, after a value has been written into one of them. -/
def Register.writeBack (destination : Register) (value areg breg : UInt8) : UInt8 × UInt8 :=
  match destination with
  | .a => (value, breg)
  | .b => (areg, value)

/-- An access to the data memory that a core asks for. -/
inductive Request
  /-- Reads the byte at an address into a register. -/
  | load (destination : Register) (address : UInt8)
  /-- Writes a byte at an address. -/
  | store (address data : UInt8)
  deriving DecidableEq

namespace Request

/-- The address of the access. -/
def address : Request → UInt8
  | load _ address => address
  | store address _ => address

/-- The byte to store, zero for a load. -/
def data : Request → UInt8
  | load _ _ => 0
  | store _ data => data

/-- Whether the access is a store. -/
def isStore : Request → Bool
  | load _ _ => false
  | store _ _ => true

/-- The register that a load fills. -/
def destination? : Request → Option Register
  | load destination _ => some destination
  | store _ _ => none

end Request

namespace Signals

/-- The wires while the word at an address is requested. -/
def driveFetch (signals : Signals) (address : UInt8) : Signals :=
  { signals with fetchValid := true, fetchAddress := address }

/-- The wires while an access to the data memory is requested. -/
def driveRequest (signals : Signals) (request : Request) : Signals :=
  { signals with
    accessValid := true
    accessWrite := request.isStore
    accessAddress := request.address
    accessData := request.data }

/-- The wires while an access may be requested. -/
def driveRequest? (signals : Signals) : Option Request → Signals
  | none => signals
  | some request => signals.driveRequest request

end Signals

end Hex8
