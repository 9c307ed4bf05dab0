set_option relaxedAutoImplicit false
set_option autoImplicit false

/-!
# Operation codes

The upper four bits of an instruction word select one of sixteen operations; every value is in use.
The two registers that a program computes with are called `A` and `B`. The *operand* is the
immediate of the instruction, extended by a pending prefix.

## Main definitions

* `Hex8.Opcode` — the sixteen operations, in the order of their codes.
* `Hex8.Opcode.value`, `Hex8.Opcode.ofBits` — from an operation to its code and back.
* `Hex8.Opcode.name`, `Hex8.Opcode.ofName?` — from an operation to its mnemonic and back; reading
  ignores the case of ASCII letters.
* `Hex8.Opcode.isPcRelative` — operations whose operand counts from the instruction's own address.
* `Hex8.Access`, `Hex8.Opcode.access` — how an operation uses the data memory.

## Main results

* `Hex8.Opcode.ofName?_name` — every mnemonic is read back.
-/

namespace Hex8

/-- How an instruction uses the data memory. -/
inductive Access
  /-- The data memory is not used. -/
  | nothing
  /-- A byte is read. -/
  | load
  /-- A byte is written. -/
  | store
  deriving DecidableEq, Inhabited

/-- The operations, in the order of their codes. -/
inductive Opcode
  /-- `A` becomes the byte at the operand. -/
  | ldam
  /-- `B` becomes the byte at the operand. -/
  | ldbm
  /-- `A` is stored at the operand. -/
  | stam
  /-- `A` becomes the operand. -/
  | ldac
  /-- `B` becomes the operand. -/
  | ldbc
  /-- `A` becomes the instruction's address plus the operand. -/
  | ldap
  /-- `A` becomes the byte at `A` plus the operand. -/
  | ldai
  /-- `B` becomes the byte at `B` plus the operand. -/
  | ldbi
  /-- `A` is stored at `B` plus the operand. -/
  | stai
  /-- Continues at the instruction's address plus the operand. -/
  | br
  /-- The same if `A` is zero. -/
  | brz
  /-- The same if `A` is negative as a signed byte. -/
  | brn
  /-- Continues at the address in `B`. -/
  | brb
  /-- `A` becomes `A` plus `B`. -/
  | add
  /-- `A` becomes `A` minus `B`. -/
  | sub
  /-- The immediate becomes the upper half of the next instruction's operand. -/
  | pfix
  deriving DecidableEq, Inhabited

namespace Opcode

/-- All operations, in the order of their codes. -/
def all : Vector Opcode 16 :=
  #v[ldam, ldbm, stam, ldac, ldbc, ldap, ldai, ldbi, stai, br, brz, brn, brb, add, sub, pfix]

/-- The operation whose code is given by the lower four bits. -/
def ofBits (bits : UInt8) : Opcode :=
  all.get (Fin.ofNat 16 bits.toNat)

/-- The code of an operation. -/
def value : Opcode → UInt8
  | ldam => 0x0
  | ldbm => 0x1
  | stam => 0x2
  | ldac => 0x3
  | ldbc => 0x4
  | ldap => 0x5
  | ldai => 0x6
  | ldbi => 0x7
  | stai => 0x8
  | br => 0x9
  | brz => 0xa
  | brn => 0xb
  | brb => 0xc
  | add => 0xd
  | sub => 0xe
  | pfix => 0xf

/-- The mnemonic of an operation. -/
def name : Opcode → String
  | ldam => "LDAM"
  | ldbm => "LDBM"
  | stam => "STAM"
  | ldac => "LDAC"
  | ldbc => "LDBC"
  | ldap => "LDAP"
  | ldai => "LDAI"
  | ldbi => "LDBI"
  | stai => "STAI"
  | br => "BR"
  | brz => "BRZ"
  | brn => "BRN"
  | brb => "BRB"
  | add => "ADD"
  | sub => "SUB"
  | pfix => "PFIX"

/-- The operation with the given mnemonic, in any mixture of upper and lower case. -/
def ofName? (text : String) : Option Opcode :=
  all.toList.find? fun op => op.name.toList == text.toList.map Char.toUpper

/-- Whether the operand is an offset from the instruction's own address. -/
def isPcRelative : Opcode → Bool
  | ldap | br | brz | brn => true
  | _ => false

/-- How the operation uses the data memory. -/
def access : Opcode → Access
  | ldam | ldbm | ldai | ldbi => .load
  | stam | stai => .store
  | _ => .nothing

/-- Every mnemonic is read back as its operation. -/
@[simp] theorem ofName?_name (op : Opcode) : ofName? op.name = some op := by
  cases op <;> rfl

end Opcode

end Hex8
