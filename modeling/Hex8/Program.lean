import Hex8.Memory

set_option relaxedAutoImplicit false
set_option autoImplicit false

/-!
# Programs

A program is what both memories hold before the first instruction, together with the names of
addresses that were used to write it down.

## Main definitions

* `Hex8.Symbols` — names of addresses, in the order of their definition.
* `Hex8.Program` — two memories and the names.
* `Hex8.Program.ofWords` — the program with the given instruction words.
-/

namespace Hex8

/-- Names of addresses, in the order of their definition. -/
structure Symbols where
  /-- Each name with its address. -/
  entries : List (String × UInt8)
  deriving DecidableEq

namespace Symbols

/-- No names. -/
def empty : Symbols :=
  ⟨[]⟩

/-- The default symbols are none at all. -/
instance : Inhabited Symbols :=
  ⟨empty⟩

/-- The address with the given name. -/
def find? (symbols : Symbols) (name : String) : Option UInt8 :=
  symbols.entries.lookup name

/-- The names with one more behind them. -/
def define (symbols : Symbols) (name : String) (address : UInt8) : Symbols :=
  ⟨symbols.entries ++ [(name, address)]⟩

/-- Whether some characters come before or are the same as others, by their code points. -/
def precedes : List Char → List Char → Bool
  | [], _ => true
  | _ :: _, [] => false
  | c :: chars, d :: others => c.toNat < d.toNat || (c == d && precedes chars others)

/-- The names with their addresses in ascending order of the names. -/
def sorted (symbols : Symbols) : List (String × UInt8) :=
  symbols.entries.mergeSort fun x y => precedes x.1.toList y.1.toList

end Symbols

/-- What both memories hold before the first instruction, and the names of addresses. -/
structure Program where
  /-- The instruction memory. -/
  imem : Memory
  /-- The data memory. -/
  dmem : Memory
  /-- The names. -/
  symbols : Symbols
  deriving DecidableEq

namespace Program

/-- The program of zeros. -/
def empty : Program :=
  { imem := .zero, dmem := .zero, symbols := .empty }

/-- The default program is the empty one. -/
instance : Inhabited Program :=
  ⟨empty⟩

/-- The program with the given instruction words from address 0 on. -/
def ofWords (words : List UInt8) : Program :=
  { empty with imem := .ofList words }

end Program

end Hex8
