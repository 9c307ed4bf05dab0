import Hex8.Asm.Assemble
import Hex8.Text.Column

set_option relaxedAutoImplicit false
set_option autoImplicit false

/-!
# Listings

A listing shows each line of a text behind a column with what it has put into the memories. Words
are shown as they are in the end, also where a later line has replaced them.

## Main definitions

* `Hex8.Asm.SourceLine.annotation` — the column in front of a line.
* `Hex8.Asm.Assembly.listing` — all lines with their columns.
-/

namespace Hex8.Asm

/-- The column in front of a line: its word, its byte of the data memory, its address, or
nothing. -/
def SourceLine.annotation (imem : Memory) (line : SourceLine) : String :=
  match line.address, line.data with
  | some address, data =>
    if line.hasWord then
      Hex.prefixedByte address ++ ": " ++ Hex.byte (imem.read address) ++ "   "
    else
      match data with
      | some (address, value) => "[" ++ Hex.prefixedByte address ++ "] " ++ Hex.byte value ++ "  "
      | none => Hex.prefixedByte address ++ ":      "
  | none, some (address, value) =>
    "[" ++ Hex.prefixedByte address ++ "] " ++ Hex.byte value ++ "  "
  | none, none => "           "

/-- A line of a listing. -/
def SourceLine.row (imem : Memory) (line : SourceLine) : String :=
  line.annotation imem ++ "| " ++ line.text ++ "\n"

/-- The annotated lines over the instruction memory that they have led to. -/
def listing (imem : Memory) (lines : List SourceLine) : String :=
  String.join (lines.map (·.row imem))

/-- All lines with their columns. -/
def Assembly.listing (assembly : Assembly) : String :=
  Asm.listing assembly.program.imem assembly.lines

end Hex8.Asm
