import Hex8.Asm.SourceLine

set_option relaxedAutoImplicit false
set_option autoImplicit false

/-!
# Layout of the instruction memory

The lines of a text are gone through in order, with a cursor that says where the next word goes.
Each instruction and each `.byte` moves it on by one; `.pos` moves it anywhere. A label stands for
the position of the cursor at its line, or for the new one if `.pos` is in the same line.

## Main definitions

* `Hex8.Asm.Numeral.check` — a numeral as a number of the right size.
* `Hex8.Asm.wordAddress` — the cursor as an address.
* `Hex8.Asm.SourceLine.placeLabel`, `Hex8.Asm.SourceLine.placeStatement` — the two halves of a
  line.
* `Hex8.Asm.placeLine`, `Hex8.Asm.layout` — a line and all lines.

## Design

The cursor may stand behind the last address as long as no label and no word needs an address
there.
-/

namespace Hex8.Asm

/-- A numeral as the number for a quantity. -/
def Numeral.check (quantity : Quantity) (numeral : Numeral) : Except LineError UInt8 :=
  if numberLimit ≤ numeral.value then .error (.invalidNumber numeral.text)
  else if quantity.max < numeral.value then .error (.outOfRange quantity numeral.text)
  else .ok (UInt8.ofNat numeral.value)

/-- The cursor as the address of a word. -/
def wordAddress (cursor : Nat) : Except LineError UInt8 :=
  if cursor < 256 then .ok (UInt8.ofNat cursor) else .error (.beyondMemory cursor)

/-- The operand of an instruction as far as it is known without the labels; a missing one is
zero. -/
def Immediate.ofOperand : Option (Located Operand) → Except LineError Immediate
  | none => .ok (.number 0)
  | some ⟨_, .name name⟩ => .ok (.label name)
  | some ⟨_, .number numeral⟩ => (numeral.check .immediate).map .number

namespace SourceLine

/-- A line that says nothing. -/
def blank (text : String) (number : Nat) : SourceLine :=
  { address := none, inst := none, word := none, label := none, data := none, text, number }

/-- The line with a label at the cursor. -/
def placeLabel (cursor : Nat) (label : Option String) (line : SourceLine) :
    Except LineError SourceLine :=
  match label with
  | none => .ok line
  | some name => do
    let address ← wordAddress cursor
    return { line with label := some name, address := some address }

/-- The line with a statement at the cursor, and the cursor behind it. -/
def placeStatement (cursor : Nat) (statement : Option (Located Statement)) (line : SourceLine) :
    Except LineError (SourceLine × Nat) :=
  match statement with
  | none => .ok (line, cursor)
  | some ⟨_, .inst mnemonic operand⟩ =>
    match Opcode.ofName? mnemonic with
    | none => .error (.unknownInstruction mnemonic)
    | some op => do
      let immediate ← Immediate.ofOperand operand
      let address ← wordAddress cursor
      return ({ line with address := some address, inst := some (op, immediate) }, cursor + 1)
  | some ⟨_, .position target⟩ => do
    let target ← target.val.check .position
    return ({ line with address := some target }, target.toNat)
  | some ⟨_, .byte value⟩ => do
    let address ← wordAddress cursor
    let value ← value.val.check .byte
    return ({ line with address := some address, word := some value }, cursor + 1)
  | some ⟨_, .data address value⟩ => do
    let address ← address.val.check .address
    let value ← value.val.check .data
    return ({ line with data := some (address, value) }, cursor)

end SourceLine

/-- A line at the cursor, and the cursor behind it. -/
def placeLine (cursor number : Nat) (line : Line) : Except LineError (SourceLine × Nat) := do
  let labelled ← (SourceLine.blank line.text number).placeLabel cursor line.label
  labelled.placeStatement cursor line.statement

/-- All lines, the first one at the cursor. -/
def layout (cursor : Nat) : List NumberedLine → Except AssembleError (List SourceLine)
  | [] => .ok []
  | first :: others =>
    match placeLine cursor first.number first.line with
    | .error cause => .error (.line first.number first.line.text cause)
    | .ok (line, cursor) => do
      let lines ← layout cursor others
      return line :: lines

end Hex8.Asm
