import Hex8.Asm.Source
import Hex8.Isa.Opcode
import Hex8.Text.Blank
import Hex8.Text.Hex

set_option relaxedAutoImplicit false
set_option autoImplicit false

/-!
# Errors of the assembler

A text that cannot be assembled has exactly one reported error, which names its place and its
cause. How an error is worded is decided here and nowhere else.

## Main definitions

* `Hex8.Asm.Quantity` — the numbers in a text, with their names and their largest values.
* `Hex8.Asm.LineError` — what is wrong with a line that can be read.
* `Hex8.Asm.AssembleError` — what is wrong with a text.
* `Hex8.Asm.SyntaxError.drawing` — the place of a syntax error, pointed at.
* `Hex8.Asm.AssembleError.chain` — an error in words, the most general statement first.
-/

namespace Hex8.Asm

/-- The numbers in a text. -/
inductive Quantity
  /-- The operand of an instruction. -/
  | immediate
  /-- The address of the next word. -/
  | position
  /-- A word. -/
  | byte
  /-- An address of the data memory. -/
  | address
  /-- A byte of the data memory. -/
  | data
  deriving DecidableEq

namespace Quantity

/-- The name of a quantity. -/
def name : Quantity → String
  | immediate => "immediate"
  | position => "position"
  | byte => "byte"
  | address => "address"
  | data => "data"

/-- The largest value of a quantity. -/
def max : Quantity → Nat
  | immediate => 15
  | _ => 255

end Quantity

/-- What is wrong with a line that can be read. -/
inductive LineError
  /-- There is no such instruction. -/
  | unknownInstruction (mnemonic : String)
  /-- A numeral is far too large for any number here. -/
  | invalidNumber (numeral : String)
  /-- A number is too large for what it stands for. -/
  | outOfRange (quantity : Quantity) (numeral : String)
  /-- There is no address left in the instruction memory. -/
  | beyondMemory (address : Nat)
  /-- There is no such label. -/
  | undefinedLabel (name : String)
  /-- An address or an offset is too large for an instruction word. -/
  | operandTooLarge (value : UInt8) (op : Opcode)
  deriving DecidableEq

/-- What is wrong with a line, in words. -/
def LineError.message : LineError → String
  | unknownInstruction mnemonic => "unknown instruction `" ++ mnemonic ++ "`"
  | invalidNumber numeral => "invalid number `" ++ numeral ++ "`"
  | outOfRange quantity numeral =>
    quantity.name ++ " " ++ numeral ++ " out of range 0..=" ++ toString quantity.max
  | beyondMemory address =>
    "address " ++ Hex.prefixedNat address ++ " is beyond the instruction memory"
  | undefinedLabel name => "undefined label `" ++ name ++ "`"
  | operandTooLarge value op =>
    "operand " ++ Hex.prefixedByte value ++ " of " ++ op.name ++
      " does not fit in 4 bits, use pfix"

/-- What is wrong with a text. -/
inductive AssembleError
  /-- It cannot be read. -/
  | unreadable (error : SyntaxError)
  /-- Something is wrong with the line of the given number and text. -/
  | line (number : Nat) (text : String) (cause : LineError)
  /-- A label is defined for the second time. -/
  | duplicateLabel (number : Nat) (name : String)
  deriving DecidableEq

namespace SyntaxError

/-- The row of the text in which the place is, between line feeds. Line breaks are made visible if
the place is at one of them, and are left out otherwise. -/
def row (error : SyntaxError) : List Char :=
  let visible : Bool :=
    match error.back with
    | c :: _ => c = '\n' || c = '\r'
    | [] => false
  let rest := error.back.takeWhile (· ≠ '\n')
  let ending := if rest.length < error.back.length then ['\n'] else []
  (error.rowFront ++ rest ++ ending).filterMap fun c =>
    if c = '\n' then if visible then some '␊' else none
    else if c = '\r' then if visible then some '␍' else none
    else some c

/-- What points at the place from below: tabs stay tabs, so that it stands in the right column. -/
def pointer (error : SyntaxError) : List Char :=
  (error.row.take (error.column - 1)).map (fun c => if c = '\t' then '\t' else ' ') ++
    "^---".toList

/-- The place of a syntax error, pointed at, and what could have stood there. -/
def drawing (error : SyntaxError) : String :=
  let number := toString error.line
  let margin := String.ofList (List.replicate number.length ' ')
  "\n".intercalate
    [margin ++ "--> " ++ number ++ ":" ++ toString error.column,
     margin ++ " |",
     number ++ " | " ++ String.ofList error.row,
     margin ++ " | " ++ String.ofList error.pointer,
     margin ++ " |",
     margin ++ " = " ++ error.expected.message]

/-- What every syntax error has in common, the most general statement first. -/
def headings : List String :=
  ["fail to assemble hex8 source", "fail to parse hex8 source"]

end SyntaxError

/-- An error in words, the most general statement first and the cause last. -/
def AssembleError.chain : AssembleError → List String
  | unreadable error => SyntaxError.headings ++ [error.drawing]
  | line number text cause =>
    ["line " ++ toString number ++ ": `" ++ Blank.trim text ++ "`", cause.message]
  | duplicateLabel number name =>
    ["line " ++ toString number ++ ": duplicated label `" ++ name ++ "`"]

end Hex8.Asm
