import Hex8.Asm.Assemble
import Hex8.Log.Event
import Hex8.Text.Quoted

set_option relaxedAutoImplicit false
set_option autoImplicit false

/-!
# Messages of the assembler

What the assembler has to say about its work: each label and each statement before it is looked
at, each line behind it, and all labels once they are known. There is nothing to say about a text
that cannot be read, and nothing more behind the first error.

## Main definitions

* `Hex8.Asm.Part` — a part of a line with its parts.
* `Hex8.Asm.SourceLine.fieldText` — an annotated line with the names of its fields.
* `Hex8.Asm.assemblerEvents` — all messages about a text.

## Design

Places are given in bytes of the text in UTF-8.
-/

namespace Hex8.Asm

/-- A part of a line with its parts: which rule it follows, where it begins and ends in the line's
text, and what is in it. -/
inductive Part
  /-- A part without or with parts. -/
  | mk (rule : String) (start stop : Nat) (inner : List Part)

/-- The number of bytes of some characters. -/
def byteCount (chars : List Char) : Nat :=
  chars.foldl (fun bytes c => bytes + c.utf8Size) 0

namespace Part

mutual

/-- A part of a line whose text begins at the given byte. -/
def text (base : Nat) (line : List Char) : Part → String
  | mk rule start stop inner =>
    let part := (line.take stop).drop start
    let first := base + byteCount (line.take start)
    "Pair \x7b rule: " ++ rule ++
      ", span: Span \x7b str: " ++ Quoted.encode (String.ofList part) ++
      ", range: " ++ toString first ++ ".." ++ toString (first + byteCount part) ++
      " \x7d, inner: [" ++ ", ".intercalate (texts base line inner) ++ "] \x7d"

/-- Several parts of a line. -/
def texts (base : Nat) (line : List Char) : List Part → List String
  | [] => []
  | node :: nodes => text base line node :: texts base line nodes

end

/-- A numeral. -/
def ofNumeral (numeral : Located Numeral) : Part :=
  mk "num" numeral.offset (numeral.offset + numeral.val.chars.length) []

/-- A name. -/
def ofName (offset : Nat) (name : String) : Part :=
  mk "ident" offset (offset + name.length) []

/-- A label. -/
def ofLabel (name : String) : Part :=
  mk "label" 0 (name.length + 1) [ofName 0 name]

/-- An operand. -/
def ofOperand : Located Operand → Part
  | ⟨offset, .number numeral⟩ =>
    mk "operand" offset (offset + numeral.chars.length) [ofNumeral ⟨offset, numeral⟩]
  | ⟨offset, .name name⟩ => mk "operand" offset (offset + name.length) [ofName offset name]

/-- A statement, which ends where the line's text does. -/
def ofStatement (size : Nat) : Located Statement → Part
  | ⟨offset, .position address⟩ => mk "d_pos" offset size [ofNumeral address]
  | ⟨offset, .byte value⟩ => mk "d_byte" offset size [ofNumeral value]
  | ⟨offset, .data address value⟩ => mk "d_data" offset size [ofNumeral address, ofNumeral value]
  | ⟨offset, .inst mnemonic operand⟩ =>
    mk "inst" offset size (ofName offset mnemonic :: (operand.map ofOperand).toList)

end Part

/-- A value that may be missing. -/
def optionText {α : Type} (text : α → String) : Option α → String
  | none => "None"
  | some value => "Some(" ++ text value ++ ")"

/-- A byte in decimal. -/
def byteText (value : UInt8) : String :=
  toString value.toNat

/-- An operand with its kind. -/
def Immediate.fieldText : Immediate → String
  | number value => "Num(" ++ byteText value ++ ")"
  | label name => "Label(" ++ Quoted.encode name ++ ")"

/-- An annotated line with the names of its fields. -/
def SourceLine.fieldText (line : SourceLine) : String :=
  "SourceInfo \x7b addr: " ++ optionText byteText line.address ++
    ", inst: " ++ optionText (fun (op, immediate) =>
      "(" ++ op.name ++ ", " ++ immediate.fieldText ++ ")") line.inst ++
    ", word: " ++ optionText byteText line.word ++
    ", label: " ++ optionText Quoted.encode line.label ++
    ", data: " ++ optionText (fun (address, value) =>
      "(" ++ byteText address ++ ", " ++ byteText value ++ ")") line.data ++
    ", src: " ++ Quoted.encode line.text ++
    ", line: " ++ toString line.number ++ " \x7d"

/-- All labels with their addresses. -/
def symbolsText (symbols : Symbols) : String :=
  "\x7b" ++ ", ".intercalate (symbols.sorted.map fun (name, address) =>
    Quoted.encode name ++ ": " ++ byteText address) ++ "\x7d"

/-- A message of the assembler. -/
def assemblerEvent (message : String) : Event :=
  ⟨.debug, "hex8_sim::asm", message⟩

/-- The messages about some lines of a text, the first one at the cursor. -/
def lineEvents (chars : List Char) (cursor : Nat) : List NumberedLine → List Event
  | [] => []
  | ⟨offset, number, line⟩ :: others =>
    let base := byteCount (chars.take (offset + line.indent))
    let text := line.text.toList
    let nodeEvent (node : Part) := assemblerEvent (node.text base text)
    (line.label.map (nodeEvent ∘ .ofLabel)).toList ++
      match (SourceLine.blank line.text number).placeLabel cursor line.label with
      | .error _ => []
      | .ok labelled =>
        (line.statement.map (nodeEvent ∘ .ofStatement text.length)).toList ++
          match labelled.placeStatement cursor line.statement with
          | .error _ => []
          | .ok (placed, cursor) =>
            assemblerEvent placed.fieldText :: lineEvents chars cursor others

/-- The message about all labels, if there is no error before. -/
def symbolEvents (lines : List NumberedLine) : List Event :=
  match layout 0 lines >>= collectLabels .empty with
  | .error _ => []
  | .ok symbols => [assemblerEvent (symbolsText symbols)]

/-- All messages about a text. -/
def assemblerEvents (source : String) : List Event :=
  match parseSource source.toList with
  | .error _ => []
  | .ok lines => lineEvents source.toList 0 lines ++ symbolEvents lines

end Hex8.Asm
