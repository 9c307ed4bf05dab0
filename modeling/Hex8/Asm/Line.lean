import Hex8.Asm.Token

set_option relaxedAutoImplicit false
set_option autoImplicit false

/-!
# Lines of assembly text

Each line stands for itself. It holds an optional label, an optional statement, and blanks or a
comment around and between them.

* A label is a name with a colon directly behind it.
* The statements `.pos`, `.byte` and `.data` take numerals: one, one, and two with an optional
  comma between them.
* Every other statement is an instruction: a mnemonic and an optional operand.

## Main definitions

* `Hex8.Asm.Line`, `Hex8.Asm.Statement` — a line and what it says.
* `Hex8.Asm.Line.parse` — reads a line.
* `Hex8.Asm.Fault`, `Hex8.Asm.Expected` — where and why a line cannot be read.

## Main results

* `Hex8.Asm.Line.parse_nil` — an empty line says nothing.

## Design

The parts of a line are known by their distance from its first character that is neither blank nor
part of a comment in front of everything, so that indentation has no part in them. The text of a
line ends with its last token, except behind a label or a mnemonic that is followed by nothing but
blanks and a comment: these then belong to the text.
-/

namespace Hex8.Asm

/-- A part of a line, with its distance from the beginning of the line's text. -/
structure Located (α : Type) where
  /-- How many characters of the line's text are in front of it. -/
  offset : Nat
  /-- The part. -/
  val : α
  deriving DecidableEq

/-- The operand of an instruction. -/
inductive Operand
  /-- A number. -/
  | number (numeral : Numeral)
  /-- The address of a label. -/
  | name (name : String)
  deriving DecidableEq

/-- What a line says. -/
inductive Statement
  /-- The next word goes to the given address. -/
  | position (address : Located Numeral)
  /-- The next word is given by its value. -/
  | byte (value : Located Numeral)
  /-- A byte of the data memory has the given value. -/
  | data (address value : Located Numeral)
  /-- The next word is an instruction. -/
  | inst (mnemonic : String) (operand : Option (Located Operand))
  deriving DecidableEq

/-- A line that has been read. -/
structure Line where
  /-- How many characters are in front of the line's text. -/
  indent : Nat
  /-- The line's text. -/
  text : String
  /-- The label. -/
  label : Option String
  /-- The statement. -/
  statement : Option (Located Statement)
  deriving DecidableEq

/-- What could have stood where a line cannot be read any further. -/
inductive Expected
  /-- The text as a whole. -/
  | source
  /-- A statement or the end. -/
  | statement
  /-- An operand or the end. -/
  | operand
  /-- The end. -/
  | nothing
  /-- The numeral of a directive. -/
  | numeral
  deriving DecidableEq

/-- What could have stood there, in words. -/
def Expected.message : Expected → String
  | source => "expected main"
  | statement => "expected EOI, ident, d_pos, d_byte, or d_data"
  | operand => "expected EOI or operand"
  | nothing => "expected EOI"
  | numeral => "expected num"

/-- Where and why a line cannot be read. -/
structure Fault where
  /-- How many characters of the line are in front of the place. -/
  offset : Nat
  /-- What could have stood there. -/
  expected : Expected
  deriving DecidableEq

namespace Line

/-- The name at the front with a colon directly behind it, and what is left behind the colon. -/
def label? (chars : List Char) : Option (List Char × List Char) :=
  match name? chars with
  | some (name, ':' :: rest) => some (name, rest)
  | _ => none

/-- The operand at the front, and what is left behind it. -/
def operand? (size : Nat) (chars : List Char) : Option (Located Operand) × List Char :=
  let offset := size - chars.length
  match numeral? chars with
  | some (numeral, rest) => (some ⟨offset, .number numeral⟩, rest)
  | none =>
    match name? chars with
    | some (name, rest) => (some ⟨offset, .name (String.ofList name)⟩, rest)
    | none => (none, chars)

/-- The numeral that a directive needs, and what is left behind it; without one, what there is in
its place. -/
def argument (size : Nat) (chars : List Char) :
    Except (List Char) (Located Numeral × List Char) :=
  let chars := skip chars
  match numeral? chars with
  | some (numeral, rest) => .ok (⟨size - chars.length, numeral⟩, rest)
  | none => .error chars

/-- What is left behind blanks and an optional comma. -/
def skipComma (chars : List Char) : List Char :=
  match skip chars with
  | ',' :: rest => rest
  | rest => rest

/-- The statement at the front, if there is one, and what is left behind it. Where a directive
lacks a numeral, the answer is what there is in its place. -/
def statement? (size : Nat) (chars : List Char) :
    Except (List Char) (Option Statement × List Char) :=
  if let some rest := after? ".pos".toList chars then do
    let (address, rest) ← argument size rest
    return (some (.position address), rest)
  else if let some rest := after? ".byte".toList chars then do
    let (value, rest) ← argument size rest
    return (some (.byte value), rest)
  else if let some rest := after? ".data".toList chars then do
    let (address, rest) ← argument size rest
    let (value, rest) ← argument size (skipComma rest)
    return (some (.data address value), rest)
  else if let some (mnemonic, rest) := name? chars then
    let (operand, rest) := operand? size (skip rest)
    return (some (.inst (String.ofList mnemonic) operand), rest)
  else
    return (none, chars)

/-- What could have followed behind a statement. -/
def expectedBehind : Option Statement → Expected
  | none => .statement
  | some (.inst _ none) => .operand
  | some _ => .nothing

/-- Reads a line. -/
def parse (chars : List Char) : Except Fault Line :=
  let body := skip chars
  let (label, front) :=
    match label? body with
    | some (name, rest) => (some (String.ofList name), skip rest)
    | none => (none, body)
  match statement? body.length front with
  | .error rest => .error ⟨chars.length - rest.length, .numeral⟩
  | .ok (statement, rest) =>
    match skip rest with
    | [] =>
      .ok
        { indent := chars.length - body.length
          text := String.ofList (body.take (body.length - rest.length))
          label
          statement := statement.map (⟨body.length - front.length, ·⟩) }
    | rest => .error ⟨chars.length - rest.length, expectedBehind statement⟩

/-- An empty line says nothing. -/
theorem parse_nil : parse [] = .ok ⟨0, "", none, none⟩ := by
  rfl

end Line

end Hex8.Asm
