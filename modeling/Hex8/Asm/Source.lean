import Hex8.Asm.Line

set_option relaxedAutoImplicit false
set_option autoImplicit false

/-!
# Assembly texts

A text is a sequence of lines with line breaks between them. The lines are read one by one; the
first one that cannot be read decides where and why the whole text cannot be.

## Main definitions

* `Hex8.Asm.LineBreak`, `Hex8.Asm.splitLines`, `Hex8.Asm.joinLines` — the lines of a text and the
  breaks between them.
* `Hex8.Asm.NumberedLine` — a line with its place in the text.
* `Hex8.Asm.parseSource` — reads a text.
* `Hex8.Asm.SyntaxError` — where and why a text cannot be read.

## Main results

* `Hex8.Asm.joinLines_splitLines` — nothing is lost between the lines.
* `Hex8.Asm.splitLines_no_break` — no line contains a line break.

## Design

A carriage return alone breaks a line, but only line feeds are counted in the numbers of lines.
-/

namespace Hex8.Asm

/-! ### Lines and line breaks -/

/-- What stands between two lines. -/
inductive LineBreak
  /-- A line feed. -/
  | lf
  /-- A carriage return and a line feed. -/
  | crlf
  /-- A carriage return. -/
  | cr
  deriving DecidableEq

namespace LineBreak

/-- The characters of a line break. -/
def chars : LineBreak → List Char
  | lf => ['\n']
  | crlf => ['\r', '\n']
  | cr => ['\r']

/-- How many lines are counted at a line break. -/
def lines : LineBreak → Nat
  | lf | crlf => 1
  | cr => 0

end LineBreak

/-- The first line of a text, and each other one with the break in front of it. -/
def splitLines : List Char → List Char × List (LineBreak × List Char)
  | [] => ([], [])
  | '\n' :: rest =>
    let (line, others) := splitLines rest
    ([], (.lf, line) :: others)
  | '\r' :: '\n' :: rest =>
    let (line, others) := splitLines rest
    ([], (.crlf, line) :: others)
  | '\r' :: rest =>
    let (line, others) := splitLines rest
    ([], (.cr, line) :: others)
  | c :: rest =>
    let (line, others) := splitLines rest
    (c :: line, others)

/-- The text of given lines. -/
def joinLines (first : List Char) (others : List (LineBreak × List Char)) : List Char :=
  first ++ others.flatMap fun (lineBreak, line) => lineBreak.chars ++ line

/-- Nothing is lost between the lines. -/
theorem joinLines_splitLines (chars : List Char) :
    joinLines (splitLines chars).1 (splitLines chars).2 = chars := by
  fun_induction splitLines chars <;> simp_all [joinLines, LineBreak.chars]

/-- No line contains a line break. -/
theorem splitLines_no_break (chars : List Char) :
    ∀ line ∈ (splitLines chars).1 :: (splitLines chars).2.map Prod.snd,
      '\n' ∉ line ∧ '\r' ∉ line := by
  fun_induction splitLines chars <;> grind

/-! ### Reading a text -/

/-- A line with its place in the text. -/
structure NumberedLine where
  /-- How many characters of the text are in front of the line. -/
  offset : Nat
  /-- The number of the line. -/
  number : Nat
  /-- What the line says. -/
  line : Line
  deriving DecidableEq

/-- Where and why a text cannot be read. -/
structure SyntaxError where
  /-- The characters in front of the place. -/
  front : List Char
  /-- The characters behind it. -/
  back : List Char
  /-- What could have stood there. -/
  expected : Expected
  deriving DecidableEq

namespace SyntaxError

/-- The number of the line in which the place is. -/
def line (error : SyntaxError) : Nat :=
  1 + error.front.count '\n'

/-- The characters between the latest line feed and the place. -/
def rowFront (error : SyntaxError) : List Char :=
  (error.front.reverse.takeWhile (· ≠ '\n')).reverse

/-- The position of the place in its line, counted from one. -/
def column (error : SyntaxError) : Nat :=
  error.rowFront.length + 1

end SyntaxError

/-- A place in a text, with what could have stood there. At the very beginning of a text that is
the text as a whole. -/
def SyntaxError.atOffset (chars : List Char) (offset : Nat) (expected : Expected) : SyntaxError :=
  { front := chars.take offset
    back := chars.drop offset
    expected := if offset = 0 then .source else expected }

/-- Reads the lines behind a place of the text: how many characters and how many counted lines are
in front of each one is counted from there. -/
def parseLinesFrom (offset number : Nat) (first : List Char) :
    List (LineBreak × List Char) → Except (Nat × Expected) (List NumberedLine)
  | [] =>
    match Line.parse first with
    | .error fault => .error (offset + fault.offset, fault.expected)
    | .ok line => .ok [⟨offset, number, line⟩]
  | (lineBreak, second) :: others =>
    match Line.parse first with
    | .error fault => .error (offset + fault.offset, fault.expected)
    | .ok line =>
      let offset' := offset + first.length + lineBreak.chars.length
      match parseLinesFrom offset' (number + lineBreak.lines) second others with
      | .error fault => .error fault
      | .ok lines => .ok (⟨offset, number, line⟩ :: lines)

/-- Reads a text. -/
def parseSource (chars : List Char) : Except SyntaxError (List NumberedLine) :=
  let (first, others) := splitLines chars
  match parseLinesFrom 0 1 first others with
  | .error (offset, expected) => .error (.atOffset chars offset expected)
  | .ok lines => .ok lines

end Hex8.Asm
