import Hex8.Asm.Layout

set_option relaxedAutoImplicit false
set_option autoImplicit false

/-!
# The assembler

Assembling a text takes four passes over its lines: they are read, laid out, searched for labels,
and written into the memories. Each pass stops at the first line with an error, and no later pass
begins before the earlier ones have succeeded for all lines.

## Main definitions

* `Hex8.Asm.Assembly` — a program together with its annotated lines.
* `Hex8.Asm.collectLabels` — the labels of all lines.
* `Hex8.Asm.writeLines` — the words of all lines.
* `Hex8.Asm.assemble` — all passes.
-/

namespace Hex8.Asm

/-- A program together with its annotated lines. -/
structure Assembly where
  /-- The program. -/
  program : Program
  /-- The lines. -/
  lines : List SourceLine
  deriving DecidableEq

/-- The names with the labels of further lines. -/
def collectLabels (symbols : Symbols) : List SourceLine → Except AssembleError Symbols
  | [] => .ok symbols
  | line :: others =>
    match line.label, line.address with
    | some name, some address =>
      if (symbols.find? name).isSome then .error (.duplicateLabel line.number name)
      else collectLabels (symbols.define name address) others
    | _, _ => collectLabels symbols others

/-- The program with further lines. -/
def writeLines (program : Program) : List SourceLine → Except AssembleError Program
  | [] => .ok program
  | line :: others =>
    match program.write line with
    | (_, .error cause) => .error (line.error cause)
    | (program, .ok ()) => writeLines program others

/-- Assembles the characters of a text. -/
def assembleChars (chars : List Char) : Except AssembleError Assembly := do
  let numbered ← (parseSource chars).mapError AssembleError.unreadable
  let lines ← layout 0 numbered
  let symbols ← collectLabels .empty lines
  let program ← writeLines { Program.empty with symbols } lines
  return { program, lines }

/-- Assembles a text. -/
def assemble (text : String) : Except AssembleError Assembly :=
  assembleChars text.toList

end Hex8.Asm
