import Hex8.Proofs.Linking
import Hex8.Proofs.ReadText

set_option relaxedAutoImplicit false
set_option autoImplicit false

/-!
# What a text is assembled to

The passes of the assembler succeed one after another if a text can be read and nothing is wrong
with what its lines say. The program is then a function of what the lines say: the words, the bytes
and the labels are those of the lines at their places, in the order of the lines.

## Main definitions

* `Hex8.Asm.Placement.binding?`, `Hex8.Asm.Placement.cell?` — the label and the word of a line.
* `Hex8.Asm.symbolsOf`, `Hex8.Asm.programOf` — the labels and the program of a text.
* `Hex8.Asm.Placeable`, `Hex8.Asm.Linkable` — when nothing is wrong with the lines.

## Main results

* `Hex8.Asm.assemble_eq_ok_iff` — all passes.
* `Hex8.Asm.Placeable.find?_symbolsOf` — the labels of a text are those that its lines define.
-/

namespace Hex8.Asm

/-! ## What lines become -/

namespace Placement

/-- The label of a line, with its address. -/
def binding? (place : Placement) : Option (String × UInt8) :=
  place.line.label.map (·, UInt8.ofNat place.address)

/-- The word of a line, with its address. -/
def cell? (place : Placement) (symbols : Symbols) : Except LineError (Option (UInt8 × UInt8)) :=
  match place.line.command with
  | some (.byte value) => .ok (some (UInt8.ofNat place.cursor, UInt8.ofNat value.value))
  | some (.inst mnemonic operand) =>
    match Opcode.ofName? mnemonic with
    | none => .ok none
    | some op =>
      ((Operand.immediate operand).resolve symbols op (UInt8.ofNat place.cursor)).map fun imm =>
        some (UInt8.ofNat place.cursor, (Inst.ofNibble op imm).encode)
  | some (.position _) | some (.data _ _) | none => .ok none

/-- The word of a line, with its address, if nothing is wrong with it. -/
def cell (place : Placement) (symbols : Symbols) : Option (UInt8 × UInt8) :=
  (place.cell? symbols).toOption.join

/-- A line has an address if it has a label. -/
lemma binding?_annotate (place : Placement) (text : String) (number : Nat) :
    (place.annotate text number).binding? = place.binding? := by
  obtain ⟨cursor, label, command⟩ := place
  cases label with
  | none => rfl
  | some name => rfl

/-- A line has an address if it has a word. -/
lemma cell?_annotate (symbols : Symbols) (place : Placement) (text : String) (number : Nat) :
    (place.annotate text number).cell? symbols = place.cell? symbols := by
  obtain ⟨cursor, label, command⟩ := place
  rcases command with _ | address | value | ⟨address, value⟩ | ⟨mnemonic, operand⟩
  · cases label <;> rfl
  · cases label <;> rfl
  · cases label <;> rfl
  · cases label <;> rfl
  · have here : (annotate ⟨cursor, ⟨label, some (.inst mnemonic operand)⟩⟩ text number).address =
        some (UInt8.ofNat cursor) := by
      cases label <;> rfl
    have inst : (annotate ⟨cursor, ⟨label, some (.inst mnemonic operand)⟩⟩ text number).inst =
        (Opcode.ofName? mnemonic).map (·, Operand.immediate operand) := rfl
    have word : (annotate ⟨cursor, ⟨label, some (.inst mnemonic operand)⟩⟩ text number).word =
        none := rfl
    simp only [SourceLine.cell?, here, SourceLine.encode?, inst, word, cell?]
    rcases Opcode.ofName? mnemonic with _ | op
    · rfl
    · dsimp only [Option.map_some]
      rcases (Operand.immediate operand).resolve symbols op (UInt8.ofNat cursor) with cause | imm <;>
        rfl

/-- An instruction has a word if its operand can be resolved. -/
lemma exists_cell?_iff {place : Placement} {symbols : Symbols} {mnemonic : String}
    {operand : Option Operand} {op : Opcode}
    (command : place.line.command = some (.inst mnemonic operand)) (named : op.IsNamed mnemonic) :
    (∃ cell, place.cell? symbols = .ok cell) ↔
      ∃ imm, (Operand.immediate operand).resolve symbols op (UInt8.ofNat place.cursor) =
        .ok imm := by
  rw [op.isNamed_iff] at named
  simp only [cell?, command, named]
  rcases (Operand.immediate operand).resolve symbols op (UInt8.ofNat place.cursor) with cause | imm
  · exact ⟨fun ⟨_, h⟩ => (nomatch h), fun ⟨_, h⟩ => (nomatch h)⟩
  · exact ⟨fun _ => ⟨imm, rfl⟩, fun _ => ⟨_, rfl⟩⟩

end Placement

/-- What is done with the annotated lines can be done with the lines at their places. -/
lemma filterMap_annotations {α : Type} {f : SourceLine → Option α} {g : Placement → Option α}
    (same : ∀ place text number, f (Placement.annotate place text number) = g place)
    (numbered : List NumberedLine) :
    (annotations 0 numbered).filterMap f =
      (placements 0 (numbered.map (·.line.content))).filterMap g := by
  have mapped := congrArg (List.filterMap id) (map_annotations same 0 numbered)
  rwa [List.filterMap_map, List.filterMap_map] at mapped

/-- The names of the addresses in a text. -/
def symbolsOf (lines : List Content) : Symbols :=
  ⟨(placements 0 lines).filterMap Placement.binding?⟩

/-- The names of the addresses in a text are its labels. -/
lemma names_symbolsOf (lines : List Content) :
    (symbolsOf lines).names = lines.filterMap Content.label := by
  have label (place : Placement) : place.binding?.map Prod.fst = place.line.label := by
    rw [Placement.binding?, Option.map_map]
    exact Option.map_id'
  rw [Symbols.names, symbolsOf, List.map_filterMap]
  simp only [label]
  exact filterMap_line_placements 0 Content.label lines

/-- Whether nothing is wrong with the lines of a text as far as that can be said without looking up
labels. -/
structure Placeable (lines : List Content) : Prop where
  /-- Each line can be laid out. -/
  fits : ∀ place ∈ placements 0 lines, place.LabelFits ∧ place.CommandFits
  /-- No label is defined twice. -/
  unique : (lines.filterMap Content.label).Nodup

/-- Whether nothing is wrong with the lines of a text. -/
structure Linkable (lines : List Content) : Prop extends Placeable lines where
  /-- Each line has a word or none. -/
  cells : ∀ place ∈ placements 0 lines, ∃ cell, place.cell? (symbolsOf lines) = .ok cell

/-- The program of the lines of a text. -/
def programOf (lines : List Content) : Program :=
  { imem := Memory.zero.writeAll
      ((placements 0 lines).filterMap (·.cell (symbolsOf lines)))
    dmem := Memory.zero.writeAll (lines.filterMap Content.data?)
    symbols := symbolsOf lines }

/-- An error may be worded differently, but nothing becomes one. -/
lemma mapError_eq_ok_iff {ε ε' α : Type} {x : Except ε α} {f : ε → ε'} {a : α} :
    x.mapError f = .ok a ↔ x = .ok a := by
  rcases x with e | b
  · exact ⟨fun h => (nomatch h), fun h => (nomatch h)⟩
  · exact ⟨fun h => congrArg Except.ok (Except.ok.inj h),
      fun h => congrArg Except.ok (Except.ok.inj h)⟩

/-- The labels of lines that can be laid out. -/
lemma collectLabels_annotations {numbered : List NumberedLine} {symbols : Symbols} :
    collectLabels .empty (annotations 0 numbered) = .ok symbols ↔
      ((numbered.map (·.line.content)).filterMap Content.label).Nodup ∧
        symbols = symbolsOf (numbered.map (·.line.content)) := by
  have entries := filterMap_annotations Placement.binding?_annotate numbered
  have distinct : Symbols.empty.names.Nodup := List.Pairwise.nil
  rw [collectLabels_eq_ok_iff distinct, entries, ← names_symbolsOf]
  rfl

/-- The words and bytes of lines that can be laid out. -/
lemma writeLines_annotations {numbered : List NumberedLine} {symbols : Symbols}
    {program : Program} :
    writeLines { Program.empty with symbols } (annotations 0 numbered) = .ok program ↔
      (∀ place ∈ placements 0 (numbered.map (·.line.content)),
        ∃ cell, place.cell? symbols = .ok cell) ∧
      program =
        { imem := Memory.zero.writeAll
            ((placements 0 (numbered.map (·.line.content))).filterMap (·.cell symbols))
          dmem := Memory.zero.writeAll
            ((numbered.map (·.line.content)).filterMap Content.data?)
          symbols } := by
  have all : (annotations 0 numbered).map (·.cell? symbols) =
      (placements 0 (numbered.map (·.line.content))).map (·.cell? symbols) :=
    map_annotations (Placement.cell?_annotate symbols) 0 numbered
  have each (place : Placement) (text : String) (number : Nat) :
      (place.annotate text number).cell symbols = place.cell symbols := by
    rw [SourceLine.cell, Placement.cell?_annotate]
    rfl
  have data : (annotations 0 numbered).filterMap SourceLine.data =
      (numbered.map (·.line.content)).filterMap Content.data? := by
    rw [filterMap_annotations (fun place text number => rfl) numbered]
    exact filterMap_line_placements 0 Content.data? _
  have succeeds : (∀ line ∈ annotations 0 numbered, ∃ cell, line.cell? symbols = .ok cell) ↔
      ∀ place ∈ placements 0 (numbered.map (·.line.content)),
        ∃ cell, place.cell? symbols = .ok cell := by
    have same := congrArg (fun cells => ∀ found ∈ cells, ∃ cell, found = .ok cell) all
    simpa only [List.forall_mem_map, eq_iff_iff] using same
  rw [writeLines_eq_ok_iff, filterMap_annotations each numbered, data]
  exact and_congr_left fun _ => succeeds

/-- **What a text is assembled to.** The passes succeed one after another if the text can be read
and nothing is wrong with its lines. -/
theorem assemble_eq_ok_iff {text : String} {assembly : Assembly} :
    assemble text = .ok assembly ↔
      ∃ numbered, parseSource text.toList = .ok numbered ∧
        Linkable (numbered.map (·.line.content)) ∧
        assembly = ⟨programOf (numbered.map (·.line.content)), annotations 0 numbered⟩ := by
  simp only [assemble, assembleChars, bind_eq_ok_iff, mapError_eq_ok_iff, layout_eq_ok_iff]
  constructor
  · rintro ⟨numbered, read, _, ⟨fits, rfl⟩, symbols, collected, program, written, h⟩
    obtain ⟨unique, rfl⟩ := collectLabels_annotations.mp collected
    obtain ⟨cells, rfl⟩ := writeLines_annotations.mp written
    exact ⟨numbered, read, ⟨⟨fits, unique⟩, cells⟩, (Except.ok.inj h).symm⟩
  · rintro ⟨numbered, read, ⟨⟨fits, unique⟩, cells⟩, rfl⟩
    exact ⟨numbered, read, _, ⟨fits, rfl⟩, _, collectLabels_annotations.mpr ⟨unique, rfl⟩, _,
      writeLines_annotations.mpr ⟨cells, rfl⟩, rfl⟩

/-! ## The labels of a text -/

/-- A label stands for an address of the memory. -/
lemma Placement.address_lt {place : Placement} (label : place.LabelFits)
    (command : place.CommandFits) (labelled : place.line.label.isSome) : place.address < 256 := by
  have inside := label labelled
  obtain ⟨cursor, name, command'⟩ := place
  rcases command' with _ | address | value | ⟨address, value⟩ | ⟨mnemonic, operand⟩
  · exact inside
  · exact Nat.lt_succ_of_le command
  · exact inside
  · exact inside
  · exact inside

namespace Placeable

variable {lines : List Content}

/-- **The labels of a text are those that its lines define.** -/
theorem find?_symbolsOf (placeable : Placeable lines) {name : String} {target : UInt8} :
    (symbolsOf lines).find? name = some target ↔ Defines lines name target.toNat := by
  have distinct : (symbolsOf lines).names.Nodup := by
    rw [names_symbolsOf]
    exact placeable.unique
  rw [Symbols.find?_eq_some_iff distinct, symbolsOf, List.mem_filterMap]
  refine exists_congr fun place => and_congr_right fun inside => ?_
  obtain ⟨label, command⟩ := placeable.fits place inside
  rw [Placement.binding?, Option.map_eq_some_iff]
  constructor
  · rintro ⟨_, named, ⟨⟩⟩
    have bound := Placement.address_lt label command (by rw [named]; rfl)
    exact ⟨named, (UInt8.toNat_ofNat_of_lt' bound).symm⟩
  · rintro ⟨named, same⟩
    refine ⟨name, named, ?_⟩
    rw [same, UInt8.ofNat_toNat]

/-- A label that is defined stands for an address of the memory. -/
lemma lt_of_defines (placeable : Placeable lines) {name : String} {target : Nat}
    (defined : Defines lines name target) : target < 256 := by
  obtain ⟨place, inside, named, rfl⟩ := defined
  obtain ⟨label, command⟩ := placeable.fits place inside
  exact Placement.address_lt label command (by rw [named]; rfl)

end Placeable

end Hex8.Asm
