import Hex8.Proofs.Assembling
import Hex8.Proofs.ReadText

set_option relaxedAutoImplicit false
set_option autoImplicit false

/-!
# What an assembled program holds

The program of a text is described here address by address: which line has given each byte, and
where each label points to. The description uses what the lines of the text say and where they are,
and nothing of how the assembler goes about it.

## Main definitions

* `Hex8.Asm.IsOperand` — the number that an operand stands for.
* `Hex8.Asm.Encodes` — the word of a line.
* `Hex8.Asm.Depicts` — whether a program is the one that the lines of a text describe.

## Main results

* `Hex8.Asm.depicts_of_assemble` — the program of a text holds what its lines say.
-/

namespace Hex8.Asm

/-- The number that the operand of an instruction stands for. A missing operand is zero. -/
def IsOperand (lines : List Content) (op : Opcode) (address : Nat) : Option Operand → Int → Prop
  | none, value => value = 0
  | some (.number numeral), value => value = numeral.value
  | some (.name name), value =>
    ∃ target, Defines lines name target ∧ value = op.labelOperand address target

/-- Whether a word is the one of a line. An instruction is encoded, and its word is decoded back to
it. -/
def Encodes (lines : List Content) (place : Placement) (word : UInt8) : Prop :=
  match place.line.command with
  | some (.byte value) => word.toNat = value.value
  | some (.inst mnemonic operand) =>
    ∃ (op : Opcode) (imm : UInt8), op.IsNamed mnemonic ∧
      IsOperand lines op place.cursor operand imm.toNat ∧
      word = Inst.encode ⟨op, imm⟩ ∧ Inst.decode word = ⟨op, imm⟩
  | some (.position _) | some (.data _ _) | none => False

/-- The last line that has a word for an address of the instruction memory. -/
def lastWord? (lines : List Content) (address : Nat) : Option Placement :=
  ((placements 0 lines).filter fun place =>
    place.line.hasWord && place.cursor == address).getLast?

/-- The value that a line has for an address of the data memory. -/
def Content.datumAt? (line : Content) (address : Nat) : Option Nat :=
  match line.command with
  | some (.data target value) => if target.value = address then some value.value else none
  | _ => none

/-- Whether a program, with its annotated lines, is the one that the lines of a text describe. -/
structure Depicts (lines : List Content) (assembly : Assembly) : Prop where
  /-- A word is the one of the last line at its address that has any, and zero without one. -/
  words (address : UInt8) :
    match lastWord? lines address.toNat with
    | some place => Encodes lines place (assembly.program.imem.read address)
    | none => assembly.program.imem.read address = 0
  /-- Each line with a word has one that is decoded back, also if another line replaces it. -/
  encoded {place : Placement} (placed : place ∈ placements 0 lines) (hasWord : place.line.hasWord) :
    ∃ word, Encodes lines place word
  /-- A byte of the data memory is the last one for its address, and zero without one. -/
  data (address : UInt8) :
    (assembly.program.dmem.read address).toNat =
      (lines.filterMap (·.datumAt? address.toNat)).getLast?.getD 0
  /-- The names are the labels of the text. -/
  names (name : String) :
    (assembly.program.symbols.find? name).isSome ↔ name ∈ lines.filterMap Content.label
  /-- Each name has the address that its line stands for. -/
  symbols (name : String) (target : UInt8) :
    assembly.program.symbols.find? name = some target ↔ Defines lines name target.toNat
  /-- The address of a word is the argument of the closest `.pos` in front of its line, plus the
  number of words between them. -/
  addresses {i : Nat} {place : Placement} (placed : (placements 0 lines)[i]? = some place)
    (hasWord : place.line.hasWord) :
    place.cursor = origin (lines.take i) + wordsBehind (lines.take i) ∧
      (assembly.lines[i]?.bind SourceLine.address).map UInt8.toNat = some place.cursor

/-! ## Words -/

variable {lines : List Content}

/-- An operand that can be resolved stands for the immediate that it is resolved to. -/
lemma Placeable.isOperand_of_resolve (placeable : Placeable lines) {op : Opcode} {cursor : Nat}
    {operand : Option Operand} {imm : UInt8} (small : Operand.Fits operand) (inside : cursor < 256)
    (resolved : (Operand.immediate operand).resolve (symbolsOf lines) op (UInt8.ofNat cursor) =
      .ok imm) :
    IsOperand lines op cursor operand imm.toNat ∧ imm ≤ 0xf := by
  rcases operand with _ | numeral | name
  · rw [Operand.immediate] at resolved
    cases resolved
    exact ⟨rfl, by decide⟩
  · have bound : numeral.value < 256 := Nat.lt_of_le_of_lt small (by decide)
    rw [Operand.immediate, Immediate.resolve_number small] at resolved
    cases resolved
    rw [IsOperand, UInt8.le_iff_toNat_le, UInt8.toNat_ofNat_of_lt' bound]
    exact ⟨rfl, small⟩
  · obtain ⟨target, found, value, bound⟩ := Immediate.resolve_label_eq_ok_iff.mp resolved
    rw [UInt8.toNat_ofNat_of_lt' inside] at value
    exact ⟨⟨target.toNat, placeable.find?_symbolsOf.mp found, value⟩, bound⟩

/-- An immediate that fits in four bits is not cut off. -/
lemma ofNibble_of_le (op : Opcode) {imm : UInt8} (small : imm ≤ 0xf) :
    Inst.ofNibble op imm = ⟨op, imm⟩ := by
  have kept : imm &&& 0xf = imm := by
    refine forall_byte (P := fun imm => imm ≤ 0xf → imm &&& 0xf = imm) ?_ imm small
    decide +kernel
  rw [Inst.ofNibble, kept]

/-- Only instructions and `.byte` have a word. -/
lemma Placement.cell_eq_none {place : Placement} {symbols : Symbols}
    (noWord : place.line.hasWord = false) : place.cell symbols = none := by
  rw [cell, cell?]
  rw [Content.hasWord] at noWord
  rcases command : place.line.command with
    _ | address | value | ⟨address, value⟩ | ⟨mnemonic, operand⟩ <;>
    simp only [command, Bool.true_eq_false] at noWord <;> rfl

/-- **The word of a line** stands at the cursor. -/
lemma Linkable.exists_cell (linkable : Linkable lines) {place : Placement}
    (placed : place ∈ placements 0 lines) (hasWord : place.line.hasWord = true) :
    place.cursor < 256 ∧ ∃ word,
      place.cell (symbolsOf lines) = some (UInt8.ofNat place.cursor, word) ∧
        Encodes lines place word := by
  have fits := (linkable.fits place placed).2
  rw [Placement.CommandFits] at fits
  rcases Content.hasWord_iff.mp hasWord with ⟨value, command⟩ | ⟨mnemonic, operand, command⟩ <;>
    rw [command] at fits
  · refine ⟨fits.1, UInt8.ofNat value.value, ?_, ?_⟩
    · rw [Placement.cell, Placement.cell?, command]
      rfl
    · rw [Encodes, command]
      exact UInt8.toNat_ofNat_of_lt' (Nat.lt_succ_of_le fits.2)
  · obtain ⟨⟨op, named⟩, small, inside⟩ := fits
    obtain ⟨imm, resolved⟩ :=
      (Placement.exists_cell?_iff command named).mp (linkable.cells place placed)
    obtain ⟨value, bound⟩ := linkable.isOperand_of_resolve small inside resolved
    refine ⟨inside, Inst.encode ⟨op, imm⟩, ?_, ?_⟩
    · simp only [Placement.cell, Placement.cell?, command, (op.isNamed_iff mnemonic).mp named,
        resolved, ← ofNibble_of_le op bound]
      rfl
    · rw [Encodes, command]
      exact ⟨op, imm, named, value, rfl, Inst.decode_encode op imm bound⟩

/-- A word for an address is one for the place of the cursor. -/
lemma Linkable.any_cell (linkable : Linkable lines) {place : Placement}
    (placed : place ∈ placements 0 lines) (address : UInt8) :
    (place.cell (symbolsOf lines)).any (·.1 = address) =
      (place.line.hasWord && place.cursor == address.toNat) := by
  by_cases hasWord : place.line.hasWord = true
  · obtain ⟨inside, word, found, -⟩ := linkable.exists_cell placed hasWord
    rw [found, hasWord, Option.any_some, Bool.true_and, Bool.eq_iff_iff, decide_eq_true_eq,
      beq_iff_eq, ← UInt8.toNat_inj, UInt8.toNat_ofNat_of_lt' inside]
  · rw [Bool.not_eq_true] at hasWord
    rw [Placement.cell_eq_none hasWord, hasWord]
    rfl

/-- The words of a program. -/
lemma Linkable.words (linkable : Linkable lines) (address : UInt8) :
    match lastWord? lines address.toNat with
    | some place => Encodes lines place ((programOf lines).imem.read address)
    | none => (programOf lines).imem.read address = 0 := by
  have same := List.filter_congr fun place placed => linkable.any_cell placed address
  have content : (programOf lines).imem.read address =
      (((lastWord? lines address.toNat).bind (·.cell (symbolsOf lines))).map Prod.snd).getD 0 := by
    rw [programOf, Memory.read_writeAll, latest?_filterMap, same, Memory.read_zero]
    rfl
  rw [content]
  rcases last : lastWord? lines address.toNat with _ | place
  · rfl
  · have inside := List.mem_filter.mp (List.mem_of_getLast? last)
    rw [Bool.and_eq_true] at inside
    obtain ⟨-, word, found, encoded⟩ := linkable.exists_cell inside.1 inside.2.1
    rw [Option.bind_some, found]
    exact encoded

/-- A line writes the value that it has for an address. -/
lemma Placement.datumAt?_eq {place : Placement} (fits : place.CommandFits) (address : UInt8) :
    (place.line.data?.bind fun write =>
        if write.1 = address then some write.2 else none).map UInt8.toNat =
      place.line.datumAt? address.toNat := by
  rw [CommandFits] at fits
  rw [Content.data?, Content.datumAt?]
  rcases command : place.line.command with
    _ | target | value | ⟨target, value⟩ | ⟨mnemonic, operand⟩ <;>
    simp only [command] at fits <;> try rfl
  have target_lt : target.value < 256 := Nat.lt_succ_of_le fits.1
  have same : UInt8.ofNat target.value = address ↔ target.value = address.toNat := by
    rw [← UInt8.toNat_inj, UInt8.toNat_ofNat_of_lt' target_lt]
  rw [Option.bind_some]
  dsimp only
  by_cases here : target.value = address.toNat
  · rw [if_pos (same.mpr here), if_pos here, Option.map_some,
      UInt8.toNat_ofNat_of_lt' (Nat.lt_succ_of_le fits.2)]
  · rw [if_neg (mt same.mp here), if_neg here]
    rfl

/-- The bytes of the data memory. -/
lemma Linkable.data (linkable : Linkable lines) (address : UInt8) :
    ((programOf lines).dmem.read address).toNat =
      (lines.filterMap (·.datumAt? address.toNat)).getLast?.getD 0 := by
  have values : (lines.filterMap fun line =>
      (line.data?.bind fun write =>
        if write.1 = address then some write.2 else none).map UInt8.toNat) =
      lines.filterMap (·.datumAt? address.toNat) := by
    refine List.filterMap_congr fun line inside => ?_
    obtain ⟨place, placed, rfl⟩ := exists_placement inside
    exact Placement.datumAt?_eq (linkable.fits place placed).2 address
  rw [programOf, Memory.read_writeAll, latest?_eq_getLast?, List.filterMap_filterMap, ← values,
    ← List.map_filterMap, List.getLast?_map, Memory.read_zero]
  generalize List.getLast? _ = last
  cases last <;> rfl

/-- A line with a word has the cursor as its address. -/
lemma Placement.address_annotate {place : Placement} (hasWord : place.line.hasWord = true)
    (text : String) (number : Nat) :
    (place.annotate text number).address = some (UInt8.ofNat place.cursor) := by
  rw [annotate, hasAddress, hasWord, Bool.or_true, Bool.true_or, address,
    Content.position?_of_hasWord hasWord]
  rfl

/-- The addresses of lines with words. -/
lemma Linkable.addresses {numbered : List NumberedLine}
    (linkable : Linkable (numbered.map (·.line.content))) {i : Nat} {place : Placement}
    (placed : (placements 0 (numbered.map (·.line.content)))[i]? = some place)
    (hasWord : place.line.hasWord) :
    ((annotations 0 numbered)[i]?.bind SourceLine.address).map UInt8.toNat =
      some place.cursor := by
  obtain ⟨inside, -⟩ := linkable.exists_cell (List.mem_of_getElem? placed) hasWord
  have each : (annotations 0 numbered).map SourceLine.address =
      (placements 0 (numbered.map (·.line.content))).map fun place =>
        (place.annotate "" 0).address :=
    map_annotations (fun _ _ _ => rfl) 0 numbered
  have here := congrArg (·[i]?) each
  rw [List.getElem?_map, List.getElem?_map, placed, Option.map_some,
    Placement.address_annotate hasWord, Option.map_eq_some_iff] at here
  obtain ⟨line, found, address⟩ := here
  rw [found, Option.bind_some, address, Option.map_some, UInt8.toNat_ofNat_of_lt' inside]

/-- The cursor in front of a line. -/
lemma cursor_of_getElem? {i : Nat} {place : Placement}
    (placed : (placements 0 lines)[i]? = some place) :
    place.cursor = origin (lines.take i) + wordsBehind (lines.take i) := by
  rw [getElem?_placements, Option.map_eq_some_iff] at placed
  obtain ⟨line, -, rfl⟩ := placed
  exact cursor_eq (lines.take i)

/-- **What a text is assembled to.** Its words, its bytes and its labels are those that the lines of
the text say, at the places where they are.

**Proof sketch.** The memories have been written once for each line
(`Hex8.Asm.assemble_eq_ok_iff`), so the last line for an address counts
(`Hex8.Memory.read_writeAll`). Labels have been collected before, so it does not matter on which side
of its definition a label is used. -/
theorem depicts_of_assemble {text : String} {assembly : Assembly}
    (h : assemble text = .ok assembly) :
    ∃ lines, Grammar.parse text.toList = some lines ∧ Depicts lines assembly := by
  obtain ⟨numbered, read, linkable, rfl⟩ := assemble_eq_ok_iff.mp h
  refine ⟨numbered.map (·.line.content), ?_, ?_⟩
  · rw [Grammar.parse_eq, read]
    rfl
  · exact
      { words := linkable.words
        encoded := fun placed hasWord => by
          obtain ⟨-, word, -, encodes⟩ := linkable.exists_cell placed hasWord
          exact ⟨word, encodes⟩
        data := linkable.data
        names := fun name => by
          rw [← names_symbolsOf]
          exact (symbolsOf _).isSome_find? name
        symbols := fun name target => linkable.find?_symbolsOf
        addresses := fun placed hasWord =>
          ⟨cursor_of_getElem? placed, linkable.addresses placed hasWord⟩ }

/-- A text in which one word replaces another one, labels are used on both sides of their
definitions, a label shares its line with `.pos`, and a distance goes beyond the last address. -/
def scatteredText : String :=
  "start: ldac 3\nbr end\n.data 16, 7\nthere: .pos 5\nend: LDAC there # 5\n" ++
    ".pos 1\n.byte 0x9f\n.pos 250\nbrz start"

/-- The text is assembled, and its program is the one that its lines describe. -/
theorem depicts_scatteredText :
    ∃ assembly, assemble scatteredText = .ok assembly ∧
      [0, 1, 2, 5, 250].map assembly.program.imem.read = [0x33, 0x9f, 0, 0x35, 0xa6] ∧
      assembly.program.dmem.read 16 = 7 ∧
      ∃ lines, Grammar.parse scatteredText.toList = some lines ∧ Depicts lines assembly := by
  have result : (assemble scatteredText).toOption.map (fun assembly =>
      ([0, 1, 2, 5, 250].map assembly.program.imem.read, assembly.program.dmem.read 16)) =
        some ([0x33, 0x9f, 0, 0x35, 0xa6], 7) := by
    decide +kernel
  rcases assembled : assemble scatteredText with error | assembly
  · rw [assembled] at result
    cases result
  · rw [assembled] at result
    obtain ⟨words, byte⟩ := Prod.mk.inj (Option.some.inj result)
    exact ⟨assembly, rfl, words, byte, depicts_of_assemble assembled⟩

end Hex8.Asm
