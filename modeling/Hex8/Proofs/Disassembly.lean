import Hex8.Proofs.Acceptance
import Hex8.Proofs.Lines
import Hex8.Proofs.MemoryImage
import Hex8.Proofs.Names

set_option relaxedAutoImplicit false
set_option autoImplicit false

/-!
# Assembling what has been disassembled

The instructions in some words, written one below the other, are a text. Assembling it gives the
words back, as long as there is an address for each of them.

## Main definitions

* `Hex8.Asm.disassemble` — the text of some words.
* `Hex8.Inst.line` — an instruction as a line that has been read.

## Main results

* `Hex8.Inst.parse_text` — an instruction is read as it is written.
* `Hex8.Memory.writeAll_mapIdx` — writing words one after another fills a memory.
* `Hex8.Asm.assemble_disassemble` — assembling gives the words back.
-/

namespace Hex8

open Asm

/-! ## One instruction -/

namespace Inst

/-- The immediate as it is written. -/
def numeral (inst : Inst) : Numeral :=
  ⟨['0', 'x'], Nat.toDigits 16 inst.imm.toNat⟩

/-- What an instruction says as a line. -/
def content (inst : Inst) : Content :=
  { label := none, command := some (.inst inst.op.name (some (.number inst.numeral))) }

/-- An instruction as a line that has been read. The operand stands behind four columns for the
mnemonic and a blank. -/
def line (inst : Inst) : Line :=
  { indent := 0
    text := inst.text
    label := none
    statement := some ⟨0, .inst inst.op.name (some ⟨5, .number inst.numeral⟩)⟩ }

/-- A mnemonic fits into its column. -/
lemma length_name_le (op : Opcode) : op.name.length ≤ 4 := by
  cases op <;> decide

/-- An instruction is written as its mnemonic, blanks and its immediate. -/
lemma toList_text (inst : Inst) :
    inst.text.toList =
      inst.op.name.toList ++
        (List.replicate (5 - inst.op.name.length) ' ' ++ inst.numeral.chars) := by
  have width := length_name_le inst.op
  have blanks : 5 - inst.op.name.length = 4 - inst.op.name.length + 1 := by omega
  rw [blanks, List.replicate_succ']
  simp only [text, Column.left, Column.fill, Hex.prefixedNat, String.toList_append,
    String.toList_ofList, List.append_assoc]
  rfl

/-- The immediate is written as the number that it is. -/
lemma value_numeral (word : UInt8) : (decode word).numeral.value = (decode word).imm.toNat := by
  refine forall_byte (P := fun word =>
    (decode word).numeral.value = (decode word).imm.toNat) ?_ word
  decide +kernel

/-- The immediate fits into its four bits. -/
lemma value_numeral_le (word : UInt8) : (decode word).numeral.value ≤ 15 := by
  rw [value_numeral]
  exact UInt8.le_iff_toNat_le.mp (imm_decode_le word)

/-- The immediate is read as it is written. -/
lemma numeral?_chars (word : UInt8) :
    numeral? (decode word).numeral.chars = some ((decode word).numeral, []) := by
  refine forall_byte (P := fun word =>
    numeral? (decode word).numeral.chars = some ((decode word).numeral, [])) ?_ word
  decide +kernel

/-- Blanks in front of the immediate are skipped. -/
lemma skip_blanks (n : Nat) (inst : Inst) :
    skip (List.replicate n ' ' ++ inst.numeral.chars) = inst.numeral.chars := by
  induction n with
  | zero => rfl
  | succ n ih => exact ih

/-- A mnemonic is a name. -/
lemma isName_name (op : Opcode) : isName op.name.toList = true := by
  cases op <;> decide

/-- A name does not go on in blanks, and they do not make it a label. -/
lemma head_blanks (n : Nat) (rest : List Char) :
    ∀ c ∈ (List.replicate (n + 1) ' ' ++ rest).head?, continuesName c = false ∧ c ≠ ':' := by
  rintro _ ⟨⟩
  decide

/-- What is read behind the mnemonic is the immediate. -/
lemma statement?_text (size n : Nat) (word : UInt8) :
    Line.statement? size ((decode word).op.name.toList ++
        (List.replicate (n + 1) ' ' ++ (decode word).numeral.chars)) =
      .ok (some (.inst (decode word).op.name
        (some ⟨size - (decode word).numeral.chars.length, .number (decode word).numeral⟩)),
        []) := by
  have stop := head_blanks n (decode word).numeral.chars
  rw [Line.statement?_of_isName _ (isName_name _) fun c head => (stop c head).1, skip_blanks]
  simp only [Line.operand?, numeral?_chars, String.ofList_toList]

/-- **An instruction is read as it is written.**

**Proof sketch.** The mnemonic is the longest name at the front, so there is no label and no
directive. Behind the blanks there is a numeral, and nothing behind that. -/
theorem parse_text (word : UInt8) :
    Line.parse (decode word).text.toList = .ok (decode word).line := by
  have width := length_name_le (decode word).op
  obtain ⟨n, blanks⟩ : ∃ n, 5 - (decode word).op.name.length = n + 1 :=
    ⟨4 - (decode word).op.name.length, by omega⟩
  have chars := toList_text (decode word)
  rw [blanks] at chars
  have settled : skip (decode word).text.toList = (decode word).text.toList := by
    rw [chars, skip_of_isName (isName_name _)]
  have unlabelled : Grammar.labelled (decode word).text.toList =
      (none, (decode word).text.toList) := by
    rw [chars, Grammar.labelled, Line.label?_of_isName (isName_name _) (head_blanks n _)]
  have place : (decode word).text.toList.length - (decode word).numeral.chars.length = 5 := by
    rw [chars]
    simp only [List.length_append, List.length_replicate, String.length_toList]
    omega
  have statement := statement?_text (decode word).text.toList.length n word
  rw [← chars, place] at statement
  rw [Line.parse_eq_ok_iff, settled, unlabelled]
  exact ⟨_, [], statement, rfl, by simp [line]⟩

/-- An instruction is written on one line. -/
lemma isBreak_text (word : UInt8) : ∀ c ∈ (decode word).text.toList, Grammar.isBreak c = false := by
  have mnemonic : (decode word).op.name.toList.any Grammar.isBreak = false := by
    cases (decode word).op <;> rfl
  have immediate : (decode word).numeral.chars.any Grammar.isBreak = false := by
    refine forall_byte (P := fun word =>
      (decode word).numeral.chars.any Grammar.isBreak = false) ?_ word
    decide +kernel
  intro c inside
  rw [toList_text, List.mem_append, List.mem_append] at inside
  rcases inside with inside | inside | inside
  · exact isBreak_of_any mnemonic c inside
  · rw [List.eq_of_mem_replicate inside]
    rfl
  · exact isBreak_of_any immediate c inside

end Inst

/-! ## Consecutive words -/

namespace Memory

/-- A memory that is filled up to an address takes one more byte there. -/
lemma write_ofList {bytes : List UInt8} (room : bytes.length < 256) (byte : UInt8) :
    (ofList bytes).write (UInt8.ofNat bytes.length) byte = ofList (bytes ++ [byte]) := by
  refine ext_read fun address => ?_
  have here : address = UInt8.ofNat bytes.length ↔ address.toNat = bytes.length := by
    rw [← UInt8.toNat_inj, UInt8.toNat_ofNat_of_lt' room]
  rw [read_write, read_ofList, read_ofList]
  by_cases same : address = UInt8.ofNat bytes.length
  · simp [same, Nat.mod_eq_of_lt room]
  · have other : address.toNat ≠ bytes.length := mt here.mpr same
    rw [if_neg same, List.getD_eq_getElem?_getD, List.getD_eq_getElem?_getD]
    rcases Nat.lt_or_gt_of_ne other with inside | behind
    · rw [List.getElem?_append_left inside]
    · rw [List.getElem?_eq_none (by omega), List.getElem?_eq_none (by simp; omega)]

/-- **Writing words one after another fills a memory.**

**Proof sketch.** Induction from the last word to the first; the words so far say where the next
one goes. -/
theorem writeAll_mapIdx {words : List UInt8} (room : words.length ≤ 256) :
    zero.writeAll (words.mapIdx fun i word => (UInt8.ofNat i, word)) = ofList words := by
  induction words using List.reverseRecOn with
  | nil => exact ext_read fun address => by simp [writeAll]
  | append_singleton front word ih =>
    rw [List.length_append, List.length_singleton] at room
    rw [List.mapIdx_concat, writeAll_append, ih (by omega), ← write_ofList (by omega)]
    rfl

end Memory

namespace Asm

/-! ## The lines of a disassembly -/

/-- The instructions in some words, one on each line. There may be a line feed behind the last one,
too. -/
def disassemble (words : List UInt8) (closed : Bool) : String :=
  "\n".intercalate (words.map fun word => (Inst.decode word).text) ++ if closed then "\n" else ""

/-- The lines of a disassembly are those of its words, and empty ones behind them. -/
lemma textLines_disassemble (words : List UInt8) (closed : Bool) :
    ∃ n, textLines (disassemble words closed).toList =
      words.map (fun word => (Inst.decode word).text.toList) ++ List.replicate n [] := by
  have chars : (disassemble words closed).toList =
      ['\n'].intercalate (words.map fun word => (Inst.decode word).text.toList) ++
        if closed then ['\n'] else [] := by
    rw [disassemble, String.toList_append, String.toList_intercalate, List.map_map]
    cases closed <;> rfl
  rw [chars]
  rcases words with _ | ⟨word, words⟩
  · cases closed
    · exact ⟨1, rfl⟩
    · exact ⟨2, rfl⟩
  · have nonempty : (word :: words).map (fun word => (Inst.decode word).text.toList) ≠ [] :=
      List.cons_ne_nil _ _
    have free : ∀ line ∈ (word :: words).map (fun word => (Inst.decode word).text.toList),
        ∀ c ∈ line, Grammar.isBreak c = false :=
      List.forall_mem_map.mpr fun word _ => Inst.isBreak_text word
    cases closed
    · refine ⟨0, ?_⟩
      simp only [Bool.false_eq_true, if_false, List.replicate_zero, List.append_nil]
      exact textLines_intercalate nonempty free
    · refine ⟨1, ?_⟩
      rw [if_pos rfl, ← intercalate_concat nonempty]
      refine textLines_intercalate (by simp) fun line inside => ?_
      rcases List.mem_append.mp inside with inside | inside
      · exact free line inside
      · rw [List.mem_singleton.mp inside]
        nofun

/-- What a disassembly says: its instructions, and nothing behind them. -/
def disassembled (words : List UInt8) (n : Nat) : List Content :=
  words.map (fun word => (Inst.decode word).content) ++ List.replicate n ⟨none, none⟩

/-- A disassembly can be read. -/
lemma exists_parseSource_disassemble (words : List UInt8) (closed : Bool) :
    ∃ n numbered, parseSource (disassemble words closed).toList = .ok numbered ∧
      numbered.map (·.line.content) = disassembled words n := by
  obtain ⟨n, lines⟩ := textLines_disassemble words closed
  have parsed : (textLines (disassemble words closed).toList).map Line.parse =
      (words.map (fun word => (Inst.decode word).line) ++
        List.replicate n (⟨0, "", none, none⟩ : Line)).map Except.ok := by
    simp only [lines, List.map_append, List.map_map, List.map_replicate, Line.parse_nil,
      Function.comp_def, Inst.parse_text]
  obtain ⟨numbered, read, same⟩ := (exists_parseSource_iff _ _).mpr parsed
  refine ⟨n, numbered, read, ?_⟩
  have contents := congrArg (List.map Line.content) same
  rw [List.map_map, List.map_append, List.map_map, List.map_replicate] at contents
  exact contents

/-- Each instruction has the next address. -/
lemma placements_disassembled (cursor : Nat) (words : List UInt8) (n : Nat) :
    placements cursor (disassembled words n) =
      words.mapIdx (fun i word => ⟨cursor + i, (Inst.decode word).content⟩) ++
        List.replicate n ⟨cursor + words.length, none, none⟩ := by
  induction words generalizing cursor with
  | nil =>
    change placements cursor (List.replicate n ⟨none, none⟩) = List.replicate n ⟨cursor, none, none⟩
    induction n with
    | zero => rfl
    | succ n ih => rw [List.replicate_succ, List.replicate_succ, placements, ← ih]; rfl
  | cons word words ih =>
    have behind : (Inst.decode word).content.advance cursor = cursor + 1 := rfl
    change _ :: placements _ (disassembled words n) = _
    rw [behind, ih, List.mapIdx_cons, List.length_cons]
    simp only [List.cons_append, Nat.add_zero, Nat.add_assoc, Nat.add_comm 1]

/-- A line of a disassembly is an instruction, or says nothing. -/
lemma mem_disassembled {words : List UInt8} {n : Nat} {line : Content}
    (inside : line ∈ disassembled words n) :
    (∃ word, line = (Inst.decode word).content) ∨ line = ⟨none, none⟩ := by
  rw [disassembled, List.mem_append, List.mem_map, List.mem_replicate] at inside
  rcases inside with ⟨word, -, rfl⟩ | ⟨-, rfl⟩
  · exact .inl ⟨word, rfl⟩
  · exact .inr rfl

/-- Nothing is wrong with a disassembly if there is an address for each of its words. -/
lemma wellFormed_disassembled {words : List UInt8} (room : words.length ≤ 256) (n : Nat) :
    WellFormed (disassembled words n) where
  mnemonics line inside mnemonic operand command := by
    rcases mem_disassembled inside with ⟨word, rfl⟩ | rfl
    · cases command
      exact ⟨_, (Opcode.isNamed_iff _ _).mpr (Opcode.ofName?_name _)⟩
    · cases command
  immediates line inside mnemonic numeral command := by
    rcases mem_disassembled inside with ⟨word, rfl⟩ | rfl
    · cases command
      rw [Inst.value_numeral]
      exact UInt8.le_iff_toNat_le.mp (Inst.imm_decode_le word)
    · cases command
  numbers line inside numeral hnumeral := by
    rcases mem_disassembled inside with ⟨word, rfl⟩ | rfl <;> cases hnumeral
  inside place placed h := by
    rw [placements_disassembled, List.mem_append, List.mem_mapIdx, List.mem_replicate] at placed
    rcases placed with ⟨i, bound, rfl⟩ | ⟨-, rfl⟩
    · show 0 + i < 256
      omega
    · simp [Content.hasWord] at h
  unique := by
    have none (line : Content) (inside : line ∈ disassembled words n) : line.label = none := by
      rcases mem_disassembled inside with ⟨word, rfl⟩ | rfl <;> rfl
    rw [List.filterMap_eq_nil_iff.mpr none]
    exact List.nodup_nil
  resolved place placed mnemonic name op command named := by
    rcases mem_disassembled (line_mem placed) with ⟨word, same⟩ | same <;>
      rw [same] at command <;> cases command

/-! ## Assembling -/

/-- If something is found for each element of a list, all of it is found. -/
lemma filterMap_mapIdx_of_some {α β γ : Type} {f : Nat → α → β} {g : β → Option γ}
    {h : Nat → α → γ} (found : ∀ i a, g (f i a) = some (h i a)) (list : List α) :
    (list.mapIdx f).filterMap g = list.mapIdx h := by
  rw [List.mapIdx_eq_zipIdx_map, List.mapIdx_eq_zipIdx_map, List.filterMap_map,
    ← List.filterMap_eq_map]
  exact List.filterMap_congr fun _ _ => found _ _

/-- The word of an instruction of a disassembly is the word that has been disassembled. -/
lemma cell_content_decode (cursor : Nat) (word : UInt8) (symbols : Symbols) :
    Placement.cell ⟨cursor, (Inst.decode word).content⟩ symbols =
      some (UInt8.ofNat cursor, word) := by
  have resolved := Immediate.resolve_number (Inst.value_numeral_le word) symbols
    (Inst.decode word).op (UInt8.ofNat cursor)
  have same : UInt8.ofNat (Inst.decode word).numeral.value = (Inst.decode word).imm := by
    rw [Inst.value_numeral, UInt8.ofNat_toNat]
  rw [same] at resolved
  simp only [Placement.cell, Placement.cell?, Inst.content, Opcode.ofName?_name, Operand.immediate,
    same, resolved]
  show some (_, (Inst.ofNibble _ (Inst.decode word).imm).encode) = _
  rw [ofNibble_of_le _ (Inst.imm_decode_le word), Inst.encode_decode]

/-- **The program of a disassembly** is the one with the words that have been disassembled. -/
lemma programOf_disassembled {words : List UInt8} (room : words.length ≤ 256) (n : Nat) :
    programOf (disassembled words n) = Program.ofWords words := by
  have labels : symbolsOf (disassembled words n) = .empty := by
    refine congrArg Symbols.mk (List.filterMap_eq_nil_iff.mpr fun place placed => ?_)
    rcases mem_disassembled (line_mem placed) with ⟨word, same⟩ | same <;>
      rw [Placement.binding?, same] <;> rfl
  have cells : (placements 0 (disassembled words n)).filterMap
      (·.cell (symbolsOf (disassembled words n))) =
      words.mapIdx fun i word => (UInt8.ofNat i, word) := by
    have empty : (List.replicate n (⟨0 + words.length, none, none⟩ : Placement)).filterMap
        (·.cell (symbolsOf (disassembled words n))) = [] := by
      refine List.filterMap_eq_nil_iff.mpr fun place inside => ?_
      rw [List.eq_of_mem_replicate inside]
      rfl
    rw [placements_disassembled, List.filterMap_append, empty, List.append_nil]
    refine filterMap_mapIdx_of_some (fun i word => ?_) words
    rw [Nat.zero_add, cell_content_decode]
  have data : (disassembled words n).filterMap Content.data? = [] := by
    refine List.filterMap_eq_nil_iff.mpr fun line inside => ?_
    rcases mem_disassembled inside with ⟨word, rfl⟩ | rfl <;> rfl
  rw [programOf, cells, data, labels, Memory.writeAll_mapIdx room]
  rfl

/-- The place of a word in a disassembly. -/
lemma getElem?_placements_disassembled {words : List UInt8} {i : Nat} (inside : i < words.length)
    (n : Nat) :
    (placements 0 (disassembled words n))[i]? = some ⟨i, (Inst.decode words[i]).content⟩ := by
  rw [placements_disassembled, List.getElem?_append_left (by simpa using inside),
    List.getElem?_mapIdx, List.getElem?_eq_getElem inside, Nat.zero_add]
  rfl

/-- **Assembling gives back the words that have been disassembled.** The instructions in at most 256
words are a text that can be assembled. Its program consists of these words from address 0 on, and
each line has the address of its word. The instructions in more words cannot be assembled.

**Proof sketch.** Each instruction is read as it is written (`Hex8.Inst.parse_text`), and it goes
where the next word goes, so that the address of a line is its place in the list. If there is an
address for each of them, nothing is wrong with the lines (`wellFormed_disassembled`); otherwise the
cursor is behind the memory at the line of the word with the number 256. -/
theorem assemble_disassemble (words : List UInt8) (closed : Bool) :
    (words.length ≤ 256 →
      ∃ assembly, assemble (disassemble words closed) = .ok assembly ∧
        assembly.program =
          { imem := (Program.ofWords words).imem, dmem := .zero, symbols := .empty } ∧
        ∀ i < words.length,
          assembly.lines[i]?.bind SourceLine.address = some (UInt8.ofNat i)) ∧
    (256 < words.length →
      ∃ error, assemble (disassemble words closed) = .error error) := by
  obtain ⟨n, numbered, read, contents⟩ := exists_parseSource_disassemble words closed
  constructor
  · intro room
    have linkable := (wellFormed_disassembled room n).linkable
    rw [← contents] at linkable
    refine ⟨_, assemble_eq_ok_iff.mpr ⟨numbered, read, linkable, rfl⟩, ?_, fun i inside => ?_⟩
    · rw [contents]
      exact programOf_disassembled room n
    · have placed := getElem?_placements_disassembled inside n
      rw [← contents] at placed
      obtain ⟨address, here, same⟩ := Option.map_eq_some_iff.mp (linkable.addresses placed rfl)
      have same' : address.toNat = i := same
      rw [here, ← same', UInt8.ofNat_toNat]
  · intro large
    rcases assembled : assemble (disassemble words closed) with error | assembly
    · exact ⟨error, rfl⟩
    · obtain ⟨numbered', read', linkable, -⟩ := assemble_eq_ok_iff.mp assembled
      obtain rfl := Except.ok.inj (read.symm.trans read')
      have placed := List.mem_of_getElem? (getElem?_placements_disassembled large n)
      rw [← contents] at placed
      obtain ⟨-, -, inside⟩ := (linkable.fits _ placed).2
      exact absurd inside (Nat.lt_irrefl 256)

/-- All words together are as many as there are addresses, so that each of them goes to the address
with its own value; with one more word there is no program. -/
theorem assemble_disassemble_all_words :
    (∃ assembly,
      assemble (disassemble ((List.range 256).map UInt8.ofNat) false) = .ok assembly ∧
        assembly.program.imem.read 0x9f = 0x9f ∧
        assembly.lines[255]?.bind SourceLine.address = some 255) ∧
    ∃ error, assemble (disassemble ((List.range 257).map UInt8.ofNat) false) = .error error := by
  obtain ⟨assembly, assembled, program, addresses⟩ :=
    (assemble_disassemble ((List.range 256).map UInt8.ofNat) false).1 (by simp)
  refine ⟨⟨assembly, assembled, ?_, addresses 255 (by simp)⟩,
    (assemble_disassemble ((List.range 257).map UInt8.ofNat) false).2 (by simp)⟩
  rw [program]
  show (Memory.ofList _).read 0x9f = 0x9f
  rw [Memory.read_ofList]
  rfl

end Asm

end Hex8
