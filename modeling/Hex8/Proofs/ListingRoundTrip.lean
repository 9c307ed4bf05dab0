import Hex8.Asm.Listing
import Hex8.Proofs.Lines
import Hex8.Proofs.MemoryImage
import Hex8.Proofs.Rereading

set_option relaxedAutoImplicit false
set_option autoImplicit false

/-!
# Getting everything back from a listing

A listing is made for the eye, but nothing is lost in it. The columns of its rows show what both
memories hold, and what stands behind the columns is a text from which the same listing is made
again.

## Main definitions

* `Hex8.Asm.Margin`, `Hex8.Asm.SourceLine.margin` — what the column in front of a line shows.
* `Hex8.Asm.Row.word?`, `Hex8.Asm.Row.datum?`, `Hex8.Asm.Row.text` — what is read from a row.
* `Hex8.Asm.Restores` — whether everything comes back from the rows of a listing.

## Main results

* `Hex8.Asm.Row.word?_chars`, `Hex8.Asm.Row.datum?_chars` — a column is read as it is written.
* `Hex8.Asm.Linkable.writeAll_words`, `Hex8.Asm.writeAll_data` — the memories come back.
* `Hex8.Asm.exists_assemble_texts` — the texts of the lines are assembled to the same program.
* `Hex8.Asm.exists_restores` — everything comes back from a listing.

## Design

Rows are read from their characters alone, without the lines that they have been made for. A word
that has been replaced by a later line is shown as it is in the end, so that writing all words in
their order does not need the earlier ones.
-/

namespace Hex8.Asm

open Grammar

/-! ## Columns -/

/-- What a column shows. -/
inductive Margin
  /-- A word behind its address. -/
  | word (address value : UInt8)
  /-- A byte of the data memory behind its address. -/
  | datum (address value : UInt8)
  /-- An address alone. -/
  | place (address : UInt8)
  /-- Nothing. -/
  | blank

/-- What the column in front of a line shows. A word goes before a byte of the data memory. -/
def SourceLine.margin (imem : Memory) (line : SourceLine) : Margin :=
  match line.address, line.data with
  | some address, data =>
    if line.hasWord then .word address (imem.read address)
    else
      match data with
      | some (address, value) => .datum address value
      | none => .place address
  | none, some (address, value) => .datum address value
  | none, none => .blank

namespace Margin

/-- The characters of a column. -/
def chars : Margin → List Char
  | word address value =>
    ['0', 'x'] ++ (Hex.byte address).toList ++ [':', ' '] ++ (Hex.byte value).toList ++
      [' ', ' ', ' ']
  | datum address value =>
    ['[', '0', 'x'] ++ (Hex.byte address).toList ++ [']', ' '] ++ (Hex.byte value).toList ++
      [' ', ' ']
  | place address => ['0', 'x'] ++ (Hex.byte address).toList ++ ':' :: List.replicate 6 ' '
  | blank => List.replicate 11 ' '

/-- The word of a column, with its address. -/
def word? : Margin → Option (UInt8 × UInt8)
  | word address value => some (address, value)
  | datum _ _ | place _ | blank => none

/-- The byte of a column, with its address. -/
def datum? : Margin → Option (UInt8 × UInt8)
  | datum address value => some (address, value)
  | word _ _ | place _ | blank => none

/-- A column consists of these characters. -/
lemma toList_column (imem : Memory) (line : SourceLine) :
    (line.annotation imem).toList = (line.margin imem).chars := by
  have address (address : UInt8) : (Hex.prefixedByte address).toList =
      ['0', 'x'] ++ (Hex.byte address).toList := by
    rw [Hex.prefixedByte, String.toList_append]
    rfl
  rw [SourceLine.annotation, SourceLine.margin]
  rcases line.address with _ | here <;> rcases line.data with _ | ⟨there, value⟩ <;> dsimp only
  · rfl
  · simp only [String.toList_append, address]
    rfl
  · split <;> simp only [String.toList_append, address] <;> rfl
  · split <;> simp only [String.toList_append, address] <;> rfl

/-- All columns are eleven characters wide. -/
lemma length_chars (margin : Margin) : margin.chars.length = 11 := by
  cases margin <;> simp [chars, String.length_toList]

/-- A column does not break its line. -/
lemma isBreak_chars (margin : Margin) : ∀ c ∈ margin.chars, isBreak c = false := by
  have byte (b : UInt8) : (Hex.byte b).toList.any isBreak = false := by
    rw [Hex.byte, String.toList_ofList]
    refine forall_byte (P := fun b =>
      [Nat.digitChar (b.toNat / 16), Nat.digitChar (b.toNat % 16)].any isBreak = false) ?_ b
    decide +kernel
  refine isBreak_of_any ?_
  cases margin <;> simp only [chars, List.any_append, List.any_cons, byte] <;> rfl

end Margin

/-! ## Reading a row -/

/-- The byte with two given hexadecimal digits. -/
def byteOfDigits? (high low : Char) : Option UInt8 :=
  if isHexDigit high && isHexDigit low then
    some (UInt8.ofNat (16 * digitValue high + digitValue low))
  else none

/-- The digits of a byte are read as that byte. -/
lemma byteOfDigits?_byte (b : UInt8) :
    byteOfDigits? (Nat.digitChar (b.toNat / 16)) (Nat.digitChar (b.toNat % 16)) = some b := by
  refine forall_byte (P := fun b =>
    byteOfDigits? (Nat.digitChar (b.toNat / 16)) (Nat.digitChar (b.toNat % 16)) = some b) ?_ b
  decide +kernel

namespace Row

/-- The word that a row shows, behind its address, as in `0x2a: 9f`. -/
def word? : List Char → Option (UInt8 × UInt8)
  | '0' :: 'x' :: a :: b :: ':' :: ' ' :: c :: d :: _ => do
    let address ← byteOfDigits? a b
    let word ← byteOfDigits? c d
    return (address, word)
  | _ => none

/-- The byte of the data memory that a row shows, behind its address, as in `[0x2a] 9f`. -/
def datum? : List Char → Option (UInt8 × UInt8)
  | '[' :: '0' :: 'x' :: a :: b :: ']' :: ' ' :: c :: d :: _ => do
    let address ← byteOfDigits? a b
    let value ← byteOfDigits? c d
    return (address, value)
  | _ => none

/-- What a row shows behind its column, the bar and the blank. -/
def text (row : List Char) : List Char :=
  row.drop 13

/-- **The word of a column** is read as it is written. -/
theorem word?_chars (margin : Margin) (rest : List Char) :
    word? (margin.chars ++ rest) = margin.word? := by
  cases margin with
  | word address value =>
    simp only [Margin.chars, Hex.byte, String.toList_ofList]
    show (do
      let address ← byteOfDigits? _ _
      let word ← byteOfDigits? _ _
      return (address, word)) = _
    rw [byteOfDigits?_byte, byteOfDigits?_byte]
    rfl
  | datum address value => rfl
  | place address =>
    simp only [Margin.chars, Hex.byte, String.toList_ofList]
    show (do
      let address ← byteOfDigits? _ _
      let word ← byteOfDigits? ' ' ' '
      return (address, word)) = _
    rw [byteOfDigits?_byte]
    rfl
  | blank => rfl

/-- **The byte of a column** is read as it is written. -/
theorem datum?_chars (margin : Margin) (rest : List Char) :
    datum? (margin.chars ++ rest) = margin.datum? := by
  cases margin with
  | datum address value =>
    simp only [Margin.chars, Hex.byte, String.toList_ofList]
    show (do
      let address ← byteOfDigits? _ _
      let value ← byteOfDigits? _ _
      return (address, value)) = _
    rw [byteOfDigits?_byte, byteOfDigits?_byte]
    rfl
  | word address value => rfl
  | place address => rfl
  | blank => rfl

end Row

/-! ## The rows of a listing -/

/-- The row of a line, without the line feed at its end. -/
def SourceLine.shown (imem : Memory) (line : SourceLine) : List Char :=
  (line.margin imem).chars ++ '|' :: ' ' :: line.text.toList

/-- A listing consists of the rows of its lines. -/
lemma toList_listing (assembly : Assembly) :
    assembly.listing.toList =
      (assembly.lines.map (·.shown assembly.program.imem)).flatMap (· ++ ['\n']) := by
  have row (line : SourceLine) : (line.row assembly.program.imem).toList =
      line.shown assembly.program.imem ++ ['\n'] := by
    simp only [SourceLine.row, SourceLine.shown, String.toList_append,
      Margin.toList_column, List.append_assoc]
    rfl
  rw [Assembly.listing, listing, String.toList_join, List.flatMap_map, List.flatMap_map]
  simp only [row]

/-- A row does not break its line if the text of the line does not. -/
lemma SourceLine.isBreak_shown {line : SourceLine}
    (free : ∀ c ∈ line.text.toList, isBreak c = false) (imem : Memory) :
    ∀ c ∈ line.shown imem, isBreak c = false := by
  intro c inside
  rw [shown, List.mem_append, List.mem_cons, List.mem_cons] at inside
  rcases inside with column | rfl | rfl | text
  · exact Margin.isBreak_chars _ c column
  · rfl
  · rfl
  · exact free c text

/-- Behind the columns there are the texts of the lines. -/
lemma map_text_shown (imem : Memory) (lines : List SourceLine) :
    (lines.map (·.shown imem)).map Row.text = lines.map (·.text.toList) := by
  rw [List.map_map]
  refine List.map_congr_left fun line _ => ?_
  have column : ((line.margin imem).chars ++ ['|', ' ']).length = 13 := by
    rw [List.length_append, Margin.length_chars]
    rfl
  show ((line.margin imem).chars ++ (['|', ' '] ++ line.text.toList)).drop 13 = _
  rw [← List.append_assoc, List.drop_left' column]

/-- The words of the rows are those of their columns. -/
lemma filterMap_word?_shown (imem : Memory) (lines : List SourceLine) :
    (lines.map (·.shown imem)).filterMap Row.word? =
      lines.filterMap fun line => (line.margin imem).word? := by
  rw [List.filterMap_map]
  exact List.filterMap_congr fun line _ => Row.word?_chars _ _

/-- The bytes of the rows are those of their columns. -/
lemma filterMap_datum?_shown (imem : Memory) (lines : List SourceLine) :
    (lines.map (·.shown imem)).filterMap Row.datum? =
      lines.filterMap fun line => (line.margin imem).datum? := by
  rw [List.filterMap_map]
  exact List.filterMap_congr fun line _ => Row.datum?_chars _ _

/-! ## The memories -/

/-- An instruction or a `.byte` that fits has a word. -/
lemma Placement.hasWord_annotate {place : Placement} (fits : place.CommandFits) (text : String)
    (number : Nat) : (place.annotate text number).hasWord = place.line.hasWord := by
  rw [CommandFits] at fits
  change (place.line.inst?.isSome || place.line.word?.isSome) = place.line.hasWord
  rw [Content.inst?, Content.word?, Content.hasWord]
  rcases command : place.line.command with
    _ | address | value | ⟨address, value⟩ | ⟨mnemonic, operand⟩ <;>
    simp only [command] at fits ⊢ <;> try rfl
  obtain ⟨⟨op, named⟩, -⟩ := fits
  rw [(op.isNamed_iff mnemonic).mp named]
  rfl

/-- Without a word a column shows none. -/
lemma SourceLine.word?_margin_of_not_hasWord {line : SourceLine} (noWord : line.hasWord = false)
    (imem : Memory) : (line.margin imem).word? = none := by
  rw [margin, noWord]
  rcases line.address with _ | address <;> rcases line.data with _ | ⟨there, value⟩ <;> rfl

/-- A column shows the word of its line, as it is in the end. -/
lemma Linkable.word?_margin {lines : List Content} (linkable : Linkable lines) {place : Placement}
    (placed : place ∈ placements 0 lines) (imem : Memory) (text : String) (number : Nat) :
    ((place.annotate text number).margin imem).word? =
      (place.cell (symbolsOf lines)).map fun cell => (cell.1, imem.read cell.1) := by
  have same := Placement.hasWord_annotate (linkable.fits place placed).2 text number
  by_cases hasWord : place.line.hasWord = true
  · obtain ⟨-, word, found, -⟩ := linkable.exists_cell placed hasWord
    rw [found, SourceLine.margin, Placement.address_annotate hasWord]
    dsimp only
    rw [same, if_pos hasWord]
    rfl
  · rw [Bool.not_eq_true] at hasWord
    rw [Placement.cell_eq_none hasWord,
      SourceLine.word?_margin_of_not_hasWord (same.trans hasWord)]
    rfl

/-- A column shows the byte of its line, unless there is a word to be shown. -/
lemma SourceLine.datum?_margin {line : SourceLine}
    (apart : line.hasWord = true → line.data = none) (imem : Memory) :
    (line.margin imem).datum? = line.data := by
  rw [margin]
  by_cases hasWord : line.hasWord = true
  · rw [apart hasWord]
    rcases line.address with _ | address <;> simp only [hasWord, if_true] <;> rfl
  · rcases line.address with _ | address <;> rcases line.data with _ | ⟨there, value⟩ <;>
      simp only [hasWord, Bool.false_eq_true, if_false] <;> rfl

/-- No line has both a word and a byte of the data memory. -/
lemma Placement.data_annotate_of_hasWord (place : Placement) (text : String) (number : Nat)
    (hasWord : (place.annotate text number).hasWord = true) :
    (place.annotate text number).data = none := by
  obtain ⟨cursor, label, command⟩ := place
  rcases command with _ | address | value | ⟨address, value⟩ | ⟨mnemonic, operand⟩
  · rfl
  · rfl
  · rfl
  · cases hasWord
  · rfl

variable {numbered : List NumberedLine}

/-- The words of all columns are those of the lines, as they are in the end. -/
lemma Linkable.filterMap_word? (linkable : Linkable (numbered.map (·.line.content)))
    (imem : Memory) :
    (annotations 0 numbered).filterMap (fun line => (line.margin imem).word?) =
      ((placements 0 (numbered.map (·.line.content))).filterMap
        (·.cell (symbolsOf (numbered.map (·.line.content))))).map
          fun cell => (cell.1, imem.read cell.1) := by
  have each := filterMap_annotations (f := fun line => (line.margin imem).word?)
    (g := fun place => ((place.annotate "" 0).margin imem).word?) (fun _ _ _ => rfl) numbered
  rw [each, List.map_filterMap]
  exact List.filterMap_congr fun place placed => linkable.word?_margin placed imem "" 0

/-- **The instruction memory** holds the words of all columns, written one after another. -/
theorem Linkable.writeAll_words (linkable : Linkable (numbered.map (·.line.content))) :
    Memory.zero.writeAll ((annotations 0 numbered).filterMap fun line =>
        (line.margin (programOf (numbered.map (·.line.content))).imem).word?) =
      (programOf (numbered.map (·.line.content))).imem := by
  rw [linkable.filterMap_word?]
  -- a column shows a word as it is in the end, so that the earlier ones at its address are missing
  exact Memory.writeAll_map_read _ _

/-- **The data memory** holds the bytes of all columns, written one after another. -/
theorem writeAll_data (numbered : List NumberedLine) (imem : Memory) :
    Memory.zero.writeAll ((annotations 0 numbered).filterMap fun line =>
        (line.margin imem).datum?) =
      (programOf (numbered.map (·.line.content))).dmem := by
  have each := filterMap_annotations (f := fun line => (line.margin imem).datum?)
    (g := fun place => place.line.data?) (fun place text number =>
      SourceLine.datum?_margin (place.data_annotate_of_hasWord text number) imem) numbered
  rw [each]
  exact congrArg Memory.zero.writeAll (filterMap_line_placements 0 Content.data? _)

/-! ## The texts of the lines -/

/-- The texts of annotated lines are those that have been read. -/
lemma map_text_annotations (cursor : Nat) (numbered : List NumberedLine) :
    (annotations cursor numbered).map (·.text.toList) = numbered.map (·.line.text.toList) := by
  induction numbered generalizing cursor with
  | nil => rfl
  | cons first others ih => exact congrArg (first.line.text.toList :: ·) (ih _)

/-- What is read off annotated lines, but not off their numbers, depends on what has been read and
on the texts. -/
lemma map_annotations_congr {α : Type} {f : SourceLine → α} (cursor : Nat)
    {numbered numbered' : List NumberedLine}
    (unnumbered : ∀ place text m n, f (Placement.annotate place text m) = f (place.annotate text n))
    (same : numbered'.map (fun line => (line.line.content, line.line.text)) =
      numbered.map fun line => (line.line.content, line.line.text)) :
    (annotations cursor numbered').map f = (annotations cursor numbered).map f := by
  induction numbered generalizing cursor numbered' with
  | nil =>
    rw [List.map_nil, List.map_eq_nil_iff] at same
    rw [same]
  | cons first others ih =>
    rcases numbered' with _ | ⟨first', others'⟩
    · cases same
    · obtain ⟨head, tail⟩ := List.cons.inj same
      obtain ⟨content, text⟩ := Prod.mk.inj head
      rw [annotations, annotations, List.map_cons, List.map_cons, content, text, ih _ tail,
        unnumbered _ _ first'.number first.number]

/-- No text of a line contains a line break. -/
lemma isBreak_of_mem_texts {chars : List Char} (read : parseSource chars = .ok numbered) :
    ∀ text ∈ numbered.map (·.line.text.toList), ∀ c ∈ text, isBreak c = false := by
  refine List.forall_mem_map.mpr fun line inside => ?_
  obtain ⟨whole, inside', parsed⟩ := exists_mem_textLines read inside
  exact fun c hc => isBreak_of_mem_textLines inside' c ((Line.infix_text parsed).mem hc)

/-- **The texts of the lines can be read again**, and say what the lines have said. -/
theorem exists_parseSource_texts {chars : List Char} (read : parseSource chars = .ok numbered) :
    ∃ numbered',
      parseSource (['\n'].intercalate (numbered.map (·.line.text.toList))) = .ok numbered' ∧
        numbered'.map (·.line) = numbered.map fun line => { line.line with indent := 0 } := by
  have nonempty : numbered.map (·.line.text.toList) ≠ [] := by
    have length := (forall₂_parse read).length_eq
    intro nothing
    rw [List.map_eq_nil_iff.mp nothing] at length
    exact textLines_ne_nil chars (List.eq_nil_of_length_eq_zero length.symm)
  rw [exists_parseSource_iff, textLines_intercalate nonempty (isBreak_of_mem_texts read),
    List.map_map, List.map_map]
  refine List.map_congr_left fun line inside => ?_
  obtain ⟨whole, inside', parsed⟩ := exists_mem_textLines read inside
  exact Line.parse_text parsed

/-- **The texts of the lines are assembled to the same program**, with the same rows. -/
theorem exists_assemble_texts {text : String} {assembly : Assembly}
    (assembled : assemble text = .ok assembly) :
    ∃ again,
      assemble (String.ofList (['\n'].intercalate (assembly.lines.map (·.text.toList)))) =
        .ok again ∧
      again.program = assembly.program ∧ again.listing = assembly.listing := by
  obtain ⟨numbered, read, linkable, rfl⟩ := assemble_eq_ok_iff.mp assembled
  obtain ⟨numbered', read', same⟩ := exists_parseSource_texts read
  have contents : numbered'.map (·.line.content) = numbered.map (·.line.content) := by
    have contents := congrArg (List.map Line.content) same
    rwa [List.map_map, List.map_map] at contents
  have parts : numbered'.map (fun line => (line.line.content, line.line.text)) =
      numbered.map fun line => (line.line.content, line.line.text) := by
    have parts := congrArg (List.map fun line => (line.content, line.text)) same
    rwa [List.map_map, List.map_map] at parts
  refine ⟨_, assemble_eq_ok_iff.mpr ⟨numbered', ?_, ?_, rfl⟩, ?_, ?_⟩
  · rw [String.toList_ofList, map_text_annotations]
    exact read'
  · rw [contents]
    exact linkable
  · rw [contents]
  · rw [Assembly.listing, Assembly.listing, listing, listing, contents]
    dsimp only
    rw [map_annotations_congr 0 (fun _ _ _ _ => rfl) parts]

/-! ## The whole listing -/

/-- Whether everything that a text has been assembled to comes back from the rows of its listing. -/
structure Restores (text : String) (assembly : Assembly) (rows : List (List Char)) : Prop where
  /-- The listing consists of the rows, with a line feed behind each of them. -/
  listing : assembly.listing.toList = rows.flatMap (· ++ ['\n'])
  /-- No row contains a line break. -/
  free : ∀ row ∈ rows, ∀ c ∈ row, isBreak c = false
  /-- There is one row for each line of the text, and it shows a part of that line. -/
  lines : List.Forall₂ (fun row line => Row.text row <:+: line) rows (textLines text.toList)
  /-- Each row consists of a column of eleven characters, a bar and a blank, and the text of its
  line. -/
  shape : List.Forall₂
    (fun row line => ∃ column : List Char, column.length = 11 ∧
      row = column ++ '|' :: ' ' :: line.text.toList) rows assembly.lines
  /-- The instruction memory holds the words of the rows, written one after another. -/
  words : Memory.zero.writeAll (rows.filterMap Row.word?) = assembly.program.imem
  /-- The data memory holds the bytes of the rows, written one after another. -/
  data : Memory.zero.writeAll (rows.filterMap Row.datum?) = assembly.program.dmem
  /-- The texts of the rows are assembled to the same program, and to the same listing. -/
  again : ∃ again,
    assemble (String.ofList (['\n'].intercalate (rows.map Row.text))) = .ok again ∧
      again.program = assembly.program ∧ again.listing = assembly.listing

/-- **Everything comes back from a listing.** Its rows are those of the lines of the text, both
memories can be filled from the columns, and the texts behind the columns are assembled to the same
program and the same listing.

**Proof sketch.** A column is read as it is written (`Hex8.Asm.Row.word?_chars`,
`Hex8.Asm.Row.datum?_chars`), so the rows say which words and bytes have been written in which
order; that earlier words are missing does not matter (`Hex8.Memory.writeAll_map_read`). What is cut
off a line in its text has no meaning (`Hex8.Asm.Line.parse_text`). -/
theorem exists_restores {text : String} {assembly : Assembly}
    (assembled : assemble text = .ok assembly) : ∃ rows, Restores text assembly rows := by
  have again := exists_assemble_texts assembled
  obtain ⟨numbered, read, linkable, same⟩ := assemble_eq_ok_iff.mp assembled
  have lines : assembly.lines = annotations 0 numbered := by rw [same]
  have program : assembly.program = programOf (numbered.map (·.line.content)) := by rw [same]
  have texts : assembly.lines.map (·.text.toList) = numbered.map (·.line.text.toList) := by
    rw [lines, map_text_annotations]
  refine ⟨assembly.lines.map (·.shown assembly.program.imem), ?_⟩
  exact
    { listing := toList_listing assembly
      free := by
        have free := isBreak_of_mem_texts read
        rw [← texts, List.forall_mem_map] at free
        exact List.forall_mem_map.mpr fun line inside =>
          SourceLine.isBreak_shown (free line inside) _
      lines := by
        have rows : List.Forall₂ (· <:+: ·) (numbered.map (·.line.text.toList))
            (textLines text.toList) := by
          rw [List.forall₂_map_left_iff]
          exact (forall₂_parse read).imp fun _ _ => Line.infix_text
        rw [← texts, ← map_text_shown assembly.program.imem, List.forall₂_map_left_iff] at rows
        exact rows
      shape := by
        rw [List.forall₂_map_left_iff, List.forall₂_same]
        exact fun line _ => ⟨_, Margin.length_chars _, rfl⟩
      words := by
        rw [filterMap_word?_shown, lines, program]
        exact linkable.writeAll_words
      data := by
        rw [filterMap_datum?_shown, lines, program]
        exact writeAll_data numbered _
      again := by
        rw [map_text_shown]
        exact again }

/-- A text with all kinds of line breaks, comments that belong to a line's text and others that do
not, a line of nothing but a label, an empty line, and a word that replaces another one. -/
def mixedText : String :=
  "start:  # first\r\n  LDAC start // second\r.data 16, 7\n\n.pos 0\n.byte 0x9f"

/-- Everything comes back from the listing of this text: six rows, the word that is there in the
end, and the byte of the data memory. -/
theorem restores_mixedText :
    ∃ assembly rows, assemble mixedText = .ok assembly ∧ Restores mixedText assembly rows ∧
      rows.length = 6 ∧
      (Memory.zero.writeAll (rows.filterMap Row.word?)).read 0 = 0x9f ∧
      (Memory.zero.writeAll (rows.filterMap Row.datum?)).read 16 = 7 := by
  have result : (assemble mixedText).toOption.map (fun assembly =>
      (assembly.program.imem.read 0, assembly.program.dmem.read 16)) = some (0x9f, 7) := by
    decide +kernel
  obtain ⟨assembly, assembled, cells⟩ := Option.map_eq_some_iff.mp result
  obtain ⟨word, byte⟩ := Prod.mk.inj cells
  rw [toOption_eq_some_iff] at assembled
  obtain ⟨rows, restores⟩ := exists_restores assembled
  refine ⟨assembly, rows, assembled, restores, ?_, ?_, ?_⟩
  · rw [restores.lines.length_eq]
    decide +kernel
  · rw [restores.words]
    exact word
  · rw [restores.data]
    exact byte

end Hex8.Asm
