import Mathlib.Tactic.Lemma
import Hex8.Proofs.Assembling

set_option relaxedAutoImplicit false
set_option autoImplicit false

/-!
# Mnemonics in upper and lower case

Mnemonics are known by their letters, whether these are large or small. Nothing that the assembler
does with a line depends on more than that. So lines with their mnemonics in upper case stand for
all lines that differ from them in the case of mnemonics only.

## Main definitions

* `Hex8.Asm.Content.upper` — a line with its mnemonic in upper case.
* `Hex8.Asm.SourceLine.meaning` — what an annotated line means for a program.

## Main results

* `Hex8.Asm.continuesName_toUpper` — what can be a name can be one in upper case.
* `Hex8.Asm.programOf_map_upper`, `Hex8.Asm.linkable_map_upper_iff` — the program of a text does not
  depend on the case of its mnemonics.
* `Hex8.Asm.assemble_of_upper_eq` — two texts that say the same but for the case of mnemonics.
-/

namespace Hex8

/-! ## Characters -/

/-- Small letters of ASCII have their large ones 32 places in front of them. -/
lemma toNat_toUpper (c : Char) :
    c.toUpper.toNat = if 97 ≤ c.toNat ∧ c.toNat ≤ 122 then c.toNat - 32 else c.toNat := by
  unfold Char.toUpper
  by_cases lower : 'a'.val ≤ c.val ∧ c.val ≤ 'z'.val
  · have bounds : 97 ≤ c.toNat ∧ c.toNat ≤ 122 :=
      ⟨UInt32.le_iff_toNat_le.mp lower.1, UInt32.le_iff_toNat_le.mp lower.2⟩
    have distance : ('A'.val - 'a'.val).toNat = 2 ^ 32 - 32 := by decide
    rw [dif_pos lower, if_pos bounds]
    show (c.val + ('A'.val - 'a'.val)).toNat = c.toNat - 32
    have value : c.val.toNat = c.toNat := rfl
    rw [UInt32.toNat_add, distance, value]
    omega
  · have bounds : ¬(97 ≤ c.toNat ∧ c.toNat ≤ 122) := fun bounds =>
      lower ⟨UInt32.le_iff_toNat_le.mpr bounds.1, UInt32.le_iff_toNat_le.mpr bounds.2⟩
    rw [dif_neg lower, if_neg bounds]

/-- Large letters stay as they are. -/
lemma toUpper_toUpper (c : Char) : c.toUpper.toUpper = c.toUpper := by
  apply Char.toNat_inj.mp
  rw [toNat_toUpper c.toUpper, toNat_toUpper]
  by_cases lower : 97 ≤ c.toNat ∧ c.toNat ≤ 122
  · rw [if_pos lower, if_neg (by omega)]
  · rw [if_neg lower, if_neg lower]

/-- The letters of ASCII by their numbers. -/
lemma isAlpha_iff (c : Char) :
    c.isAlpha = true ↔ (65 ≤ c.toNat ∧ c.toNat ≤ 90) ∨ (97 ≤ c.toNat ∧ c.toNat ≤ 122) := by
  change (decide (c.val ≥ 'A'.val ∧ c.val ≤ 'Z'.val) ||
    (decide (c.val ≥ 'a'.val) && decide (c.val ≤ 'z'.val))) = true ↔ _
  simp only [Bool.or_eq_true, Bool.and_eq_true, decide_eq_true_eq]
  exact Iff.rfl

/-- The digits of ASCII by their numbers. -/
lemma isDigit_iff (c : Char) : c.isDigit = true ↔ 48 ≤ c.toNat ∧ c.toNat ≤ 57 := by
  simp only [Char.isDigit, Bool.and_eq_true, decide_eq_true_eq]
  exact Iff.rfl

namespace Asm

/-- A name may start with a letter in upper case if it may start with the letter. -/
lemma startsName_toUpper (c : Char) : startsName c.toUpper = startsName c := by
  have underscore (d : Char) : d = '_' ↔ d.toNat = 95 := Char.toNat_inj.symm
  rw [Bool.eq_iff_iff]
  simp only [startsName, Bool.or_eq_true, decide_eq_true_eq, isAlpha_iff, underscore,
    toNat_toUpper]
  split <;> omega

/-- A name may contain a letter in upper case if it may contain the letter. -/
lemma continuesName_toUpper (c : Char) : continuesName c.toUpper = continuesName c := by
  have underscore (d : Char) : d = '_' ↔ d.toNat = 95 := Char.toNat_inj.symm
  rw [Bool.eq_iff_iff]
  simp only [continuesName, Char.isAlphanum, Bool.or_eq_true, decide_eq_true_eq, isAlpha_iff,
    isDigit_iff, underscore, toNat_toUpper]
  split <;> omega

/-! ## Lines -/

/-- A mnemonic in upper case. -/
def upperName (mnemonic : String) : String :=
  String.ofList (mnemonic.toList.map Char.toUpper)

/-- A mnemonic in upper case is the name of the same operation. -/
lemma ofName?_upperName (mnemonic : String) :
    Opcode.ofName? (upperName mnemonic) = Opcode.ofName? mnemonic := by
  have letters : (upperName mnemonic).toList.map Char.toUpper =
      mnemonic.toList.map Char.toUpper := by
    rw [upperName, String.toList_ofList, List.map_map]
    apply List.map_congr_left
    intro c _
    exact toUpper_toUpper c
  rw [Opcode.ofName?, Opcode.ofName?, letters]

/-- A statement with its mnemonic in upper case. -/
def Command.upper : Command → Command
  | .inst mnemonic operand => .inst (upperName mnemonic) operand
  | command => command

namespace Content

/-- A line with its mnemonic in upper case. -/
def upper (line : Content) : Content :=
  { line with command := line.command.map Command.upper }

variable (line : Content)

/-- A line has the same label with its mnemonic in upper case. -/
@[simp] lemma label_upper : line.upper.label = line.label := rfl

/-- It moves the cursor to the same address. -/
@[simp] lemma position?_upper : line.upper.position? = line.position? := by
  obtain ⟨label, command⟩ := line
  rcases command with _ | address | value | ⟨address, value⟩ | ⟨mnemonic, operand⟩ <;> rfl

/-- It has a word if it had one. -/
@[simp] lemma hasWord_upper : line.upper.hasWord = line.hasWord := by
  obtain ⟨label, command⟩ := line
  rcases command with _ | address | value | ⟨address, value⟩ | ⟨mnemonic, operand⟩ <;> rfl

/-- A number that is written as a word is the same. -/
@[simp] lemma word?_upper : line.upper.word? = line.word? := by
  obtain ⟨label, command⟩ := line
  rcases command with _ | address | value | ⟨address, value⟩ | ⟨mnemonic, operand⟩ <;> rfl

/-- It sets the same byte of the data memory. -/
@[simp] lemma data?_upper : line.upper.data? = line.data? := by
  obtain ⟨label, command⟩ := line
  rcases command with _ | address | value | ⟨address, value⟩ | ⟨mnemonic, operand⟩ <;> rfl

/-- It has the same instruction, because mnemonics are looked up in upper case. -/
@[simp] lemma inst?_upper : line.upper.inst? = line.inst? := by
  obtain ⟨label, command⟩ := line
  rcases command with _ | address | value | ⟨address, value⟩ | ⟨mnemonic, operand⟩
  case some.inst =>
    show (Opcode.ofName? (upperName mnemonic)).map _ = _
    rw [ofName?_upperName]
    rfl
  all_goals rfl

/-- The cursor behind it is the same. -/
@[simp] lemma advance_upper (cursor : Nat) : line.upper.advance cursor = line.advance cursor := by
  simp [advance]

end Content

/-! ## Lines at their places -/

namespace Placement

/-- A line at its place, with its mnemonic in upper case. -/
def upper (place : Placement) : Placement :=
  { place with line := place.line.upper }

variable (place : Placement)

/-- A line binds the same label to the same address. -/
@[simp] lemma binding?_upper : place.upper.binding? = place.binding? := by
  simp [binding?, upper, address]

/-- A line means the same with its mnemonic in upper case. -/
@[simp] lemma annotate_upper (text : String) (number : Nat) :
    place.upper.annotate text number = place.annotate text number := by
  simp [annotate, upper, hasAddress, address]

/-- A line has the same word with its mnemonic in upper case. -/
@[simp] lemma cell?_upper (symbols : Symbols) : place.upper.cell? symbols = place.cell? symbols := by
  obtain ⟨cursor, label, command⟩ := place
  rcases command with _ | address | value | ⟨address, value⟩ | ⟨mnemonic, operand⟩
  case some.inst =>
    simp only [cell?, upper, Content.upper, Option.map_some, Command.upper, ofName?_upperName]
  all_goals rfl

/-- A line fills the same cell with its mnemonic in upper case. -/
@[simp] lemma cell_upper (symbols : Symbols) : place.upper.cell symbols = place.cell symbols := by
  simp [cell]

/-- A label fits whatever the case of the mnemonic behind it. -/
lemma labelFits_upper : place.upper.LabelFits ↔ place.LabelFits := Iff.rfl

/-- A statement fits if it does with its mnemonic in upper case. -/
lemma commandFits_upper : place.upper.CommandFits ↔ place.CommandFits := by
  obtain ⟨cursor, label, command⟩ := place
  rcases command with _ | address | value | ⟨address, value⟩ | ⟨mnemonic, operand⟩
  case some.inst =>
    simp only [CommandFits, upper, Content.upper, Option.map_some, Command.upper,
      Opcode.isNamed_iff, ofName?_upperName]
  all_goals exact Iff.rfl

end Placement

/-- Lines have the same places with their mnemonics in upper case. -/
lemma placements_map_upper (cursor : Nat) (lines : List Content) :
    placements cursor (lines.map Content.upper) = (placements cursor lines).map Placement.upper := by
  induction lines generalizing cursor with
  | nil => rfl
  | cons line others ih =>
    rw [List.map_cons, placements, placements, List.map_cons, Content.advance_upper, ih]
    rfl

/-- What does not depend on the case of mnemonics can be read off the lines at their places. -/
lemma filterMap_placements_map_upper {α : Type} {f : Placement → Option α}
    (caseless : ∀ place : Placement, f place.upper = f place) (lines : List Content) :
    (placements 0 (lines.map Content.upper)).filterMap f = (placements 0 lines).filterMap f := by
  rw [placements_map_upper, List.filterMap_map]
  exact List.filterMap_congr fun place _ => caseless place

/-! ## Texts -/

/-- The labels stand for the same addresses. -/
lemma symbolsOf_map_upper (lines : List Content) :
    symbolsOf (lines.map Content.upper) = symbolsOf lines := by
  rw [symbolsOf, filterMap_placements_map_upper Placement.binding?_upper]
  rfl

/-- **The program does not depend on the case of mnemonics.** -/
theorem programOf_map_upper (lines : List Content) :
    programOf (lines.map Content.upper) = programOf lines := by
  have cells := filterMap_placements_map_upper (f := (·.cell (symbolsOf lines)))
    (fun place => place.cell_upper (symbolsOf lines)) lines
  have bytes : (lines.map Content.upper).filterMap Content.data? =
      lines.filterMap Content.data? := by
    rw [List.filterMap_map]
    exact List.filterMap_congr fun line _ => line.data?_upper
  rw [programOf, symbolsOf_map_upper, cells, bytes]
  rfl

/-- **Whether something is wrong with lines does not depend on the case of mnemonics.** -/
theorem linkable_map_upper_iff (lines : List Content) :
    Linkable (lines.map Content.upper) ↔ Linkable lines := by
  have labels : (lines.map Content.upper).filterMap Content.label =
      lines.filterMap Content.label := by
    rw [List.filterMap_map]
    rfl
  have fits : (∀ place ∈ placements 0 (lines.map Content.upper),
        place.LabelFits ∧ place.CommandFits) ↔
      ∀ place ∈ placements 0 lines, place.LabelFits ∧ place.CommandFits := by
    rw [placements_map_upper, List.forall_mem_map]
    simp only [Placement.labelFits_upper, Placement.commandFits_upper]
  have cells : (∀ place ∈ placements 0 (lines.map Content.upper),
        ∃ cell, place.cell? (symbolsOf lines) = .ok cell) ↔
      ∀ place ∈ placements 0 lines, ∃ cell, place.cell? (symbolsOf lines) = .ok cell := by
    rw [placements_map_upper, List.forall_mem_map]
    simp only [Placement.cell?_upper]
  constructor
  · rintro ⟨⟨fits', unique⟩, cells'⟩
    rw [symbolsOf_map_upper] at cells'
    exact ⟨⟨fits.mp fits', labels ▸ unique⟩, cells.mp cells'⟩
  · rintro ⟨⟨fits', unique⟩, cells'⟩
    refine ⟨⟨fits.mpr fits', labels ▸ unique⟩, ?_⟩
    rw [symbolsOf_map_upper]
    exact cells.mpr cells'

/-- What an annotated line means for a program: its label, its instruction, its word, its address
and its byte for the data memory. -/
def SourceLine.meaning (line : SourceLine) :
    Option String × Option (Opcode × Immediate) × Option UInt8 × Option UInt8 ×
      Option (UInt8 × UInt8) :=
  (line.label, line.inst, line.word, line.address, line.data)

/-- The meanings of the annotated lines do not depend on the case of mnemonics. -/
lemma map_meaning_annotations (numbered : List NumberedLine) :
    (annotations 0 numbered).map SourceLine.meaning =
      (placements 0 ((numbered.map (·.line.content)).map Content.upper)).map
        fun place => (place.annotate "" 0).meaning := by
  have unplaced (place : Placement) (text : String) (number : Nat) :
      (place.annotate text number).meaning = (place.annotate "" 0).meaning := rfl
  rw [map_annotations unplaced, placements_map_upper, List.map_map]
  apply List.map_congr_left
  intro place _
  show _ = (place.upper.annotate "" 0).meaning
  rw [Placement.annotate_upper]

/-- **Two texts that say the same but for the case of mnemonics** are assembled to the same program,
and their lines mean the same. -/
theorem assemble_of_upper_eq {text text' : String} {assembly : Assembly}
    {numbered numbered' : List NumberedLine} (assembled : assemble text = .ok assembly)
    (read : parseSource text.toList = .ok numbered)
    (read' : parseSource text'.toList = .ok numbered')
    (same : numbered'.map (·.line.content.upper) = numbered.map (·.line.content.upper)) :
    ∃ again, assemble text' = .ok again ∧ again.program = assembly.program ∧
      again.lines.map SourceLine.meaning = assembly.lines.map SourceLine.meaning := by
  obtain ⟨_, read'', linkable, rfl⟩ := assemble_eq_ok_iff.mp assembled
  obtain rfl := Except.ok.inj (read.symm.trans read'')
  have contents : (numbered'.map (·.line.content)).map Content.upper =
      (numbered.map (·.line.content)).map Content.upper := by
    rw [List.map_map, List.map_map]
    exact same
  rw [← linkable_map_upper_iff, ← contents, linkable_map_upper_iff] at linkable
  refine ⟨_, assemble_eq_ok_iff.mpr ⟨numbered', read', linkable, rfl⟩, ?_, ?_⟩
  · show programOf _ = programOf _
    rw [← programOf_map_upper, contents, programOf_map_upper]
  · show (annotations 0 numbered').map _ = (annotations 0 numbered).map _
    rw [map_meaning_annotations, map_meaning_annotations, contents]

end Asm

end Hex8
