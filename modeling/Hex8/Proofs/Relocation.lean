import Hex8.Proofs.Lines
import Hex8.Proofs.Margins
import Hex8.Proofs.MemoryImage
import Hex8.Proofs.Spelling

set_option relaxedAutoImplicit false
set_option autoImplicit false

/-!
# Moving a program

A text without `.pos` goes into the instruction memory from address zero on. A line with `.pos` in
front of it moves everything: the words, and the addresses that labels stand for. The distance from
an instruction to a label stays the same, and so do the words, as long as no instruction takes the
address of a label itself as its operand.

## Main definitions

* `Hex8.Asm.Content.IsRelative`, `Hex8.Asm.Relocatable` — lines that say the same wherever they are.
* `Hex8.Asm.Placement.shift`, `Hex8.Symbols.shift`, `Hex8.Program.Moved` — lines, names and
  programs, further on.
* `Hex8.Asm.Numeral.decimal` — a number in decimal digits.

## Main results

* `Hex8.Asm.placements_add` — lines without `.pos` move as a whole.
* `Hex8.Asm.Placement.cell?_shift` — a word stays the same, further on.
* `Hex8.Asm.Relocatable.linkable`, `Hex8.Asm.Relocatable.moved` — what the lines become.
* `Hex8.Asm.assemble_behind_pos` — a text behind `.pos`.

## Design

Addresses are bytes, and moving them is an addition of bytes, which can be taken back. Whether an
address would go beyond the last one matters only for whether a line can be laid out there, where
the cursor is a number of any size.
-/

namespace Hex8

/-! ## Names and writes, further on -/

namespace Symbols

/-- The names with their addresses moved on. -/
def shift (symbols : Symbols) (distance : UInt8) : Symbols :=
  ⟨symbols.entries.map fun entry => (entry.1, entry.2 + distance)⟩

/-- The names are the same. -/
@[simp] theorem names_shift (symbols : Symbols) (distance : UInt8) :
    (symbols.shift distance).names = symbols.names := by
  rw [names, shift, List.map_map]
  rfl

/-- Each name stands for an address further on. -/
@[simp] theorem find?_shift (symbols : Symbols) (distance : UInt8) (name : String) :
    (symbols.shift distance).find? name = (symbols.find? name).map (· + distance) := by
  obtain ⟨entries⟩ := symbols
  rw [find?, find?, shift]
  induction entries with
  | nil => rfl
  | cons entry others ih =>
    rw [List.map_cons, List.lookup_cons, List.lookup_cons]
    split
    · rfl
    · exact ih

end Symbols

/-- The latest value at an address is the same if all writes are moved on with the address. -/
theorem latest?_shift (address distance : UInt8) (writes : List (UInt8 × UInt8)) :
    latest? (address + distance) (writes.map fun write => (write.1 + distance, write.2)) =
      latest? address writes := by
  rw [latest?, latest?, List.filter_map, List.getLast?_map, Option.map_map]
  have same (write : UInt8 × UInt8) :
      ((fun write : UInt8 × UInt8 => decide (write.1 = address + distance)) ∘
        fun write : UInt8 × UInt8 => (write.1 + distance, write.2)) write =
      decide (write.1 = address) :=
    decide_eq_decide.mpr (UInt8.add_left_inj distance)
  rw [List.filter_congr fun write _ => same write]
  rfl

/-- Whether a program is another one of so many words, further on. -/
structure Program.Moved (distance words : Nat) (program moved : Program) : Prop where
  /-- The words are further on by the distance, and there is nothing else. -/
  imem (address : UInt8) : moved.imem.read address =
    if distance ≤ address.toNat ∧ address.toNat < distance + words then
      program.imem.read (UInt8.ofNat (address.toNat - distance))
    else 0
  /-- The names are the same, in the same order. -/
  names : moved.symbols.names = program.symbols.names
  /-- Each of them stands for an address further on by the distance. -/
  symbols (name : String) : (moved.symbols.find? name).map UInt8.toNat =
    (program.symbols.find? name).map fun address => distance + address.toNat
  /-- The data memory is the same. -/
  dmem : moved.dmem = program.dmem

namespace Asm

/-! ## Lines, further on -/

/-- Whether a label is an operand of a line only if its distance counts, and not its address. -/
def Content.IsRelative (line : Content) : Prop :=
  ∀ mnemonic name (op : Opcode), line.command = some (.inst mnemonic (some (.name name))) →
    op.IsNamed mnemonic → op ∈ [.ldap, .br, .brz, .brn]

/-- Lines that say the same wherever they are: there is no `.pos`, and a label is an operand only
where its distance counts. -/
structure Relocatable (lines : List Content) : Prop where
  /-- There is no `.pos`. -/
  unplaced : ∀ line ∈ lines, line.position? = none
  /-- Labels are operands of LDAP, BR, BRZ and BRN only. -/
  relative : ∀ line ∈ lines, line.IsRelative

/-- A line further on. -/
def Placement.shift (place : Placement) (distance : Nat) : Placement :=
  { place with cursor := place.cursor + distance }

variable {lines : List Content}

/-- **Lines without `.pos` move as a whole.** -/
theorem placements_add (unplaced : ∀ line ∈ lines, line.position? = none) (cursor distance : Nat) :
    placements (cursor + distance) lines =
      (placements cursor lines).map (·.shift distance) := by
  induction lines generalizing cursor with
  | nil => rfl
  | cons line others ih =>
    rw [List.forall_mem_cons] at unplaced
    have step : line.advance (cursor + distance) = line.advance cursor + distance := by
      rw [Content.advance_of_none unplaced.1, Content.advance_of_none unplaced.1]
      omega
    rw [placements, placements, List.map_cons, step, ih unplaced.2]
    rfl

/-- Words without `.pos` are counted from where the first line is. -/
lemma cursor_lt_of_hasWord (unplaced : ∀ line ∈ lines, line.position? = none) {cursor : Nat}
    {place : Placement} (placed : place ∈ placements cursor lines)
    (hasWord : place.line.hasWord = true) :
    place.cursor < cursor + lines.countP Content.hasWord := by
  induction lines generalizing cursor with
  | nil => cases placed
  | cons line others ih =>
    rw [List.forall_mem_cons] at unplaced
    rw [List.countP_cons]
    rcases List.mem_cons.mp placed with rfl | placed
    · rw [if_pos hasWord]
      dsimp only
      omega
    · have inside := ih unplaced.2 placed
      rw [Content.advance_of_none unplaced.1] at inside
      omega

namespace Placement

variable {place : Placement} {distance : Nat}

/-- A label stands for an address further on. -/
lemma binding?_shift (unplaced : place.line.position? = none) :
    (place.shift distance).binding? =
      place.binding?.map fun entry => (entry.1, entry.2 + UInt8.ofNat distance) := by
  rw [binding?, binding?, address, address, shift, Option.map_map]
  dsimp only
  rw [unplaced, Option.getD_none, Option.getD_none, UInt8.ofNat_add]
  rfl

/-- A statement fits further on as well if there is an address for its word. -/
lemma CommandFits.shift (fits : place.CommandFits)
    (inside : place.line.hasWord = true → place.cursor + distance < 256) :
    (place.shift distance).CommandFits := by
  obtain ⟨cursor, label, command⟩ := place
  rcases command with _ | address | value | ⟨address, value⟩ | ⟨mnemonic, operand⟩
  · exact fits
  · exact fits
  · exact ⟨inside rfl, fits.2⟩
  · exact fits
  · exact ⟨fits.1, fits.2.1, inside rfl⟩

end Placement

/-- A distance stays the same if both ends are moved on. -/
lemma Immediate.resolve_shift (symbols : Symbols) {op : Opcode} {immediate : Immediate}
    (relative : ∀ name, immediate = .label name → op.isPcRelative = true)
    (address distance : UInt8) :
    immediate.resolve (symbols.shift distance) op (address + distance) =
      immediate.resolve symbols op address := by
  rcases immediate with value | name
  · rfl
  · rw [resolve, resolve, Symbols.find?_shift]
    rcases symbols.find? name with _ | target
    · rfl
    · have kept : target + distance - (address + distance) = target - address := by
        grind
      simp only [Option.map_some, relative name rfl, if_true, kept]

namespace Placement

/-- **A word stays the same, further on.** -/
theorem cell?_shift {place : Placement} (symbols : Symbols) (relative : place.line.IsRelative)
    (distance : Nat) :
    (place.shift distance).cell? (symbols.shift (UInt8.ofNat distance)) =
      (place.cell? symbols).map
        (Option.map fun cell => (cell.1 + UInt8.ofNat distance, cell.2)) := by
  obtain ⟨cursor, label, command⟩ := place
  rcases command with _ | address | value | ⟨address, value⟩ | ⟨mnemonic, operand⟩
  · rfl
  · rfl
  · simp only [cell?, shift, UInt8.ofNat_add]
    rfl
  · rfl
  · simp only [cell?, shift, UInt8.ofNat_add]
    rcases named : Opcode.ofName? mnemonic with _ | op
    · rfl
    · have counts (name : String) (label : Operand.immediate operand = .label name) :
          op.isPcRelative = true := by
        rcases operand with _ | numeral | name'
        · cases label
        · cases label
        · exact op.isPcRelative_iff.mpr
            (relative mnemonic name' op rfl ((op.isNamed_iff mnemonic).mpr named))
      simp only [Immediate.resolve_shift symbols counts]
      rcases (Operand.immediate operand).resolve symbols op (UInt8.ofNat cursor) with cause | imm
      · rfl
      · rfl

/-- The word itself, if nothing is wrong with it. -/
lemma cell_shift {place : Placement} (symbols : Symbols) (relative : place.line.IsRelative)
    (distance : Nat) :
    (place.shift distance).cell (symbols.shift (UInt8.ofNat distance)) =
      (place.cell symbols).map fun cell => (cell.1 + UInt8.ofNat distance, cell.2) := by
  rw [cell, cell, cell?_shift symbols relative]
  rcases place.cell? symbols with cause | _ | cell <;> rfl

end Placement

/-! ## Behind `.pos` -/

/-- The line that moves the cursor. -/
def Content.moving (numeral : Numeral) : Content :=
  { label := none, command := some (.position numeral) }

namespace Relocatable

variable {numeral : Numeral}

/-- Behind the line that moves the cursor, all lines are further on. -/
lemma placements_moving (relocatable : Relocatable lines) (numeral : Numeral) :
    placements 0 (Content.moving numeral :: lines) =
      ⟨0, Content.moving numeral⟩ :: (placements 0 lines).map (·.shift numeral.value) := by
  have moved := placements_add relocatable.unplaced 0 numeral.value
  rw [Nat.zero_add] at moved
  rw [placements, ← moved]
  rfl

/-- What is read off the lines is further on, if that of each line is. -/
lemma filterMap_placements_moving {α : Type} (relocatable : Relocatable lines)
    {f g : Placement → Option α} {move : α → α} (first : f ⟨0, Content.moving numeral⟩ = none)
    (moved : ∀ place ∈ placements 0 lines,
      f (place.shift numeral.value) = (g place).map move) :
    (placements 0 (Content.moving numeral :: lines)).filterMap f =
      ((placements 0 lines).filterMap g).map move := by
  rw [relocatable.placements_moving, List.filterMap_cons_none first, List.filterMap_map,
    List.map_filterMap]
  exact List.filterMap_congr moved

/-- Labels are further on. -/
theorem symbolsOf_moving (relocatable : Relocatable lines) (numeral : Numeral) :
    symbolsOf (Content.moving numeral :: lines) =
      (symbolsOf lines).shift (UInt8.ofNat numeral.value) := by
  refine congrArg Symbols.mk (relocatable.filterMap_placements_moving rfl fun place placed => ?_)
  exact Placement.binding?_shift (relocatable.unplaced _ (line_mem placed))

/-- **The lines can be assembled further on as well** if there are addresses left for their words
and for their labels. -/
theorem linkable (relocatable : Relocatable lines) (linkable : Linkable lines)
    (room : numeral.value + lines.countP Content.hasWord ≤ 256) (small : numeral.value ≤ 255)
    (labels : ∀ name address, (symbolsOf lines).find? name = some address →
      numeral.value + address.toNat ≤ 255) :
    Linkable (Content.moving numeral :: lines) where
  fits := by
    rw [relocatable.placements_moving, List.forall_mem_cons, List.forall_mem_map]
    refine ⟨⟨nofun, small⟩, fun place placed => ⟨fun labelled => ?_, ?_⟩⟩
    · obtain ⟨name, named⟩ := Option.isSome_iff_exists.mp labelled
      have here : place.address = place.cursor := by
        rw [Placement.address, relocatable.unplaced _ (line_mem placed), Option.getD_none]
      have defined : Defines lines name place.cursor := ⟨place, placed, named, here⟩
      have address := UInt8.toNat_ofNat_of_lt' (linkable.lt_of_defines defined)
      rw [← address, ← linkable.find?_symbolsOf] at defined
      have inside := labels name _ defined
      rw [address] at inside
      show place.cursor + numeral.value < 256
      omega
    · refine (linkable.fits place placed).2.shift fun hasWord => ?_
      have inside := cursor_lt_of_hasWord relocatable.unplaced placed hasWord
      omega
  unique := linkable.unique
  cells := by
    rw [relocatable.symbolsOf_moving, relocatable.placements_moving, List.forall_mem_cons,
      List.forall_mem_map]
    refine ⟨⟨none, rfl⟩, fun place placed => ?_⟩
    obtain ⟨cell, found⟩ := linkable.cells place placed
    rw [Placement.cell?_shift _ (relocatable.relative _ (line_mem placed)), found]
    exact ⟨_, rfl⟩

/-- Words are further on. -/
theorem read_imem (relocatable : Relocatable lines) (numeral : Numeral) (address : UInt8) :
    (programOf (Content.moving numeral :: lines)).imem.read
        (address + UInt8.ofNat numeral.value) =
      (programOf lines).imem.read address := by
  have writes : (placements 0 (Content.moving numeral :: lines)).filterMap
        (·.cell (symbolsOf (Content.moving numeral :: lines))) =
      ((placements 0 lines).filterMap (·.cell (symbolsOf lines))).map
        fun write => (write.1 + UInt8.ofNat numeral.value, write.2) := by
    refine relocatable.filterMap_placements_moving rfl fun place placed => ?_
    rw [relocatable.symbolsOf_moving]
    exact Placement.cell_shift _ (relocatable.relative _ (line_mem placed)) numeral.value
  rw [programOf, programOf, Memory.read_writeAll, Memory.read_writeAll, Memory.read_zero,
    Memory.read_zero, writes, latest?_shift]

/-- There is nothing behind the words. -/
lemma read_imem_of_le (relocatable : Relocatable lines) (linkable : Linkable lines)
    {address : UInt8} (behind : lines.countP Content.hasWord ≤ address.toNat) :
    (programOf lines).imem.read address = 0 := by
  have none' : lastWord? lines address.toNat = none := by
    rw [lastWord?, List.getLast?_eq_none_iff, List.filter_eq_nil_iff]
    intro place placed here
    rw [Bool.and_eq_true, beq_iff_eq] at here
    have inside := cursor_lt_of_hasWord relocatable.unplaced placed here.1
    omega
  have content := linkable.words address
  rw [none'] at content
  exact content

/-- **The program is the same one, further on.** -/
theorem moved (relocatable : Relocatable lines) (linkable : Linkable lines)
    (room : numeral.value + lines.countP Content.hasWord ≤ 256) (small : numeral.value ≤ 255)
    (labels : ∀ name address, (symbolsOf lines).find? name = some address →
      numeral.value + address.toNat ≤ 255) :
    Program.Moved numeral.value (lines.countP Content.hasWord) (programOf lines)
      (programOf (Content.moving numeral :: lines)) := by
  have size : (UInt8.ofNat numeral.value).toNat = numeral.value :=
    UInt8.toNat_ofNat_of_lt' (Nat.lt_succ_of_le small)
  have symbols : (programOf (Content.moving numeral :: lines)).symbols =
      (symbolsOf lines).shift (UInt8.ofNat numeral.value) := relocatable.symbolsOf_moving numeral
  refine ⟨fun address => ?_, ?_, fun name => ?_, rfl⟩
  · have bound := address.toNat_lt
    have source := relocatable.read_imem numeral (address - UInt8.ofNat numeral.value)
    rw [UInt8.sub_add_cancel] at source
    rw [source]
    split
    · next inside =>
      congr 1
      have front : address.toNat - numeral.value < 256 := by omega
      rw [← UInt8.toNat_inj, UInt8.toNat_sub, size, UInt8.toNat_ofNat_of_lt' front]
      omega
    · next outside =>
      -- in front of the words, the old address is one from the end of the memory
      refine relocatable.read_imem_of_le linkable ?_
      rw [UInt8.toNat_sub, size]
      omega
  · rw [symbols, Symbols.names_shift]
    rfl
  · rw [symbols, Symbols.find?_shift, Option.map_map]
    refine Option.map_congr fun address found => ?_
    have inside := labels name address found
    show (address + UInt8.ofNat numeral.value).toNat = _
    rw [UInt8.toNat_add, size]
    omega

end Relocatable

/-! ## Decimal numbers -/

/-- The decimal numeral of a number. -/
def Numeral.decimal (n : Nat) : Numeral :=
  ⟨[], Nat.toDigits 10 n⟩

/-- A decimal numeral has decimal digits. -/
lemma Numeral.isDigit_of_mem_decimal {n : Nat} {c : Char} (inside : c ∈ (decimal n).digits) :
    c.isDigit = true :=
  Nat.isDigit_of_mem_toDigits (by decide) (by decide) inside

/-- A decimal numeral stands for its number. -/
lemma Numeral.value_decimal (n : Nat) : (decimal n).value = n := by
  calc (decimal n).value
      = (decimal n).digits.foldl (fun value digit => 10 * value + digitValue digit) 0 := rfl
    _ = Nat.ofDigitChars 10 (decimal n).digits 0 := by
      refine List.foldl_ext _ _ 0 fun value digit inside => ?_
      rw [digitValue, if_pos (isDigit_of_mem_decimal inside)]
    _ = n := Nat.ofDigitChars_toDigits (by decide) (by decide)

/-- A decimal numeral is spelled as one. -/
lemma Numeral.spelled_decimal (n : Nat) : (decimal n).Spelled :=
  .decimal Nat.toDigits_ne_nil fun _ => isDigit_of_mem_decimal

/-- A decimal numeral is read as it is written. -/
lemma numeral?_decimal (n : Nat) :
    numeral? (Numeral.decimal n).digits = some (.decimal n, []) :=
  (Numeral.spelled_decimal n).numeral?_chars

/-- Nothing is skipped in front of a decimal numeral. -/
lemma skip_decimal (n : Nat) : skip (Numeral.decimal n).digits = (Numeral.decimal n).digits := by
  obtain ⟨digit, others, digits⟩ := List.exists_cons_of_ne_nil (@Nat.toDigits_ne_nil n 10)
  have isDigit : digit.isDigit = true := by
    refine @Numeral.isDigit_of_mem_decimal n digit ?_
    rw [Numeral.decimal, digits]
    exact List.mem_cons_self
  rw [Numeral.decimal, digits]
  exact skip_cons_of_kind Char.isDigit isDigit (by decide) others

/-! ## Texts -/

/-- The line `.pos` with a decimal number. -/
lemma toList_pos (n : Nat) :
    (".pos " ++ toString n).toList = ".pos ".toList ++ (Numeral.decimal n).digits := by
  rw [String.toList_append, Nat.toString_eq_repr, Nat.toList_repr]
  rfl

/-- There is no line break in it. -/
lemma isBreak_of_mem_pos (n : Nat) :
    ∀ c ∈ (".pos " ++ toString n).toList, Grammar.isBreak c = false := by
  rw [toList_pos]
  intro c inside
  rcases List.mem_append.mp inside with front | digit
  · exact isBreak_of_any (by decide) c front
  · have isDigit := Numeral.isDigit_of_mem_decimal digit
    rw [Grammar.isBreak, Bool.or_eq_false_iff, decide_eq_false_iff_not, decide_eq_false_iff_not]
    constructor <;> rintro rfl <;> exact absurd isDigit (by decide)

/-- It moves the cursor to the number. -/
lemma exists_parse_pos (n : Nat) :
    ∃ line, Line.parse (".pos " ++ toString n).toList = .ok line ∧
      line.content = .moving (.decimal n) := by
  have settled : skip (".pos ".toList ++ (Numeral.decimal n).digits) =
      ".pos ".toList ++ (Numeral.decimal n).digits := skip_cons_of_plain (by decide) _
  have behind : skip (' ' :: (Numeral.decimal n).digits) = (Numeral.decimal n).digits :=
    skip_decimal n
  have argued (size : Nat) : Line.argument size (' ' :: (Numeral.decimal n).digits) =
      .ok (⟨size - (Numeral.decimal n).digits.length, .decimal n⟩, []) := by
    simp only [Line.argument, behind, numeral?_decimal]
  have found (size : Nat) : Line.statement? size (".pos ".toList ++ (Numeral.decimal n).digits) =
      .ok (some (.position ⟨size - (Numeral.decimal n).digits.length, .decimal n⟩), []) :=
    bind_eq_ok_iff.mpr ⟨_, argued size, rfl⟩
  rw [toList_pos, Line.exists_parse_iff, settled]
  exact ⟨_, [], found _, rfl, rfl⟩

/-- A line in front of a text is read in front of its lines. -/
lemma exists_parseSource_cons {heading chars : List Char} {line : Line}
    {numbered : List NumberedLine} (free : ∀ c ∈ heading, Grammar.isBreak c = false)
    (parsed : Line.parse heading = .ok line) (read : parseSource chars = .ok numbered) :
    ∃ numbered', parseSource (heading ++ '\n' :: chars) = .ok numbered' ∧
      numbered'.map (·.line.content) = line.content :: numbered.map (·.line.content) := by
  have split : textLines (heading ++ '\n' :: chars) = heading :: textLines chars :=
    @textLines_break heading chars .lf free nofun
  have same := (exists_parseSource_iff chars _).mp ⟨numbered, read, rfl⟩
  obtain ⟨numbered', read', lines⟩ :=
    (exists_parseSource_iff (heading ++ '\n' :: chars) (line :: numbered.map (·.line))).mpr
      (by rw [split, List.map_cons, List.map_cons, same, parsed])
  refine ⟨numbered', read', ?_⟩
  have contents := congrArg (List.map Line.content) lines
  rwa [List.map_map, List.map_cons, List.map_map] at contents

/-- A text is assembled behind any line that moves the cursor and says nothing else. -/
lemma exists_assemble_moved {text : String} {assembly : Assembly} {lines : List Content}
    {heading : List Char} {line : Line} {numeral : Numeral}
    (fitting : Grammar.parse text.toList = some lines) (assembled : assemble text = .ok assembly)
    (relocatable : Relocatable lines) (small : numeral.value ≤ 255)
    (room : numeral.value + lines.countP Content.hasWord ≤ 256)
    (labels : ∀ name address, assembly.program.symbols.find? name = some address →
      numeral.value + address.toNat ≤ 255)
    (free : ∀ c ∈ heading, Grammar.isBreak c = false) (parsed : Line.parse heading = .ok line)
    (content : line.content = .moving numeral) :
    ∃ relocated, assemble (String.ofList (heading ++ '\n' :: text.toList)) = .ok relocated ∧
      assembly.program.Moved numeral.value (lines.countP Content.hasWord) relocated.program := by
  obtain ⟨numbered, read, linkable, rfl⟩ := assemble_eq_ok_iff.mp assembled
  have contents : numbered.map (·.line.content) = lines := by
    rw [Grammar.parse_eq, read] at fitting
    exact Option.some.inj fitting
  subst contents
  obtain ⟨numbered', read', said⟩ := exists_parseSource_cons free parsed read
  rw [content] at said
  have moved := relocatable.moved linkable room small labels
  have linkable' := relocatable.linkable linkable room small labels
  rw [← said] at moved linkable'
  exact ⟨_, assemble_eq_ok_iff.mpr ⟨numbered', by rw [String.toList_ofList, read'], linkable', rfl⟩,
    moved⟩

/-- **A text behind `.pos`.** Let a text be assembled that has no `.pos`, and in which labels are
operands of LDAP, BR, BRZ and BRN only. If there are addresses left for all its words and labels
from `distance` on, the text with the line `.pos` and that number in front of it is assembled too.

* Its instruction memory holds the same words, further on by the distance, and zeros elsewhere.
* Its names are the same ones in the same order, and each of them stands for an address further on.
* Its data memory is the same.

**Proof sketch.** All lines of the text move as a whole (`placements_add`). The operand that a label
gives is a distance, which stays the same, and so each word does (`Placement.cell?_shift`). Without
`.pos` the words are next to each other, so that nothing else is written
(`Relocatable.read_imem_of_le`). -/
theorem assemble_behind_pos {text : String} {assembly : Assembly} {lines : List Content}
    {distance : Nat} (fitting : Grammar.parse text.toList = some lines)
    (assembled : assemble text = .ok assembly) (relocatable : Relocatable lines)
    (small : distance ≤ 255) (room : distance + lines.countP Content.hasWord ≤ 256)
    (labels : ∀ name address, assembly.program.symbols.find? name = some address →
      distance + address.toNat ≤ 255) :
    ∃ relocated, assemble (".pos " ++ toString distance ++ "\n" ++ text) = .ok relocated ∧
      assembly.program.Moved distance (lines.countP Content.hasWord) relocated.program := by
  obtain ⟨line, parsed, content⟩ := exists_parse_pos distance
  have value := Numeral.value_decimal distance
  rw [← value] at small room labels
  have moved := exists_assemble_moved fitting assembled relocatable small room labels
    (isBreak_of_mem_pos distance) parsed content
  have whole : String.ofList ((".pos " ++ toString distance).toList ++ '\n' :: text.toList) =
      ".pos " ++ toString distance ++ "\n" ++ text := by
    rw [← String.toList_inj, String.toList_ofList, @String.toList_append _ text,
      @String.toList_append _ "\n", List.append_assoc]
    rfl
  rwa [whole, value] at moved

/-- A text of three words is moved to the last three addresses, with a label at the last one of
them that is used in front of its definition and at it. -/
theorem assemble_behind_pos_last_addresses :
    ∃ assembly relocated,
      assemble "start: br end\n.byte 7\n.data 3, 4\nend: brz end" = .ok assembly ∧
        assemble (".pos " ++ toString 253 ++ "\n" ++
          "start: br end\n.byte 7\n.data 3, 4\nend: brz end") = .ok relocated ∧
        relocated.program.imem.read 253 = 0x92 ∧ relocated.program.imem.read 252 = 0 ∧
        (relocated.program.symbols.find? "end").map UInt8.toNat = some 255 ∧
        relocated.program.dmem.read 3 = 4 := by
  have fitting : Grammar.parse "start: br end\n.byte 7\n.data 3, 4\nend: brz end".toList = some
      [⟨some "start", some (.inst "br" (some (.name "end")))⟩,
        ⟨none, some (.byte ⟨[], ['7']⟩)⟩, ⟨none, some (.data ⟨[], ['3']⟩ ⟨[], ['4']⟩)⟩,
        ⟨some "end", some (.inst "brz" (some (.name "end")))⟩] := by
    rw [Grammar.parse_eq]
    decide +kernel
  have result : (assemble "start: br end\n.byte 7\n.data 3, 4\nend: brz end").toOption.map
      (fun assembly => (assembly.program.imem.read 0, assembly.program.symbols.entries,
        assembly.program.dmem.read 3)) = some (0x92, [("start", 0), ("end", 2)], 4) := by
    decide +kernel
  have relocatable : Relocatable
      [⟨some "start", some (.inst "br" (some (.name "end")))⟩,
        ⟨none, some (.byte ⟨[], ['7']⟩)⟩, ⟨none, some (.data ⟨[], ['3']⟩ ⟨[], ['4']⟩)⟩,
        ⟨some "end", some (.inst "brz" (some (.name "end")))⟩] := by
    refine ⟨by decide, ?_⟩
    simp only [List.forall_mem_cons, Content.IsRelative, Opcode.isNamed_iff]
    refine ⟨?_, nofun, nofun, ?_, nofun⟩
    all_goals
      rintro _ _ op ⟨⟩ named
      cases named
      decide
  rcases assembled : assemble "start: br end\n.byte 7\n.data 3, 4\nend: brz end" with
    error | assembly
  · rw [assembled] at result
    cases result
  · rw [assembled] at result
    obtain ⟨word, names⟩ := Prod.mk.inj (Option.some.inj result)
    obtain ⟨entries, byte⟩ := Prod.mk.inj names
    have labels : ∀ name address, assembly.program.symbols.find? name = some address →
        253 + address.toNat ≤ 255 := by
      intro name address found
      rw [Symbols.find?, entries, List.lookup_cons, List.lookup_cons] at found
      split at found
      · cases found
        decide
      · split at found
        · cases found
          decide
        · cases found
    obtain ⟨relocated, assembled', moved⟩ :=
      assemble_behind_pos fitting assembled relocatable (by decide) (by decide) labels
    refine ⟨assembly, relocated, rfl, assembled', ?_, ?_, ?_, ?_⟩
    · rw [moved.imem]
      exact word
    · rw [moved.imem]
      rfl
    · rw [moved.symbols, Symbols.find?, entries]
      rfl
    · rw [moved.dmem]
      exact byte

end Asm

end Hex8
