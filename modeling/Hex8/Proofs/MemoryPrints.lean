import Hex8.Memory.Dump
import Hex8.Proofs.ListingRoundTrip
import Mathlib.Data.List.Infix
import Mathlib.Data.Nat.Find

set_option relaxedAutoImplicit false
set_option autoImplicit false

/-!
# Reading printed memories

What is printed of a memory, or of two memories that differ, is read back here from its characters
alone. Nothing is lost: the rows that are printed are enough to get the memory, or to turn one
memory into the other.

## Main definitions

* `Hex8.Prints` — whether a text prints some rows, one in each line.
* `Hex8.Memory.Cell`, `Hex8.Memory.PrintedRow`, `Hex8.Memory.PrintedChange` — bytes in print, rows of
  them, and rows before and after a change.
* `Hex8.Memory.readCells`, `Hex8.Memory.PrintedRow.read?`, `Hex8.Memory.PrintedChange.read?` — what
  is read from a line.
* `Hex8.Memory.changes` — the rows in which two memories differ.
* `Hex8.Memory.PrintedRow.writes`, `Hex8.Memory.PrintedChange.writes` — how a memory is overwritten
  with what is printed.
* `Hex8.Memory.RowsToLast` — how many rows there are up to the last byte that is not zero.

## Main results

* `Hex8.Prints.unique` — a text does not print different rows.
* `Hex8.Memory.readCells_append` — bytes are read as they are written.
* `Hex8.Memory.writeAll_changes`, `Hex8.Memory.RowsToLast.writeAll_rows` — what is printed is enough.
* `Hex8.Memory.prints_lose_nothing` — nothing is lost in print.

## Design

A line is read without knowing how many bytes it has. Whether a byte is highlighted is read off the
characters around it. A row is written back byte by byte from the address in front of it, so that a
row cut off at the wrong place would not give the memory back.
-/

namespace Hex8

/-! ## Lines -/

section Lines

variable {α : Type} {read? : List Char → Option α} {rows others : List α} {text : String}

/-- Whether a text prints some rows: it consists of lines with a line feed behind each of them, and
each line is read as its row. -/
def Prints (text : String) (read? : List Char → Option α) (rows : List α) : Prop :=
  ∃ lines : List (List Char), text.toList = lines.flatMap (· ++ ['\n']) ∧
    (∀ line ∈ lines, '\n' ∉ line) ∧ lines.map read? = rows.map some

/-- What is in front of the first line feed. -/
lemma takeWhile_line {line : List Char} (free : '\n' ∉ line) (rest : List Char) :
    (line ++ '\n' :: rest).takeWhile (· ≠ '\n') = line := by
  have front (c : Char) (inside : c ∈ line) : decide (c ≠ '\n') = true :=
    decide_eq_true fun lf => free (lf ▸ inside)
  rw [List.takeWhile_append_of_pos front]
  simp

/-- Lines with a line feed behind each of them are known from their text. -/
lemma eq_of_flatMap_eq {lines lines' : List (List Char)} (free : ∀ line ∈ lines, '\n' ∉ line)
    (free' : ∀ line ∈ lines', '\n' ∉ line)
    (same : lines.flatMap (· ++ ['\n']) = lines'.flatMap (· ++ ['\n'])) : lines = lines' := by
  induction lines generalizing lines' with
  | nil =>
    rcases lines' with _ | ⟨line', lines'⟩
    · rfl
    · simp at same
  | cons line lines ih =>
    rcases lines' with _ | ⟨line', lines'⟩
    · simp at same
    · rw [List.forall_mem_cons] at free free'
      simp only [List.flatMap_cons, List.append_assoc, List.singleton_append] at same
      have first := congrArg (List.takeWhile (· ≠ '\n')) same
      rw [takeWhile_line free.1, takeWhile_line free'.1] at first
      obtain rfl := first
      have behind := (List.cons.inj (List.append_cancel_left same)).2
      rw [ih free.2 free'.2 behind]

/-- **A text does not print different rows.** -/
theorem Prints.unique (first : Prints text read? rows) (second : Prints text read? others) :
    rows = others := by
  obtain ⟨lines, parts, free, reads⟩ := first
  obtain ⟨lines', parts', free', reads'⟩ := second
  obtain rfl := eq_of_flatMap_eq free free' (parts.symm.trans parts')
  exact List.map_injective_iff.mpr (fun _ _ => Option.some.inj) (reads.symm.trans reads')

/-- Rows are printed if each of them is, in a line of its own. -/
lemma prints_flatMap (line : α → List Char) (parts : text.toList = rows.flatMap (line · ++ ['\n']))
    (free : ∀ row, '\n' ∉ line row) (reads : ∀ row, read? (line row) = some row) :
    Prints text read? rows := by
  refine ⟨rows.map line, by rw [parts, List.flatMap_map], ?_, ?_⟩
  · exact List.forall_mem_map.mpr fun row _ => free row
  · rw [List.map_map]
    exact List.map_congr_left fun row _ => reads row

end Lines

namespace Memory

/-! ## Bytes -/

/-- A byte in print, which may be highlighted. -/
structure Cell where
  /-- The byte. -/
  value : UInt8
  /-- Whether it is highlighted. -/
  marked : Bool
  deriving DecidableEq

/-- The characters of a byte in print. -/
def Cell.chars (cell : Cell) : List Char :=
  if cell.marked then (Style.yellow.paint (Hex.byte cell.value)).toList
  else (Hex.byte cell.value).toList

/-- The bytes that are printed at the front of some characters, and what is left. -/
def readCells : List Char → List Cell × List Char
  | '\x1b' :: '[' :: '3' :: '3' :: 'm' :: high :: low :: '\x1b' :: '[' :: '0' :: 'm' :: rest =>
    match Asm.byteOfDigits? high low with
    | some value => (⟨value, true⟩ :: (readCells rest).1, (readCells rest).2)
    | none => ([], '\x1b' :: '[' :: '3' :: '3' :: 'm' :: high :: low :: '\x1b' :: '[' :: '0' ::
        'm' :: rest)
  | high :: low :: rest =>
    match Asm.byteOfDigits? high low with
    | some value => (⟨value, false⟩ :: (readCells rest).1, (readCells rest).2)
    | none => ([], high :: low :: rest)
  | rest => ([], rest)

/-- The digits of a byte. -/
lemma toList_byte (b : UInt8) :
    (Hex.byte b).toList = [Nat.digitChar (b.toNat / 16), Nat.digitChar (b.toNat % 16)] := by
  rw [Hex.byte, String.toList_ofList]

/-- No digit of a byte begins or ends a highlighted one, and none ends a line. -/
lemma not_mem_byte (b : UInt8) : '\x1b' ∉ (Hex.byte b).toList ∧ '\n' ∉ (Hex.byte b).toList := by
  rw [toList_byte]
  refine forall_byte (P := fun b =>
    '\x1b' ∉ [Nat.digitChar (b.toNat / 16), Nat.digitChar (b.toNat % 16)] ∧
      '\n' ∉ [Nat.digitChar (b.toNat / 16), Nat.digitChar (b.toNat % 16)]) ?_ b
  decide +kernel

/-- A byte is read as it is written. -/
lemma readCells_cell (cell : Cell) (rest : List Char) :
    readCells (cell.chars ++ rest) = (cell :: (readCells rest).1, (readCells rest).2) := by
  obtain ⟨value, _ | _⟩ := cell
  · have plain := (not_mem_byte value).1
    simp only [Cell.chars, toList_byte] at plain ⊢
    simp only [Bool.false_eq_true, if_false, List.cons_append, List.nil_append]
    rw [readCells, Asm.byteOfDigits?_byte]
    -- a digit does not begin a highlighted byte
    intro _ _ _ escape
    exact absurd (escape ▸ List.mem_cons_self) plain
  · simp only [Cell.chars, Style.paint, String.toList_append, toList_byte]
    change readCells ('\x1b' :: '[' :: '3' :: '3' :: 'm' :: _ :: _ :: '\x1b' :: '[' :: '0' :: 'm' ::
      rest) = _
    rw [readCells, Asm.byteOfDigits?_byte]

/-- **Bytes are read as they are written**, up to something that is no byte. -/
theorem readCells_append (cells : List Cell) {rest : List Char} (stop : readCells rest = ([], rest)) :
    readCells (cells.flatMap Cell.chars ++ rest) = (cells, rest) := by
  induction cells with
  | nil => exact stop
  | cons cell cells ih =>
    rw [List.flatMap_cons, List.append_assoc, readCells_cell, ih]

example : readCells "0a\x1b[33m0b\x1b[0m -> ".toList =
    ([⟨0x0a, false⟩, ⟨0x0b, true⟩], " -> ".toList) := by
  decide +kernel

/-- Bytes are read as they are written up to the end of the line. -/
lemma readCells_flatMap (cells : List Cell) : readCells (cells.flatMap Cell.chars) = (cells, []) := by
  have read : readCells (cells.flatMap Cell.chars ++ []) = (cells, []) := readCells_append cells rfl
  rwa [List.append_nil] at read

/-- No byte in print ends a line. -/
lemma Cell.not_mem_chars (cell : Cell) : '\n' ∉ cell.chars := by
  have digits := (not_mem_byte cell.value).2
  rw [chars]
  split
  · simp only [Style.paint, String.toList_append, List.mem_append, not_or]
    exact ⟨⟨⟨⟨by decide, by decide⟩, by decide⟩, digits⟩, by decide⟩
  · exact digits

/-! ## Rows -/

/-- A row in print. -/
structure PrintedRow where
  /-- The address in front of the row. -/
  address : UInt8
  /-- The bytes of the row. -/
  cells : List Cell
  deriving DecidableEq

/-- A row in print before and after a change. -/
structure PrintedChange where
  /-- The address in front of the row. -/
  address : UInt8
  /-- The bytes before the change. -/
  before : List Cell
  /-- The bytes after it. -/
  after : List Cell
  deriving DecidableEq

/-- The address in front of a row, and what is behind it. -/
def readLabel? : List Char → Option (UInt8 × List Char)
  | '0' :: 'x' :: high :: low :: ':' :: ' ' :: rest =>
    (Asm.byteOfDigits? high low).map (·, rest)
  | _ => none

/-- The row in a line, as in `0x20: 0a0b`. -/
def PrintedRow.read? (line : List Char) : Option PrintedRow :=
  match readLabel? line with
  | none => none
  | some (address, rest) =>
    match readCells rest with
    | (cells, []) => some { address, cells }
    | _ => none

/-- The row before and after a change in a line, as in `0x20: 0a0b -> 0a0c`. -/
def PrintedChange.read? (line : List Char) : Option PrintedChange :=
  match readLabel? line with
  | none => none
  | some (address, rest) =>
    match readCells rest with
    | (before, ' ' :: '-' :: '>' :: ' ' :: rest) =>
      match readCells rest with
      | (after, []) => some { address, before, after }
      | _ => none
    | _ => none

/-- The writes that put the bytes of a row into a memory. -/
def PrintedRow.writes (row : PrintedRow) : List (UInt8 × UInt8) :=
  ((List.range row.cells.length).map fun i => row.address + UInt8.ofNat i).zip
    (row.cells.map Cell.value)

/-- The writes that put the bytes after a change into a memory. -/
def PrintedChange.writes (change : PrintedChange) : List (UInt8 × UInt8) :=
  PrintedRow.writes ⟨change.address, change.after⟩

/-- An address with what is behind it. -/
def labelled (address : UInt8) (rest : List Char) : List Char :=
  '0' :: 'x' :: (Hex.byte address).toList ++ ':' :: ' ' :: rest

/-- The line of a row. -/
def PrintedRow.line (row : PrintedRow) : List Char :=
  labelled row.address (row.cells.flatMap Cell.chars)

/-- The line of a row before and after a change. -/
def PrintedChange.line (change : PrintedChange) : List Char :=
  labelled change.address (change.before.flatMap Cell.chars ++
    ' ' :: '-' :: '>' :: ' ' :: change.after.flatMap Cell.chars)

/-- An address is read as it is written. -/
lemma readLabel?_labelled (address : UInt8) (rest : List Char) :
    readLabel? (labelled address rest) = some (address, rest) := by
  rw [labelled, toList_byte]
  change (Asm.byteOfDigits? _ _).map (·, rest) = _
  rw [Asm.byteOfDigits?_byte]
  rfl

/-- An address does not end a line. -/
lemma not_mem_labelled {address : UInt8} {rest : List Char} (free : '\n' ∉ rest) :
    '\n' ∉ labelled address rest := by
  have digits := (not_mem_byte address).2
  simp [labelled, digits, free]

/-- Bytes do not end a line. -/
lemma not_mem_flatMap (cells : List Cell) : '\n' ∉ cells.flatMap Cell.chars := by
  rw [List.mem_flatMap]
  rintro ⟨cell, -, inside⟩
  exact cell.not_mem_chars inside

/-- **A row is read as it is written.** -/
theorem PrintedRow.read?_line (row : PrintedRow) : PrintedRow.read? row.line = some row := by
  have cells := readCells_flatMap row.cells
  rw [read?, line, readLabel?_labelled]
  simp only [cells]

/-- The arrow in front of the bytes after a change is no byte. -/
lemma readCells_arrow (rest : List Char) :
    readCells (' ' :: '-' :: '>' :: ' ' :: rest) = ([], ' ' :: '-' :: '>' :: ' ' :: rest) := by
  rw [readCells]
  · rfl
  · simp

/-- **A change is read as it is written.** -/
theorem PrintedChange.read?_line (change : PrintedChange) :
    PrintedChange.read? change.line = some change := by
  have before := readCells_append change.before (readCells_arrow (change.after.flatMap Cell.chars))
  have after := readCells_flatMap change.after
  rw [read?, line, readLabel?_labelled]
  simp only [before, after]

/-! ## What is printed -/

/-- A row of a memory in print. -/
def printedRow (memory : Memory) (row : Nat) : PrintedRow where
  address := UInt8.ofNat (16 * row)
  cells := (memory.row row).map fun value => ⟨value, false⟩

/-- A row of two memories in print. The bytes after the change that differ from those before it are
highlighted. -/
def change (before after : Memory) (row : Nat) : PrintedChange where
  address := UInt8.ofNat (16 * row)
  before := (before.row row).map fun value => ⟨value, false⟩
  after := (rowAddresses row).map fun address =>
    ⟨after.read address, before.read address ≠ after.read address⟩

/-- The rows in which two memories differ, in ascending order. -/
def changes (before after : Memory) : List PrintedChange :=
  ((List.range 16).filter fun row => before.row row ≠ after.row row).map (change before after)

/-- The characters of an address in front of a row. -/
lemma toList_rowLabel (row : Nat) (rest : List Char) :
    (rowLabel row).toList ++ rest = labelled (UInt8.ofNat (16 * row)) rest := by
  simp only [rowLabel, Hex.prefixedByte, String.toList_append]
  rw [labelled]
  simp

/-- The characters of bytes that are not highlighted. -/
lemma toList_bytesText (bytes : List UInt8) :
    (bytesText bytes).toList = (bytes.map fun value => (⟨value, false⟩ : Cell)).flatMap Cell.chars := by
  rw [bytesText, String.toList_join, List.flatMap_map, List.flatMap_map]
  rfl

/-- The characters of a byte that is highlighted if it has changed. -/
lemma toList_changedByteText (before after : UInt8) :
    (changedByteText before after).toList = Cell.chars ⟨after, before ≠ after⟩ := by
  rw [changedByteText, Cell.chars]
  by_cases same : before = after <;> simp [same]

/-- The characters of a row. -/
lemma toList_dumpRow (memory : Memory) (row : Nat) :
    (memory.dumpRow row).toList = (memory.printedRow row).line ++ ['\n'] := by
  simp only [dumpRow, String.toList_append, toList_bytesText]
  rw [toList_rowLabel]
  rfl

/-- The characters of the bytes after a change. -/
lemma toList_changedBytes (before after : Memory) (row : Nat) :
    (String.join (List.zipWith changedByteText (before.row row) (after.row row))).toList =
      (change before after row).after.flatMap Cell.chars := by
  rw [Memory.row, Memory.row, List.zipWith_map, List.zipWith_self, String.toList_join,
    List.flatMap_map, change, List.flatMap_map]
  simp only [toList_changedByteText]

/-- The characters of a row before and after a change. -/
lemma toList_differenceRow {before after : Memory} {row : Nat}
    (differs : before.row row ≠ after.row row) :
    (differenceRow before after row).toList = (change before after row).line ++ ['\n'] := by
  rw [differenceRow, if_neg differs]
  simp only [String.toList_append, toList_bytesText, toList_changedBytes, List.append_assoc]
  rw [toList_rowLabel, PrintedChange.line]
  simp [labelled, change]

/-- The characters of the rows in which two memories differ. -/
lemma toList_difference (before after : Memory) :
    (difference before after).toList =
      (changes before after).flatMap (·.line ++ ['\n']) := by
  rw [difference, changes, String.toList_join, List.flatMap_map, List.flatMap_map]
  induction List.range 16 with
  | nil => rfl
  | cons row rows ih =>
    rw [List.flatMap_cons, ih, List.filter_cons]
    by_cases same : before.row row = after.row row
    · simp [same, differenceRow]
    · simp [same, toList_differenceRow]

/-- **The rows in which two memories differ are printed, and no others.** -/
theorem prints_changes (before after : Memory) :
    Prints (difference before after) PrintedChange.read? (changes before after) :=
  prints_flatMap PrintedChange.line (toList_difference before after)
    (fun _ => not_mem_labelled <| by simp [Cell.not_mem_chars]) PrintedChange.read?_line

/-- Rows of a memory are printed, one below the other. -/
lemma prints_rows (memory : Memory) (rows : List Nat) :
    Prints (String.join (rows.map memory.dumpRow)) PrintedRow.read? (rows.map memory.printedRow) := by
  refine prints_flatMap PrintedRow.line ?_
    (fun row => not_mem_labelled (not_mem_flatMap row.cells)) PrintedRow.read?_line
  rw [String.toList_join, List.flatMap_map, List.flatMap_map]
  simp only [toList_dumpRow]

/-! ## Overwriting -/

/-- After the bytes of a memory have been written to some addresses, they are read there. -/
lemma read_writeAll_map (memory target : Memory) (addresses : List UInt8) (address : UInt8) :
    (memory.writeAll (addresses.map fun a => (a, target.read a))).read address =
      if address ∈ addresses then target.read address else memory.read address := by
  induction addresses generalizing memory with
  | nil => rfl
  | cons first rest ih =>
    have step := ih (memory.write first (target.read first))
    rw [List.map_cons]
    refine step.trans ?_
    by_cases later : address ∈ rest
    · rw [if_pos later, if_pos (List.mem_cons_of_mem first later)]
    · rw [if_neg later, read_write]
      by_cases same : address = first <;> simp [same, later]

/-- A memory becomes another one if all the rows are written in which it differs. -/
lemma writeAll_rows_eq {memory target : Memory} {rows : List Nat}
    (outside : ∀ address, address.toNat / 16 ∉ rows → memory.read address = target.read address) :
    memory.writeAll (rows.flatMap fun row => (rowAddresses row).map fun a => (a, target.read a)) =
      target := by
  refine ext_read fun address => ?_
  rw [← List.map_flatMap, read_writeAll_map]
  split
  case isTrue => rfl
  case isFalse unwritten =>
    exact outside address fun inside =>
      unwritten (List.mem_flatMap.mpr ⟨_, inside, mem_rowAddresses address⟩)

/-- The bytes of a row go to the addresses of the row. -/
lemma PrintedRow.writes_eq {target : Memory} {row : Nat} {cells : List Cell}
    (bytes : cells.map Cell.value = target.row row) :
    PrintedRow.writes ⟨UInt8.ofNat (16 * row), cells⟩ =
      (rowAddresses row).map fun a => (a, target.read a) := by
  have count : cells.length = 16 := by
    rw [← List.length_map Cell.value, bytes, Memory.row, rowAddresses]
    simp
  have addresses : ((List.range 16).map fun i => UInt8.ofNat (16 * row) + UInt8.ofNat i) =
      rowAddresses row := List.map_congr_left fun i _ => (UInt8.ofNat_add (16 * row) i).symm
  rw [writes, count, addresses, bytes, Memory.row, ← List.map_prod_left_eq_zip]

/-- The values of bytes that are not highlighted. -/
lemma map_value_plain (bytes : List UInt8) :
    (bytes.map fun value => (⟨value, false⟩ : Cell)).map Cell.value = bytes := by
  rw [List.map_map]
  exact List.map_id bytes

/-- **The bytes after the changes are enough to get the second memory from the first one.** -/
theorem writeAll_changes (before after : Memory) :
    before.writeAll ((changes before after).flatMap PrintedChange.writes) = after := by
  have writes (row : Nat) : (change before after row).writes =
      (rowAddresses row).map fun a => (a, after.read a) :=
    PrintedRow.writes_eq (List.map_map.trans rfl)
  rw [changes, List.flatMap_map]
  simp only [writes]
  refine writeAll_rows_eq fun address unwritten => ?_
  by_contra differs
  have bound := address.toNat_lt
  refine unwritten (List.mem_filter.mpr ⟨List.mem_range.mpr (by omega), decide_eq_true fun same => ?_⟩)
  exact differs (List.map_inj_left.mp same address (mem_rowAddresses address))

/-- **Nothing is printed of two memories just if they are equal.** -/
theorem difference_eq_empty_iff {before after : Memory} :
    difference before after = "" ↔ before = after := by
  refine ⟨fun nothing => ?_, fun same => same ▸ difference_self before⟩
  have printed := prints_changes before after
  rw [nothing] at printed
  have none : changes before after = [] :=
    printed.unique ⟨[], rfl, by simp, rfl⟩
  have restored := writeAll_changes before after
  rwa [none] at restored

/-! ## Up to the last byte -/

/-- Whether an address is the last one at which there is something else than zero. -/
def IsLast (memory : Memory) (address : UInt8) : Prop :=
  memory.read address ≠ 0 ∧ ∀ other, address < other → memory.read other = 0

/-- Whether a number of rows goes up to the one with the last byte that is not zero. -/
def RowsToLast (memory : Memory) (count : Nat) : Prop :=
  (memory = zero ∧ count = 0) ∨ ∃ last, memory.IsLast last ∧ count = last.toNat / 16 + 1

/-- There is a last byte that is not zero if there is any. -/
lemma exists_isLast {memory : Memory} {address : UInt8} (filled : memory.read address ≠ 0) :
    ∃ last, memory.IsLast last := by
  have bound (a : UInt8) : a.toNat ≤ 255 := Nat.le_of_lt_succ a.toNat_lt
  have here : memory.read (UInt8.ofNat address.toNat) ≠ 0 := by rwa [UInt8.ofNat_toNat]
  refine ⟨UInt8.ofNat (Nat.findGreatest (fun n => memory.read (UInt8.ofNat n) ≠ 0) 255),
    Nat.findGreatest_spec (P := fun n => memory.read (UInt8.ofNat n) ≠ 0) (bound address) here,
    fun other behind => ?_⟩
  have last := Nat.findGreatest_le (P := fun n => memory.read (UInt8.ofNat n) ≠ 0) 255
  rw [UInt8.lt_iff_toNat_lt, UInt8.toNat_ofNat_of_lt' (Nat.lt_succ_of_le last)] at behind
  have notFilled := Nat.findGreatest_is_greatest behind (bound other)
  rwa [UInt8.ofNat_toNat, not_not] at notFilled

/-- The last of some numbers that has a property is found from the back. -/
lemma find?_reverse_range {p : Nat → Bool} {n k : Nat} (inside : k < n) (holds : p k = true)
    (above : ∀ i < n, k < i → p i = false) : (List.range n).reverse.find? p = some k := by
  induction n with
  | zero => exact absurd inside (Nat.not_lt_zero k)
  | succ n ih =>
    rw [List.range_succ, List.reverse_append, List.reverse_singleton, List.singleton_append,
      List.find?_cons]
    rcases Nat.lt_succ_iff_lt_or_eq.mp inside with below | rfl
    · rw [above n (Nat.lt_succ_self n) below]
      exact ih below fun i inside => above i (Nat.lt_succ_of_lt inside)
    · rw [holds]

/-- A row is empty if all of its bytes are zero. -/
lemma isEmptyRow_eq_true_iff {memory : Memory} {row : Nat} :
    memory.isEmptyRow row = true ↔ ∀ address ∈ rowAddresses row, memory.read address = 0 := by
  rw [isEmptyRow, Memory.row, List.all_map, List.all_eq_true]
  simp

/-- The last row in which there is something is the one with the last byte that is not zero. -/
lemma IsLast.lastRow?_eq {memory : Memory} {last : UInt8} (isLast : memory.IsLast last) :
    memory.lastRow? = some (last.toNat / 16) := by
  have bound := last.toNat_lt
  refine find?_reverse_range (by omega) ?_ fun row inside behind => ?_
  · rw [Bool.not_eq_true', ← Bool.not_eq_true, isEmptyRow_eq_true_iff]
    exact fun blank => isLast.1 (blank last (mem_rowAddresses last))
  · rw [Bool.not_eq_false', isEmptyRow_eq_true_iff]
    intro address found
    obtain ⟨i, small, rfl⟩ := List.mem_map.mp found
    rw [List.mem_range] at small
    refine isLast.2 _ (UInt8.lt_iff_toNat_lt.mpr ?_)
    rw [UInt8.toNat_ofNat_of_lt' (show 16 * row + i < 256 by omega)]
    omega

/-- In an empty memory there is no last row. -/
lemma lastRow?_zero : zero.lastRow? = none := by
  refine List.find?_eq_none.mpr fun row _ => ?_
  rw [Bool.not_eq_true', Bool.not_eq_false, isEmptyRow_eq_true_iff]
  exact fun address _ => read_zero address

/-- A dump goes up to the row with the last byte that is not zero. -/
lemma exists_dump_eq (memory : Memory) :
    ∃ count, memory.RowsToLast count ∧
      memory.dump = String.join ((List.range count).map memory.dumpRow) := by
  by_cases blank : ∀ address, memory.read address = 0
  · have same : memory = zero := ext_read fun address => by rw [blank, read_zero]
    refine ⟨0, .inl ⟨same, rfl⟩, ?_⟩
    rw [same, dump, lastRow?_zero]
    rfl
  · obtain ⟨address, filled⟩ := not_forall.mp blank
    obtain ⟨last, isLast⟩ := exists_isLast filled
    refine ⟨last.toNat / 16 + 1, .inr ⟨last, isLast, rfl⟩, ?_⟩
    rw [dump, isLast.lastRow?_eq]

/-- **The rows up to the last byte that is not zero are enough to get a memory.** -/
theorem RowsToLast.writeAll_rows {memory : Memory} {count : Nat} (rows : memory.RowsToLast count) :
    zero.writeAll (((List.range count).map memory.printedRow).flatMap PrintedRow.writes) =
      memory := by
  have writes (row : Nat) : (memory.printedRow row).writes =
      (rowAddresses row).map fun a => (a, memory.read a) :=
    PrintedRow.writes_eq (map_value_plain (memory.row row))
  rw [List.flatMap_map]
  simp only [writes]
  refine writeAll_rows_eq fun address unwritten => ?_
  rw [read_zero]
  rcases rows with ⟨rfl, -⟩ | ⟨last, isLast, rfl⟩
  · rw [read_zero]
  · rw [List.mem_range] at unwritten
    exact (isLast.2 address (UInt8.lt_iff_toNat_lt.mpr (by omega))).symm

/-- **Printing loses nothing.** Nothing is printed of two memories just if they are equal. Otherwise
the rows are printed in which they differ, with the bytes highlighted that do, and overwriting the
first memory with them gives the second one. A memory is printed up to the row with its last byte
that is not zero, and writing what is printed into an empty memory gives it back; so different
memories are printed differently. -/
theorem prints_lose_nothing :
    (∀ before after : Memory,
      (difference before after = "" ↔ before = after) ∧
      Prints (difference before after) PrintedChange.read? (changes before after) ∧
      before.writeAll ((changes before after).flatMap PrintedChange.writes) = after) ∧
    (∀ memory : Memory, ∃ count, memory.RowsToLast count ∧
      Prints memory.dump PrintedRow.read? ((List.range count).map memory.printedRow) ∧
      zero.writeAll (((List.range count).map memory.printedRow).flatMap PrintedRow.writes) =
        memory) ∧
    ∀ m n : Memory, m.dump = n.dump → m = n := by
  have restores (memory : Memory) : ∃ count, memory.RowsToLast count ∧
      Prints memory.dump PrintedRow.read? ((List.range count).map memory.printedRow) ∧
      zero.writeAll (((List.range count).map memory.printedRow).flatMap PrintedRow.writes) =
        memory := by
    obtain ⟨count, rows, printed⟩ := exists_dump_eq memory
    exact ⟨count, rows, printed ▸ prints_rows memory (List.range count), rows.writeAll_rows⟩
  refine ⟨fun before after => ⟨difference_eq_empty_iff, prints_changes before after,
    writeAll_changes before after⟩, restores, fun m n same => ?_⟩
  obtain ⟨_, -, printedM, restoredM⟩ := restores m
  obtain ⟨_, -, printedN, restoredN⟩ := restores n
  rw [same] at printedM
  rw [← restoredM, printedM.unique printedN, restoredN]

end Memory

end Hex8
