import Hex8.Isa.Inst
import Hex8.Proofs.Grammar

set_option relaxedAutoImplicit false
set_option autoImplicit false

/-!
# Where lines go

What a line of text stands for depends on where it goes. The cursor says that. It starts at zero,
each instruction and each `.byte` moves it on by one, and `.pos` moves it anywhere. Here it is a
number of any size, and lines are what they say and nothing else: no line is right or wrong yet.

## Main definitions

* `Hex8.Asm.Content.position?`, `Hex8.Asm.Content.hasWord`, `Hex8.Asm.Content.advance` — how a line
  moves the cursor.
* `Hex8.Asm.Placement`, `Hex8.Asm.placements` — lines with the cursor in front of them.
* `Hex8.Asm.origin`, `Hex8.Asm.wordsBehind` — where the closest `.pos` points to, and how many words
  there are behind it.
* `Hex8.Asm.Defines` — the labels of a text.
* `Hex8.Opcode.IsNamed`, `Hex8.Opcode.labelOperand` — mnemonics, and what a label is as an operand.

## Main results

* `Hex8.Asm.cursor_eq` — the cursor is the argument of the closest `.pos` plus the number of words
  behind it.
* `Hex8.Opcode.isNamed_iff` — reading a mnemonic finds the operation with that name.
-/

namespace Hex8.Opcode

/-- Whether this is the mnemonic of an operation, in any mixture of upper and lower case. -/
def IsNamed (op : Opcode) (mnemonic : String) : Prop :=
  mnemonic.toList.map Char.toUpper = op.name.toList

/-- Reading a mnemonic finds the operation with that name. -/
theorem isNamed_iff (op : Opcode) (mnemonic : String) :
    op.IsNamed mnemonic ↔ ofName? mnemonic = some op := by
  constructor
  · intro named
    rw [ofName?, named]
    cases op <;> rfl
  · intro found
    have same := List.find?_some found
    exact (beq_iff_eq.mp same).symm

/-- The operations whose operand counts from the instruction's own address. -/
lemma isPcRelative_iff (op : Opcode) : op.isPcRelative = true ↔ op ∈ [ldap, br, brz, brn] := by
  cases op <;> decide

/-- What a label is as the operand of an instruction: its distance from the instruction if the
operand counts from there, and its own address otherwise. -/
def labelOperand (op : Opcode) (address target : Nat) : Int :=
  if op ∈ [ldap, br, brz, brn] then ((target : Int) - address) % 256 else target

end Hex8.Opcode

namespace Hex8.Asm

/-! ## The cursor -/

namespace Content

/-- Where `.pos` moves the cursor. -/
def position? (line : Content) : Option Nat :=
  match line.command with
  | some (.position address) => some address.value
  | _ => none

/-- Whether a line has a word for the instruction memory. -/
def hasWord (line : Content) : Bool :=
  match line.command with
  | some (.byte _) | some (.inst _ _) => true
  | _ => false

/-- Only `.byte` and instructions have a word. -/
lemma hasWord_iff {line : Content} :
    line.hasWord = true ↔
      (∃ value, line.command = some (.byte value)) ∨
        ∃ mnemonic operand, line.command = some (.inst mnemonic operand) := by
  rw [hasWord]
  rcases line.command with _ | address | value | ⟨address, value⟩ | ⟨mnemonic, operand⟩ <;> simp

/-- A line with a word does not move the cursor elsewhere. -/
lemma position?_of_hasWord {line : Content} (h : line.hasWord = true) : line.position? = none := by
  rcases hasWord_iff.mp h with ⟨value, command⟩ | ⟨mnemonic, operand, command⟩ <;>
    rw [position?, command]

/-- The cursor behind a line. -/
def advance (cursor : Nat) (line : Content) : Nat :=
  line.position?.getD (if line.hasWord then cursor + 1 else cursor)

/-- A line without `.pos` moves the cursor by the number of its words. -/
lemma advance_of_none {cursor : Nat} {line : Content} (h : line.position? = none) :
    line.advance cursor = cursor + if line.hasWord then 1 else 0 := by
  rw [advance, h, Option.getD_none]
  split <;> rfl

end Content

/-- A line, with the cursor in front of it. -/
structure Placement where
  /-- The cursor. -/
  cursor : Nat
  /-- The line. -/
  line : Content
  deriving DecidableEq

/-- What a label on the line stands for: where `.pos` on the same line points to, and the cursor
without one. -/
def Placement.address (place : Placement) : Nat :=
  place.line.position?.getD place.cursor

/-- Lines with the cursor in front of each of them. -/
def placements (cursor : Nat) : List Content → List Placement
  | [] => []
  | line :: others => ⟨cursor, line⟩ :: placements (line.advance cursor) others

/-- The lines are the same with the cursor in front of them. -/
@[simp] theorem map_line_placements (cursor : Nat) (lines : List Content) :
    (placements cursor lines).map Placement.line = lines := by
  induction lines generalizing cursor with
  | nil => rfl
  | cons line others ih => rw [placements, List.map_cons, ih]

/-- What is read off the lines alone does not need their places. -/
lemma filterMap_line_placements {α : Type} (cursor : Nat) (f : Content → Option α)
    (lines : List Content) :
    (placements cursor lines).filterMap (f ·.line) = lines.filterMap f := by
  have mapped := List.filterMap_map (f := Placement.line) (g := f) (l := placements cursor lines)
  rw [map_line_placements] at mapped
  exact mapped.symm

/-- Every line has a place. -/
lemma exists_placement {cursor : Nat} {lines : List Content} {line : Content}
    (inside : line ∈ lines) :
    ∃ place ∈ placements cursor lines, place.line = line := by
  rw [← map_line_placements cursor lines] at inside
  exact List.mem_map.mp inside

/-- The line of a place is one of the lines. -/
lemma line_mem {cursor : Nat} {lines : List Content} {place : Placement}
    (inside : place ∈ placements cursor lines) : place.line ∈ lines := by
  rw [← map_line_placements cursor lines]
  exact List.mem_map_of_mem inside

/-- Each line finds the cursor where the lines in front of it have left it. -/
theorem getElem?_placements (cursor : Nat) (lines : List Content) (i : Nat) :
    (placements cursor lines)[i]? =
      lines[i]?.map fun line => ⟨(lines.take i).foldl Content.advance cursor, line⟩ := by
  induction lines generalizing cursor i with
  | nil => rfl
  | cons line others ih =>
    cases i with
    | zero => rfl
    | succ i => exact ih (line.advance cursor) i

/-! ## The cursor as a number of words -/

/-- Where the closest `.pos` points to, or zero. -/
def origin (lines : List Content) : Nat :=
  (lines.filterMap Content.position?).getLast?.getD 0

/-- How many words there are behind the closest `.pos`. -/
def wordsBehind (lines : List Content) : Nat :=
  (lines.reverse.takeWhile fun line => line.position?.isNone).countP Content.hasWord

/-- The last line decides if it has a `.pos`. -/
lemma origin_concat (front : List Content) (line : Content) :
    origin (front ++ [line]) = line.position?.getD (origin front) := by
  rw [origin, List.filterMap_append]
  rcases position : line.position? with _ | target
  · rw [List.filterMap_cons_none position, List.filterMap_nil, List.append_nil]
    rfl
  · rw [List.filterMap_cons_some position, List.filterMap_nil, List.getLast?_append]
    rfl

/-- The last line begins the count anew if it has a `.pos`. -/
lemma wordsBehind_concat (front : List Content) (line : Content) :
    wordsBehind (front ++ [line]) =
      if line.position?.isNone then wordsBehind front + if line.hasWord then 1 else 0 else 0 := by
  rw [wordsBehind, List.reverse_append, List.reverse_singleton, List.singleton_append,
    List.takeWhile_cons]
  by_cases none' : line.position?.isNone = true
  · rw [if_pos none', if_pos none', List.countP_cons]
    rfl
  · rw [if_neg none', if_neg none']
    rfl

/-- **The cursor counts words.** It is the argument of the closest `.pos` plus the number of words
behind that.

**Proof sketch.** Induction from the last line to the first. A last line with `.pos` decides alone;
without one, it adds its word to both sides. -/
theorem cursor_eq (lines : List Content) :
    lines.foldl Content.advance 0 = origin lines + wordsBehind lines := by
  induction lines using List.reverseRecOn with
  | nil => rfl
  | append_singleton front line ih =>
    rw [List.foldl_append, List.foldl_cons, List.foldl_nil, ih, origin_concat, wordsBehind_concat]
    rcases position : line.position? with _ | target
    · rw [Content.advance_of_none position, Option.getD_none, Nat.add_assoc]
      rfl
    · rw [Content.advance, position]
      rfl

/-! ## Labels -/

/-- Whether a text has a label of this name that stands for this address. -/
def Defines (lines : List Content) (name : String) (target : Nat) : Prop :=
  ∃ place ∈ placements 0 lines, place.line.label = some name ∧ place.address = target

end Hex8.Asm
