import Hex8.Asm.Layout
import Hex8.Proofs.Placement

set_option relaxedAutoImplicit false
set_option autoImplicit false

/-!
# Laying out lines

Each line is laid out for itself, at the place where the cursor is in front of it. Whether that
succeeds depends on the label and on the statement separately, and what comes out of it does not
depend on the order of the checks.

## Main definitions

* `Hex8.Asm.Placement.LabelFits`, `Hex8.Asm.Placement.CommandFits` — when a line can be laid out.
* `Hex8.Asm.Placement.annotate` — what comes out of it.

## Main results

* `Hex8.Asm.Numeral.check_eq_ok_iff` — a numeral is accepted by its value, however long it is.
* `Hex8.Asm.placeLine_eq_ok_iff` — one line.
* `Hex8.Asm.layout_eq_ok_iff` — all lines.
-/

namespace Hex8.Asm

/-- A computation of two parts succeeds if both parts do. -/
lemma bind_eq_ok_iff {ε α β : Type} {x : Except ε α} {f : α → Except ε β} {b : β} :
    (x >>= f) = .ok b ↔ ∃ a, x = .ok a ∧ f a = .ok b := by
  rcases x with e | a
  · exact ⟨fun h => (nomatch h), fun ⟨_, h, _⟩ => (nomatch h)⟩
  · exact ⟨fun h => ⟨a, rfl, h⟩, fun ⟨_, h, h'⟩ => by cases h; exact h'⟩

/-- What is left of a computation without its error is the result. -/
lemma toOption_eq_some_iff {ε α : Type} {x : Except ε α} {a : α} :
    x.toOption = some a ↔ x = .ok a := by
  cases x <;> simp [Except.toOption]

/-- A computation that has succeeded has one result. -/
lemma ok_eq_ok_iff {ε α : Type} {a b result : α} (same : a = b) :
    (Except.ok a : Except ε α) = .ok result ↔ result = b := by
  rw [Except.ok.injEq, same]
  exact eq_comm

/-- No quantity has a value that is too large to be looked at. -/
lemma Quantity.max_lt_numberLimit (quantity : Quantity) : quantity.max < numberLimit := by
  cases quantity <;> decide

/-- **A numeral is accepted by its value.** However long it is, it stands for a number that is not
larger than what the quantity allows, and the result is that number. -/
theorem Numeral.check_eq_ok_iff {quantity : Quantity} {numeral : Numeral} {value : UInt8} :
    numeral.check quantity = .ok value ↔
      numeral.value ≤ quantity.max ∧ value = UInt8.ofNat numeral.value := by
  have limit := quantity.max_lt_numberLimit
  rw [check]
  by_cases huge : numberLimit ≤ numeral.value
  · rw [if_pos huge]
    exact ⟨fun h => (nomatch h), fun h => by omega⟩
  · rw [if_neg huge]
    by_cases large : quantity.max < numeral.value
    · rw [if_pos large]
      exact ⟨fun h => (nomatch h), fun h => by omega⟩
    · rw [if_neg large]
      constructor
      · intro h
        exact ⟨by omega, (Except.ok.inj h).symm⟩
      · rintro ⟨-, rfl⟩
        rfl

/-- The cursor is the address of a word if it is inside of the memory. -/
theorem wordAddress_eq_ok_iff {cursor : Nat} {address : UInt8} :
    wordAddress cursor = .ok address ↔ cursor < 256 ∧ address = UInt8.ofNat cursor := by
  rw [wordAddress]
  by_cases inside : cursor < 256
  · rw [if_pos inside]
    exact ⟨fun h => ⟨inside, (Except.ok.inj h).symm⟩, fun h => h.2 ▸ rfl⟩
  · rw [if_neg inside]
    exact ⟨fun h => (nomatch h), fun h => absurd h.1 inside⟩

/-! ## One line -/

/-- The immediate of an operand; a missing one is zero. -/
def Operand.immediate : Option Operand → Immediate
  | none => .number 0
  | some (.number numeral) => .number (UInt8.ofNat numeral.value)
  | some (.name label) => .label label

/-- Whether an operand is small enough as far as it is known without the labels. -/
def Operand.Fits : Option Operand → Prop
  | some (.number numeral) => numeral.value ≤ 15
  | none | some (.name _) => True

/-- An operand is accepted if it fits. -/
lemma Immediate.ofOperand_eq_ok_iff {operand : Option (Located Operand)} {immediate : Immediate} :
    ofOperand operand = .ok immediate ↔
      Operand.Fits (operand.map Located.val) ∧
        immediate = Operand.immediate (operand.map Located.val) := by
  rcases operand with _ | ⟨offset, numeral | name⟩
  · exact ⟨fun h => ⟨trivial, (Except.ok.inj h).symm⟩, fun h => h.2 ▸ rfl⟩
  · change (numeral.check .immediate >>= fun value => pure (Immediate.number value)) = _ ↔ _
    simp only [bind_eq_ok_iff, Numeral.check_eq_ok_iff]
    constructor
    · rintro ⟨value, ⟨small, rfl⟩, h⟩
      exact ⟨small, (Except.ok.inj h).symm⟩
    · rintro ⟨small, rfl⟩
      exact ⟨_, ⟨small, rfl⟩, rfl⟩
  · exact ⟨fun h => ⟨trivial, (Except.ok.inj h).symm⟩, fun h => h.2 ▸ rfl⟩

namespace Content

/-- The instruction of a line. -/
def inst? (line : Content) : Option (Opcode × Immediate) :=
  match line.command with
  | some (.inst mnemonic operand) =>
    (Opcode.ofName? mnemonic).map (·, Operand.immediate operand)
  | _ => none

/-- The word of a line that is given by its value. -/
def word? (line : Content) : Option UInt8 :=
  match line.command with
  | some (.byte value) => some (UInt8.ofNat value.value)
  | _ => none

/-- The byte of a line for the data memory. -/
def data? (line : Content) : Option (UInt8 × UInt8) :=
  match line.command with
  | some (.data address value) => some (UInt8.ofNat address.value, UInt8.ofNat value.value)
  | _ => none

end Content

namespace Placement

/-- Whether there is an address left for the label of a line. -/
def LabelFits (place : Placement) : Prop :=
  place.line.label.isSome → place.cursor < 256

/-- Whether there is an address left for the word of a line, its mnemonic has a meaning and its
numbers are small enough. -/
def CommandFits (place : Placement) : Prop :=
  match place.line.command with
  | none => True
  | some (.position address) => address.value ≤ 255
  | some (.byte value) => place.cursor < 256 ∧ value.value ≤ 255
  | some (.data address value) => address.value ≤ 255 ∧ value.value ≤ 255
  | some (.inst mnemonic operand) =>
    (∃ op : Opcode, op.IsNamed mnemonic) ∧ Operand.Fits operand ∧ place.cursor < 256

/-- Whether a line has an address in the instruction memory. -/
def hasAddress (place : Placement) : Bool :=
  place.line.label.isSome || place.line.hasWord || place.line.position?.isSome

/-- What the line means for a program. -/
def annotate (place : Placement) (text : String) (number : Nat) : SourceLine :=
  { address := if place.hasAddress then some (UInt8.ofNat place.address) else none
    inst := place.line.inst?
    word := place.line.word?
    label := place.line.label
    data := place.line.data?
    text, number }

end Placement

/-- A label takes the address of the cursor. -/
lemma SourceLine.placeLabel_eq_ok_iff {cursor : Nat} {label : Option String} {text : String}
    {number : Nat} {result : SourceLine} :
    (blank text number).placeLabel cursor label = .ok result ↔
      (label.isSome → cursor < 256) ∧
        result =
          { blank text number with
            label, address := label.map fun _ => UInt8.ofNat cursor } := by
  rcases label with _ | name
  · exact ⟨fun h => ⟨fun h => (nomatch h), (Except.ok.inj h).symm⟩, fun h => h.2 ▸ rfl⟩
  · simp only [placeLabel, bind_eq_ok_iff, wordAddress_eq_ok_iff]
    constructor
    · rintro ⟨address, ⟨inside, rfl⟩, h⟩
      exact ⟨fun _ => inside, (Except.ok.inj h).symm⟩
    · rintro ⟨inside, rfl⟩
      exact ⟨_, ⟨inside rfl, rfl⟩, rfl⟩

/-- An instruction behind a label. -/
lemma SourceLine.placeInst_eq_ok_iff {cursor number offset : Nat} {text mnemonic : String}
    {label : Option String} {operand : Option (Located Operand)} {result : SourceLine × Nat} :
    placeStatement cursor (some ⟨offset, .inst mnemonic operand⟩)
        { blank text number with label, address := label.map fun _ => UInt8.ofNat cursor } =
        .ok result ↔
      Placement.CommandFits ⟨cursor, label, some (.inst mnemonic (operand.map Located.val))⟩ ∧
        result = (Placement.annotate
          ⟨cursor, label, some (.inst mnemonic (operand.map Located.val))⟩ text number,
          cursor + 1) := by
  rw [Placement.CommandFits]
  simp only [Opcode.isNamed_iff]
  rcases found : Opcode.ofName? mnemonic with _ | op
  · constructor
    · intro h
      simp only [placeStatement, found] at h
      cases h
    · rintro ⟨⟨⟨op, impossible⟩, -⟩, -⟩
      cases impossible
  · have meaning : Content.inst? ⟨label, some (.inst mnemonic (operand.map Located.val))⟩ =
        some (op, Operand.immediate (operand.map Located.val)) := by
      simp only [Content.inst?, found, Option.map_some]
    simp only [placeStatement, found, bind_eq_ok_iff, Immediate.ofOperand_eq_ok_iff,
      wordAddress_eq_ok_iff, and_assoc, exists_and_left, exists_eq_left, Option.some.injEq,
      exists_eq', true_and]
    refine and_congr_right fun _ => and_congr_right fun _ => ok_eq_ok_iff ?_
    rw [Placement.annotate, meaning]
    cases label <;> rfl

/-- A statement behind a label. Its address takes the place of the label's, which is the same one
unless the statement is `.pos`. -/
lemma SourceLine.placeStatement_eq_ok_iff {cursor number : Nat} {line : Line}
    {result : SourceLine × Nat} :
    placeStatement cursor line.statement
        { blank line.text number with
          label := line.label, address := line.label.map fun _ => UInt8.ofNat cursor } =
        .ok result ↔
      Placement.CommandFits ⟨cursor, line.content⟩ ∧
        result = (Placement.annotate ⟨cursor, line.content⟩ line.text number,
          line.content.advance cursor) := by
  obtain ⟨indent, text, label, statement⟩ := line
  rcases statement with _ | ⟨offset, address | value | ⟨address, value⟩ | ⟨mnemonic, operand⟩⟩
  · refine Iff.trans (ok_eq_ok_iff ?_) (iff_of_eq (true_and _)).symm
    cases label <;> rfl
  · simp only [placeStatement, bind_eq_ok_iff, Numeral.check_eq_ok_iff, and_assoc, exists_and_left,
      exists_eq_left]
    refine and_congr_right fun small => ok_eq_ok_iff ?_
    -- the cursor behind the line is the number itself, not what is left of it in a byte
    rw [UInt8.toNat_ofNat_of_lt' (Nat.lt_succ_of_le small)]
    cases label <;> rfl
  · simp only [placeStatement, bind_eq_ok_iff, Numeral.check_eq_ok_iff, wordAddress_eq_ok_iff,
      and_assoc, exists_and_left, exists_eq_left]
    refine Iff.trans ?_ and_assoc.symm
    refine and_congr_right fun _ => and_congr_right fun _ => ok_eq_ok_iff ?_
    cases label <;> rfl
  · simp only [placeStatement, bind_eq_ok_iff, Numeral.check_eq_ok_iff, and_assoc, exists_and_left,
      exists_eq_left]
    refine Iff.trans ?_ and_assoc.symm
    refine and_congr_right fun _ => and_congr_right fun _ => ok_eq_ok_iff ?_
    cases label <;> rfl
  · exact placeInst_eq_ok_iff

/-- **One line.** It can be laid out if its label and its statement fit where the cursor is. -/
theorem placeLine_eq_ok_iff {cursor number : Nat} {line : Line} {result : SourceLine × Nat} :
    placeLine cursor number line = .ok result ↔
      (Placement.LabelFits ⟨cursor, line.content⟩ ∧ Placement.CommandFits ⟨cursor, line.content⟩) ∧
        result = (Placement.annotate ⟨cursor, line.content⟩ line.text number,
          line.content.advance cursor) := by
  simp only [placeLine, bind_eq_ok_iff, SourceLine.placeLabel_eq_ok_iff]
  constructor
  · rintro ⟨labelled, ⟨inside, rfl⟩, h⟩
    obtain ⟨fits, rfl⟩ := SourceLine.placeStatement_eq_ok_iff.mp h
    exact ⟨⟨inside, fits⟩, rfl⟩
  · rintro ⟨⟨inside, fits⟩, rfl⟩
    exact ⟨_, ⟨inside, rfl⟩, SourceLine.placeStatement_eq_ok_iff.mpr ⟨fits, rfl⟩⟩

/-! ## All lines -/

/-- The annotated lines, each one at its place. -/
def annotations (cursor : Nat) : List NumberedLine → List SourceLine
  | [] => []
  | first :: others =>
    Placement.annotate ⟨cursor, first.line.content⟩ first.line.text first.number ::
      annotations (first.line.content.advance cursor) others

/-- **All lines.** They can be laid out if each of them fits where the cursor is.

**Proof sketch.** Induction on the lines; the cursor behind a line does not depend on whether the
line fits. -/
theorem layout_eq_ok_iff {cursor : Nat} {numbered : List NumberedLine}
    {annotated : List SourceLine} :
    layout cursor numbered = .ok annotated ↔
      (∀ place ∈ placements cursor (numbered.map (·.line.content)),
        place.LabelFits ∧ place.CommandFits) ∧
      annotated = annotations cursor numbered := by
  induction numbered generalizing cursor annotated with
  | nil =>
    constructor
    · intro h
      exact ⟨fun _ hplace => absurd hplace List.not_mem_nil, (Except.ok.inj h).symm⟩
    · rintro ⟨-, rfl⟩
      rfl
  | cons first others ih =>
    rw [layout, List.map_cons, placements, List.forall_mem_cons]
    rcases placed : placeLine cursor first.number first.line with cause | result
    · constructor
      · intro h
        cases h
      · rintro ⟨⟨fits, -⟩, -⟩
        have success : placeLine cursor first.number first.line = .ok _ :=
          placeLine_eq_ok_iff.mpr ⟨fits, rfl⟩
        rw [placed] at success
        cases success
    · obtain ⟨fits, rfl⟩ := placeLine_eq_ok_iff.mp placed
      simp only [bind_eq_ok_iff, ih]
      constructor
      · rintro ⟨_, ⟨fits', rfl⟩, h⟩
        exact ⟨⟨fits, fits'⟩, (Except.ok.inj h).symm⟩
      · rintro ⟨⟨-, fits'⟩, rfl⟩
        exact ⟨_, ⟨fits', rfl⟩, rfl⟩

/-- What is read off the annotated lines can be read off the lines at their places, unless it has to
do with the texts or the numbers of the lines. -/
theorem map_annotations {α : Type} {f : SourceLine → α} {g : Placement → α}
    (same : ∀ place text number, f (Placement.annotate place text number) = g place) (cursor : Nat)
    (numbered : List NumberedLine) :
    (annotations cursor numbered).map f =
      (placements cursor (numbered.map (·.line.content))).map g := by
  induction numbered generalizing cursor with
  | nil => rfl
  | cons first others ih =>
    rw [annotations, List.map_cons, List.map_cons, placements, List.map_cons, same, ih]

end Hex8.Asm
