import Hex8.Proofs.Assembling
import Hex8.Proofs.ReadText

set_option relaxedAutoImplicit false
set_option autoImplicit false

/-!
# Which texts can be assembled

A text can be assembled if it fits the grammar and what its lines say is well-formed. Both are said
here without the passes of the assembler: labels may be used in front of their definitions, and the
conditions on different lines stand side by side.

## Main definitions

* `Hex8.Asm.WellFormed` — when lines that can be read can also be assembled.

## Main results

* `Hex8.Asm.Linkable.wellFormed`, `Hex8.Asm.WellFormed.linkable` — the passes of the assembler check
  what has to be checked.
* `Hex8.Asm.exists_assemble_iff` — which texts can be assembled.
-/

namespace Hex8.Asm

/-- The numbers of a directive. -/
def Content.numbers (line : Content) : List Numeral :=
  match line.command with
  | some (.position address) => [address]
  | some (.byte value) => [value]
  | some (.data address value) => [address, value]
  | some (.inst _ _) | none => []

/-- When lines that can be read can also be assembled. -/
structure WellFormed (lines : List Content) : Prop where
  /-- Every mnemonic is the name of an operation. -/
  mnemonics : ∀ line ∈ lines, ∀ mnemonic operand,
    line.command = some (.inst mnemonic operand) → ∃ op : Opcode, op.IsNamed mnemonic
  /-- Every number that is an operand has four bits. -/
  immediates : ∀ line ∈ lines, ∀ mnemonic numeral,
    line.command = some (.inst mnemonic (some (.number numeral))) → numeral.value ≤ 15
  /-- Every number of a directive has eight bits. -/
  numbers : ∀ line ∈ lines, ∀ numeral ∈ line.numbers, numeral.value ≤ 255
  /-- There is an address left for every label and for every word. -/
  inside : ∀ place ∈ placements 0 lines,
    place.line.label.isSome ∨ place.line.hasWord → place.cursor < 256
  /-- No label is defined twice. -/
  unique : (lines.filterMap Content.label).Nodup
  /-- Every label that is an operand is defined somewhere, and has four bits as an operand. -/
  resolved : ∀ place ∈ placements 0 lines, ∀ mnemonic name (op : Opcode),
    place.line.command = some (.inst mnemonic (some (.name name))) → op.IsNamed mnemonic →
      ∃ target, Defines lines name target ∧ op.labelOperand place.cursor target ≤ 15

variable {lines : List Content}

/-- Lines that nothing is wrong with are well-formed. -/
lemma Linkable.wellFormed (linkable : Linkable lines) : WellFormed lines where
  mnemonics line inside mnemonic operand command := by
    obtain ⟨place, placed, rfl⟩ := exists_placement inside
    have fits := (linkable.fits place placed).2
    rw [Placement.CommandFits, command] at fits
    exact fits.1
  immediates line inside mnemonic numeral command := by
    obtain ⟨place, placed, rfl⟩ := exists_placement inside
    have fits := (linkable.fits place placed).2
    rw [Placement.CommandFits, command] at fits
    exact fits.2.1
  numbers line inside numeral hnumeral := by
    obtain ⟨place, placed, rfl⟩ := exists_placement inside
    have fits := (linkable.fits place placed).2
    rw [Placement.CommandFits] at fits
    rw [Content.numbers] at hnumeral
    rcases command : place.line.command with
      _ | address | value | ⟨address, value⟩ | ⟨mnemonic, operand⟩ <;>
      simp only [command, List.mem_cons, List.not_mem_nil, or_false] at fits hnumeral
    · rw [hnumeral]
      exact fits
    · rw [hnumeral]
      exact fits.2
    · rcases hnumeral with rfl | rfl
      · exact fits.1
      · exact fits.2
  inside place placed h := by
    obtain ⟨label, fits⟩ := linkable.fits place placed
    rcases h with labelled | hasWord
    · exact label labelled
    · rw [Placement.CommandFits] at fits
      rcases Content.hasWord_iff.mp hasWord with ⟨value, command⟩ | ⟨mnemonic, operand, command⟩ <;>
        rw [command] at fits
      · exact fits.1
      · exact fits.2.2
  unique := linkable.unique
  resolved place placed mnemonic name op command named := by
    have fits := (linkable.fits place placed).2
    rw [Placement.CommandFits, command] at fits
    have address : (UInt8.ofNat place.cursor).toNat = place.cursor :=
      UInt8.toNat_ofNat_of_lt' fits.2.2
    have resolves := (Placement.exists_cell?_iff command named).mp (linkable.cells place placed)
    obtain ⟨target, found, small⟩ := Immediate.exists_resolve_label_iff.mp resolves
    rw [address] at small
    exact ⟨target.toNat, linkable.find?_symbolsOf.mp found, small⟩

/-- Well-formed lines can be laid out. -/
lemma WellFormed.placeable (wellFormed : WellFormed lines) : Placeable lines where
  fits place placed := by
    have inside := wellFormed.inside place placed
    have numbers := wellFormed.numbers place.line (line_mem placed)
    refine ⟨fun labelled => inside (.inl labelled), ?_⟩
    rw [Content.numbers] at numbers
    rw [Content.hasWord] at inside
    rw [Placement.CommandFits]
    rcases command : place.line.command with
      _ | address | value | ⟨address, value⟩ | ⟨mnemonic, operand⟩ <;>
      simp only [command, List.forall_mem_cons, Bool.false_eq_true, or_true, forall_const]
        at numbers inside
    · trivial
    · exact numbers.1
    · exact ⟨inside, numbers.1⟩
    · exact ⟨numbers.1, numbers.2.1⟩
    · refine ⟨wellFormed.mnemonics _ (line_mem placed) mnemonic operand command, ?_, inside⟩
      rcases operand with _ | numeral | name
      · trivial
      · exact wellFormed.immediates _ (line_mem placed) mnemonic numeral command
      · trivial
  unique := wellFormed.unique

/-- Nothing is wrong with well-formed lines. -/
lemma WellFormed.linkable (wellFormed : WellFormed lines) : Linkable lines where
  toPlaceable := wellFormed.placeable
  cells place placed := by
    have fits := (wellFormed.placeable.fits place placed).2
    rw [Placement.CommandFits] at fits
    rcases command : place.line.command with
      _ | address | value | ⟨address, value⟩ | ⟨mnemonic, operand⟩
    · exact ⟨none, by rw [Placement.cell?, command]⟩
    · exact ⟨none, by rw [Placement.cell?, command]⟩
    · exact ⟨_, by rw [Placement.cell?, command]⟩
    · exact ⟨none, by rw [Placement.cell?, command]⟩
    · rw [command] at fits
      obtain ⟨⟨op, named⟩, small, inside⟩ := fits
      rw [Placement.exists_cell?_iff command named]
      rcases operand with _ | numeral | name
      · exact ⟨0, Immediate.resolve_number (Nat.zero_le 15) _ op _⟩
      · exact ⟨_, Immediate.resolve_number small _ op _⟩
      · obtain ⟨target, defined, bound⟩ :=
          wellFormed.resolved place placed mnemonic name op command named
        have target_lt := wellFormed.placeable.lt_of_defines defined
        rw [← UInt8.toNat_ofNat_of_lt' inside, ← UInt8.toNat_ofNat_of_lt' target_lt] at bound
        rw [← UInt8.toNat_ofNat_of_lt' target_lt] at defined
        exact Immediate.exists_resolve_label_iff.mpr
          ⟨_, wellFormed.placeable.find?_symbolsOf.mpr defined, bound⟩

/-- **Which texts can be assembled**: those that fit the grammar, and whose lines are well-formed.

**Proof sketch.** The assembler reads what the grammar says (`Hex8.Asm.Grammar.parse_eq`), and its
passes succeed if the lines can be laid out and linked (`Hex8.Asm.assemble_eq_ok_iff`). That is what
the conditions on well-formed lines add up to. -/
theorem exists_assemble_iff (text : String) :
    (∃ assembly, assemble text = .ok assembly) ↔
      ∃ lines, Grammar.parse text.toList = some lines ∧ WellFormed lines := by
  simp only [assemble_eq_ok_iff, Grammar.parse_eq]
  constructor
  · rintro ⟨assembly, numbered, read, linkable, -⟩
    rw [read]
    exact ⟨_, rfl, linkable.wellFormed⟩
  · rintro ⟨lines, read, wellFormed⟩
    rcases found : parseSource text.toList with error | numbered
    · rw [found] at read
      cases read
    · rw [found] at read
      cases read
      exact ⟨_, numbered, rfl, wellFormed.linkable, rfl⟩

end Hex8.Asm
